import Mathlib
import Migrator.Proofs.Build
import Migrator.Proofs.Manifest

/-! Builds one after another. A world is ready for a build (`BuildReady`) when the migration
directory is there with no entry a link to a missing name and the manifest file holds the
manifest; a build keeps it ready. The chain the directory holds grows by both scripts of each
version built, so a valid chain (`ChainState.Valid`) stays valid and the next build gets past the
chain check whatever its target. A failed build leaves the scripts of a first part of its targets
and nothing else. -/
namespace Migrator

open Std.Do Files

namespace ChainState

variable {m : Manifest} {s : ChainState} {target : Option String} {ts : List String}

/-- The chain invariant: every version has both scripts or neither, and the versions built are a
gapless prefix of the manifest. -/
def Valid (m : Manifest) (s : ChainState) : Prop := s.Paired ∧ GaplessPrefix m s.up

theorem gaplessPrefix_congr {xs ys : List String} (same : ∀ v, v ∈ xs ↔ v ∈ ys)
    (gapless : GaplessPrefix m xs) : GaplessPrefix m ys := by
  intro v
  simp only [← same]
  exact gapless v

/-- The empty chain is valid: nothing is built, and nothing lies below a version not built. -/
theorem valid_empty : ChainState.Valid m {} :=
  ⟨fun _ => Iff.rfl, fun v => ⟨fun member => absurd member List.not_mem_nil,
    fun ⟨member, below⟩ => absurd (below v member List.not_mem_nil) (lt_irrefl v)⟩⟩

/-- The built versions with the selected targets added are again a gapless prefix: a version the
targets leave out lies above the target, which every target is at most. -/
theorem gaplessPrefix_append_targets (ordered : m.Ordered) (ok : s.selectTargets m target = .ok ts) :
    GaplessPrefix m (s.up ++ ts) := by
  obtain ⟨targets, -⟩ := selectTargets_ok_targets ordered ok
  obtain ⟨-, -, gapless⟩ := (selectTargets_ok_iff ordered).mp ⟨ts, ok⟩
  intro v
  constructor
  · intro member
    rcases List.mem_append.mp member with built | selected
    · obtain ⟨inM, below⟩ := (gapless v).mp built
      exact ⟨inM, fun n inN missing => below n inN fun b => missing (List.mem_append_left _ b)⟩
    · rw [targets] at selected
      simp only [List.mem_filter, Bool.and_eq_true, Bool.not_eq_true', List.contains_eq_mem,
        decide_eq_false_iff_not] at selected
      obtain ⟨inM, -, upTo⟩ := selected
      refine ⟨inM, fun n inN missing => ?_⟩
      have notTarget : n ∉ ts := fun t => missing (List.mem_append_right _ t)
      have notBuilt : n ∉ s.up := fun b => missing (List.mem_append_left _ b)
      rw [targets] at notTarget
      cases target with
      | none => simp [inN, notBuilt] at notTarget
      | some t =>
        simp only [List.mem_filter, inN, notBuilt, Option.all_some, decide_eq_true_eq,
          List.contains_eq_mem, decide_false, Bool.not_false, Bool.true_and, true_and,
          not_le] at notTarget upTo
        exact lt_of_le_of_lt upTo notTarget
  · rintro ⟨inM, below⟩
    by_contra missing
    exact lt_irrefl v (below v inM missing)

/-- Building the selected targets over a chain leaves a valid chain. -/
theorem valid_append_targets (ordered : m.Ordered) (ok : s.selectTargets m target = .ok ts) :
    (ChainState.ofLists (s.up ++ ts) (s.down ++ ts)).Valid m := by
  obtain ⟨-, paired, -⟩ := (selectTargets_ok_iff ordered).mp ⟨ts, ok⟩
  refine ⟨fun v => ?_, gaplessPrefix_congr (fun v => ?_) (gaplessPrefix_append_targets ordered ok)⟩
  · simp [ofLists, mem_sortedSet, paired v]
  · simp [ofLists, mem_sortedSet]

/-- Over a valid chain, the chain check passes for every target of the manifest. -/
theorem Valid.selectTargets_ok (ordered : m.Ordered) (valid : s.Valid m)
    (known : target.all m.contains) : ∃ ts, s.selectTargets m target = .ok ts :=
  (selectTargets_ok_iff ordered).mpr ⟨known, valid⟩

end ChainState

theorem PlainNames.append {xs ys : List Name} (left : PlainNames xs) (right : PlainNames ys) :
    PlainNames (xs ++ ys) := fun n member =>
  (List.mem_append.mp member).elim (left n) (right n)

section Built

variable {t t' : Tree} {cwd D : Location} {dir : Path} {versions : List String}

/-- What a build adds holds plain files only: the lock file and scripts. -/
theorem Built.plain (named : ∀ v ∈ versions, ScriptVersion v) {lock : List Name}
    (sub : lock.Sublist [lockName]) : PlainNames (lock ++ versions.flatMap scriptNames) :=
  (lockAdded_names sub).1.append (plainNames_scriptNames named)

/-- The chain a directory holds after a build is the chain before with both scripts of each
version built. -/
theorem Built.chainOf (dirAt : stat t cwd dir.bytes = .ok (D, .dir)) (linked : NoDangling t cwd dir D)
    (named : ∀ v ∈ versions, ScriptVersion v) (built : Built t t' D versions) :
    Migrator.chainOf t' cwd dir D = ChainState.ofLists
      ((Migrator.chainOf t cwd dir D).up ++ versions) ((Migrator.chainOf t cwd dir D).down ++ versions) := by
  obtain ⟨lock, sub, adds⟩ := built
  rw [chainOf_adds adds dirAt (Built.plain named sub) linked, scriptsOfNames_append,
    scriptsOfNames_append, (lockAdded_names sub).2, (lockAdded_names sub).2,
    scriptsOfNames_scriptNames named, scriptsOfNames_scriptNames named, List.nil_append]

theorem Built.noDangling (dirAt : stat t cwd dir.bytes = .ok (D, .dir))
    (linked : NoDangling t cwd dir D) (named : ∀ v ∈ versions, ScriptVersion v)
    (built : Built t t' D versions) : NoDangling t' cwd dir D := by
  obtain ⟨lock, sub, adds⟩ := built
  exact noDangling_adds adds dirAt (Built.plain named sub) linked

theorem Built.extends (built : Built t t' D versions) : t.Extends t' := by
  obtain ⟨lock, -, adds⟩ := built
  exact adds.extends

end Built

/-- What a build asks of the world: the migration directory found at `D`, none of its entries a
link to a missing name, and the manifest file holding `text`. -/
structure BuildReady (s : Settings) (text : String) (D : Location) (h : Host) : Prop where
  dirAt : stat h.tree h.cwd s.migrationDir.bytes = .ok (D, .dir)
  linked : NoDangling h.tree h.cwd s.migrationDir D
  held : readAt h.tree h.cwd s.manifest.bytes = .ok text.toUTF8.toList

namespace BuildReady

variable {s : Settings} {text : String} {D : Location} {h h' : Host}

/-- Scanning a ready directory reads the chain it holds. -/
theorem scan (ready : BuildReady s text D h) :
    (Host.run (scanArtifacts s.migrationDir) h).1 = .ok (chainOf h.tree h.cwd s.migrationDir D) := by
  obtain ⟨scanned, failed⟩ :=
    Host.run_of_triple (scanArtifacts_spec s.migrationDir h.world D ready.dirAt) rfl
  rcases result : Host.run (scanArtifacts s.migrationDir) h with ⟨_ | S, h'⟩
  · exact (failed _ h' result).elim
  · obtain ⟨-, rfl⟩ := scanned S h' result
    rfl

/-- Adding scripts to a ready world keeps it ready. -/
theorem built (ready : BuildReady s text D h) {versions : List String}
    (named : ∀ v ∈ versions, ScriptVersion v) (built : Built h.tree h'.tree D versions)
    (cwd : h'.cwd = h.cwd) : BuildReady s text D h' := by
  refine ⟨?_, ?_, ?_⟩ <;> rw [cwd]
  · exact stat_eq_of_extends built.extends ready.dirAt
  · exact built.noDangling ready.dirAt ready.linked named
  · exact readAt_eq_of_extends built.extends ready.held

/-- A migration directory whose only entry leads to something that exists has no entry a link
to a missing name. -/
theorem of_single_entry (n : Name) (found : Location) (e : Entry)
    (dirAt : stat h.tree h.cwd s.migrationDir.bytes = .ok (D, .dir))
    (listed : h.tree.children D = [n])
    (leads : lookup h.tree h.cwd (s.migrationDir.join ⟨n⟩).bytes true = .ok (.found found e))
    (held : readAt h.tree h.cwd s.manifest.bytes = .ok text.toUTF8.toList) :
    BuildReady s text D h := by
  refine ⟨dirAt, fun n' member parent name => ?_, held⟩
  rw [listed, List.mem_singleton] at member
  subst member
  rw [leads]
  simp

variable {target : Option String} {p : Provenance} {m : Manifest} {r : BuildResult}

/-- A successful build from a ready world builds the versions the chain check selects on the
chain the directory held, and leaves the world ready, holding that chain with the targets
added. -/
theorem run_ok (ready : BuildReady s text D h) (parsed : Manifest.parse text = .ok m)
    (named : ∀ v ∈ m.versions, ScriptVersion v)
    (ran : Host.run (buildWithProvenance s target p) h = (.ok r, h')) :
    ∃ ts, (chainOf h.tree h.cwd s.migrationDir D).selectTargets m target = .ok ts ∧
      r.generated.map GeneratedVersion.version = ts ∧ BuildReady s text D h' ∧
      chainOf h'.tree h'.cwd s.migrationDir D = ChainState.ofLists
        ((chainOf h.tree h.cwd s.migrationDir D).up ++ ts)
        ((chainOf h.tree h.cwd s.migrationDir D).down ++ ts) ∧
      ∀ g ∈ r.generated, Generated h'.tree s D m p g := by
  obtain ⟨ts, selected, versions, built, cwd, -, generated⟩ :=
    (Host.run_of_triple (buildWithProvenance_spec s target p parsed named D h.world ready.dirAt
      ready.linked ready.held) rfl).1 r h' ran
  have targetsNamed : ∀ v ∈ ts, ScriptVersion v :=
    fun v member => named v (ChainState.mem_versions_of_selectTargets selected member)
  refine ⟨ts, selected, versions, ready.built targetsNamed built cwd, ?_, generated⟩
  rw [cwd]
  exact built.chainOf ready.dirAt ready.linked targetsNamed

end BuildReady

/-- `h'` follows from `h` by successful builds, one for each target in turn. -/
inductive Builds (s : Settings) (p : Provenance) : Host → List (Option String) → Host → Prop
  | nil (h : Host) : Builds s p h [] h
  | cons {h h₁ h' : Host} {target : Option String} {targets : List (Option String)}
      {r : BuildResult} :
      Host.run (buildWithProvenance s target p) h = (.ok r, h₁) → Builds s p h₁ targets h' →
      Builds s p h (target :: targets) h'

/-- Successful builds keep a ready world ready, and a valid chain valid. -/
theorem Builds.valid {s : Settings} {p : Provenance} {text : String} {m : Manifest} {D : Location}
    (parsed : Manifest.parse text = .ok m) (named : ∀ v ∈ m.versions, ScriptVersion v)
    {h h' : Host} {targets : List (Option String)} (runs : Builds s p h targets h')
    (ready : BuildReady s text D h) (valid : (chainOf h.tree h.cwd s.migrationDir D).Valid m) :
    BuildReady s text D h' ∧ (chainOf h'.tree h'.cwd s.migrationDir D).Valid m := by
  induction runs with
  | nil => exact ⟨ready, valid⟩
  | cons ran _ ih =>
    obtain ⟨ts, selected, -, ready', grown, -⟩ := ready.run_ok parsed named ran
    exact ih ready' (grown ▸ ChainState.valid_append_targets (Manifest.parse_ordered parsed) selected)

/-- A successful build over a manifest whose versions name their scripts, from a ready world:
the versions generated are those the chain check selects on the chain scanned before, ascending;
scanning afterwards finds the chain before with both scripts of each of them, again valid, so the
chain check passes for every target; and each script holds the rendering of its version's
commands with the footer, its digest the hash of those bytes. So builds one after another from an
empty directory never leave a chain the next build rejects. -/
theorem buildWithProvenance_keeps_chain_valid (s : Settings) (p : Provenance) {text : String}
    {m : Manifest} (parsed : Manifest.parse text = .ok m)
    (named : ∀ v ∈ m.versions, ScriptVersion v) (D : Location) :
    (∀ (target : Option String) (h h' : Host) (r : BuildResult), BuildReady s text D h →
      Host.run (buildWithProvenance s target p) h = (.ok r, h') →
      ∃ S₀ S₁ ts, (Host.run (scanArtifacts s.migrationDir) h).1 = .ok S₀ ∧
        S₀.selectTargets m target = .ok ts ∧ ts.Pairwise (· < ·) ∧
        r.generated.map GeneratedVersion.version = ts ∧
        (Host.run (scanArtifacts s.migrationDir) h').1 = .ok S₁ ∧
        S₁.up = S₁.down ∧ (∀ v, v ∈ S₁.up ↔ v ∈ S₀.up ∨ v ∈ ts) ∧ GaplessPrefix m S₁.up ∧
        (∀ target', target'.all m.contains → ∃ ts', S₁.selectTargets m target' = .ok ts') ∧
        ∀ g ∈ r.generated, Generated h'.tree s D m p g) ∧
    ∀ (targets : List (Option String)) (h h' : Host), BuildReady s text D h →
      (Host.run (scanArtifacts s.migrationDir) h).1 = .ok {} → Builds s p h targets h' →
      ∀ target', target'.all m.contains →
        ∃ S ts', (Host.run (scanArtifacts s.migrationDir) h').1 = .ok S ∧
          S.selectTargets m target' = .ok ts' := by
  have ordered := Manifest.parse_ordered parsed
  refine ⟨fun target h h' r ready ran => ?_, fun targets h h' ready empty runs target' known => ?_⟩
  · obtain ⟨ts, selected, versions, ready', grown, generated⟩ := ready.run_ok parsed named ran
    obtain ⟨-, paired, -⟩ := (ChainState.selectTargets_ok_iff ordered).mp ⟨ts, selected⟩
    have valid := ChainState.valid_append_targets ordered selected
    rw [← grown] at valid
    refine ⟨_, _, ts, ready.scan, selected, (ChainState.selectTargets_ok_targets ordered selected).2,
      versions, ready'.scan, ?_, fun v => ?_, valid.2, fun _ known => valid.selectTargets_ok ordered known,
      generated⟩
    · -- both directions hold the versions built before and the targets, sorted alike
      rw [grown]
      exact sortedSet_congr fun v => by simp [paired v]
    · rw [grown]
      simp [ChainState.ofLists, mem_sortedSet]
  · -- from an empty chain, which is valid, every build keeps the chain valid
    have start : chainOf h.tree h.cwd s.migrationDir D = {} := Except.ok.inj (ready.scan.symm.trans empty)
    obtain ⟨ready', valid⟩ := runs.valid parsed named ready (start ▸ ChainState.valid_empty)
    obtain ⟨ts', selected⟩ := valid.selectTargets_ok ordered known
    exact ⟨_, ts', ready'.scan, selected⟩

/-! ### A sample project -/

/-- The project `p`: an empty source directory `p/src`, and the migration directory
`p/migrations` holding the manifest `text` and the entries `extra`. -/
def sampleProject (text : String) (extra : List (Name × Entry)) : Host :=
  { tree := ⟨[([[112]], .dir), ([[112], "src".toUTF8.toList], .dir),
      ([[112], "migrations".toUTF8.toList], .dir),
      ([[112], "migrations".toUTF8.toList, "manifest.toml".toUTF8.toList], .file text.toUTF8.toList)] ++
      extra.map fun e => ([[112], "migrations".toUTF8.toList, e.1], e.2)⟩ }

/-- Where the migration directory of `sampleProject` is. -/
def sampleMigrations : Location := [[112], "migrations".toUTF8.toList]

/-- The footer values of the sample builds. -/
def sampleProvenance : Provenance := ⟨⟨1704164645, false⟩, "0.3", "0.3.0"⟩

/-- The manifest table of a version, under the TOML key `key`, whose up script creates the
object `name` of type `objectType` and whose down script drops it again. -/
def createDropVersion (key name objectType : String) : String :=
  "[" ++ key ++ "]\nup = [\x7bname = \"" ++ name ++ "\", type = \"" ++ objectType ++
    "\", action = \"create\"\x7d]\ndown = [\x7bname = \"" ++ name ++ "\", type = \"" ++ objectType ++
    "\", action = \"drop\"\x7d]\n"

/-- The spec such a version reads as. -/
def createDropSpec (name objectType : String) : BuildSpec :=
  ⟨[⟨name, objectType, .create⟩], [⟨name, objectType, .drop⟩]⟩

/-- A build of every version of the sample project, with the default settings. -/
def buildSample (text : String) (extra : List (Name × Entry)) : Except Error BuildResult × Host :=
  Host.run (buildWithProvenance (Settings.new (.ofString "p")) none sampleProvenance)
    (sampleProject text extra)

/-- A scan of the sample project's migration directory. -/
def scanSample (h : Host) : Except Error ChainState :=
  (Host.run (scanArtifacts (Settings.new (.ofString "p")).migrationDir) h).1

set_option maxRecDepth 100000 in
/-- Built from scratch, the sample project with one version leaves a chain that the chain check
passes for every target. -/
theorem sampleProject_build_then_any_target :
    ∃ r, (buildSample (createDropVersion "0001" "s" "schema") []).1 = .ok r ∧
      ∀ target, target.all (Manifest.contains ⟨[("0001", createDropSpec "s" "schema")]⟩) →
        ∃ S ts, scanSample (buildSample (createDropVersion "0001" "s" "schema") []).2 = .ok S ∧
          S.selectTargets ⟨[("0001", createDropSpec "s" "schema")]⟩ target = .ok ts := by
  -- the facts about the sample project, evaluated together so that the run is evaluated once
  obtain ⟨parsed, dirAt, listed, leads, held, ok⟩ :
      Manifest.parse (createDropVersion "0001" "s" "schema") =
        .ok ⟨[("0001", createDropSpec "s" "schema")]⟩ ∧
      stat (sampleProject (createDropVersion "0001" "s" "schema") []).tree []
        (Settings.new (.ofString "p")).migrationDir.bytes = .ok (sampleMigrations, .dir) ∧
      (sampleProject (createDropVersion "0001" "s" "schema") []).tree.children sampleMigrations =
        ["manifest.toml".toUTF8.toList] ∧
      lookup (sampleProject (createDropVersion "0001" "s" "schema") []).tree []
        ((Settings.new (.ofString "p")).migrationDir.join ⟨"manifest.toml".toUTF8.toList⟩).bytes true =
        .ok (.found (sampleMigrations ++ ["manifest.toml".toUTF8.toList])
          (.file (createDropVersion "0001" "s" "schema").toUTF8.toList)) ∧
      readAt (sampleProject (createDropVersion "0001" "s" "schema") []).tree []
        (Settings.new (.ofString "p")).manifest.bytes =
        .ok (createDropVersion "0001" "s" "schema").toUTF8.toList ∧
      (buildSample (createDropVersion "0001" "s" "schema") []).1.isOk = true := by
    decide +kernel
  have named : ∀ v ∈ Manifest.versions ⟨[("0001", createDropSpec "s" "schema")]⟩,
      ScriptVersion v := by
    simp only [Manifest.versions, List.map_cons, List.map_nil, List.mem_singleton, forall_eq]
    exact ⟨by decide, by decide, by decide⟩
  have ready := BuildReady.of_single_entry _ _ _ dirAt listed leads held
  obtain ⟨r, ran⟩ : ∃ r, (buildSample (createDropVersion "0001" "s" "schema") []).1 = .ok r := by
    cases result : (buildSample (createDropVersion "0001" "s" "schema") []).1 with
    | ok r => exact ⟨r, rfl⟩
    | error e => simp [result, Except.isOk, Except.toBool] at ok
  refine ⟨r, ran, fun target known => ?_⟩
  obtain ⟨-, S₁, -, -, -, -, -, scanned, -, -, -, passes, -⟩ :=
    (buildWithProvenance_keeps_chain_valid _ sampleProvenance parsed named _).1 none _ _ r ready
      (Prod.ext ran rfl)
  obtain ⟨ts, selected⟩ := passes target known
  exact ⟨S₁, ts, scanned, selected⟩

set_option maxRecDepth 100000 in
/-- Where versions do not name their scripts, or the migration directory holds links to missing
names, a successful build leaves a chain other than the chain before with its targets added. The
scripts of the versions `""`, `a⏎b` and `x/y` (the last with a directory `x` there) are written,
but the scan reads none of them back; and a lock file that is a link to `0001_up.sql`, beside
`0001_down.sql` a link to the same, makes that script when the lock is taken, so the build finds
`0001` built and generates nothing where the chain scanned before selects `0001`. -/
theorem build_chain_misses_targets :
    ((buildSample (createDropVersion "\"\"" "s" "schema") []).1.map
        (fun r => r.generated.map GeneratedVersion.version) = .ok [""] ∧
      scanSample (buildSample (createDropVersion "\"\"" "s" "schema") []).2 = .ok {}) ∧
    ((buildSample (createDropVersion "\"a\\nb\"" "s" "schema") []).1.map
        (fun r => r.generated.map GeneratedVersion.version) = .ok ["a\nb"] ∧
      scanSample (buildSample (createDropVersion "\"a\\nb\"" "s" "schema") []).2 = .ok {}) ∧
    ((buildSample (createDropVersion "\"x/y\"" "s" "schema") [("x".toUTF8.toList, .dir)]).1.map
        (fun r => r.generated.map GeneratedVersion.version) = .ok ["x/y"] ∧
      scanSample (buildSample (createDropVersion "\"x/y\"" "s" "schema")
        [("x".toUTF8.toList, .dir)]).2 = .ok {}) ∧
    (scanSample (sampleProject (createDropVersion "0001" "s" "schema")
        [(".odyssey.lock".toUTF8.toList, .link "0001_up.sql".toUTF8.toList),
          ("0001_down.sql".toUTF8.toList, .link "0001_up.sql".toUTF8.toList)]) = .ok {} ∧
      (Manifest.parse (createDropVersion "0001" "s" "schema")).bind
          (fun m => ({} : ChainState).selectTargets m none) = .ok ["0001"] ∧
      (buildSample (createDropVersion "0001" "s" "schema")
        [(".odyssey.lock".toUTF8.toList, .link "0001_up.sql".toUTF8.toList),
          ("0001_down.sql".toUTF8.toList, .link "0001_up.sql".toUTF8.toList)]).1.map
        (fun r => r.generated.map GeneratedVersion.version) = .ok []) := by
  -- one kernel evaluation per build, so that no evaluation holds two runs at once
  refine ⟨?_, ?_, ?_, ?_⟩ <;> decide +kernel

end Migrator
