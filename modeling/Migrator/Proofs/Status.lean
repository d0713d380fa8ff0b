import Mathlib
import Migrator.Status.Chain
import Migrator.Proofs.Artifact
import Migrator.Proofs.Scan
import Migrator.Proofs.Manifest
import Migrator.Proofs.Runs

/-! The status of the chain. The status of a project whose manifest loads and whose migration
directory is a directory is the chain the directory holds (`chainOf`) put in words
(`chainStatus_spec`): every version with a script once, in ascending order, with the digest of
each of its scripts that is a regular file, and the chain check's answer for no target, kept as
data. Where the directory's entry names are UTF-8 texts without a slash, the scan and the
digests look at the same files: the file a version's script name names is a regular file
exactly when the scan found that script (`isFileAt_script_iff`). -/
namespace Migrator

open Std.Do Files

set_option mvcgen.warning false

/-- The digest of the bytes of a regular file, links followed; none for anything else. -/
def fileDigest (t : Tree) (cwd : Location) (path : Path) : Option String :=
  (readAt t cwd path.bytes).toOption.map hashBytes

/-- A version with scripts, as the status reports it from the tree. -/
def builtOf (t : Tree) (cwd : Location) (s : Settings) (version : String) : BuiltVersion :=
  ⟨version, fileDigest t cwd (artifactPath s.migrationDir version .up),
    fileDigest t cwd (artifactPath s.migrationDir version .down)⟩

/-- The status of a chain: its versions with scripts, and the chain check for no target with a
failure turned into its message. -/
def statusOf (t : Tree) (cwd : Location) (s : Settings) (m : Manifest) (state : ChainState) :
    ChainStatus :=
  match state.selectTargets m none with
  | .ok pending =>
    ⟨m.entries.length, (sortedSet (state.up ++ state.down)).map (builtOf t cwd s), pending, none⟩
  | .error e =>
    ⟨m.entries.length, (sortedSet (state.up ++ state.down)).map (builtOf t cwd s), [],
      some e.message⟩

theorem isFileAt_iff_readAt {t : Tree} {cwd : Location} {bytes : List UInt8} :
    isFileAt t cwd bytes = true ↔ ∃ content, readAt t cwd bytes = .ok content := by
  unfold isFileAt readAt
  cases stat t cwd bytes with
  | ok found =>
    obtain ⟨loc, e⟩ := found
    cases e <;> simp
  | error f => simp

theorem fileDigest_eq_none {t : Tree} {cwd : Location} {path : Path}
    (other : isFileAt t cwd path.bytes = false) : fileDigest t cwd path = none := by
  cases read : readAt t cwd path.bytes with
  | ok content =>
    have file := isFileAt_iff_readAt.mpr ⟨content, read⟩
    simp_all
  | error f => simp [fileDigest, read, Except.toOption]

section Frames

variable (w : Tree × Location × List Location)

/-- Mapping an action that leaves the world over a list leaves the world and gives the values
one by one. -/
theorem mapM_spec {α β : Type} (f : α → HostM β) (g : α → β)
    (each : ∀ x, ⦃fun h => ⌜h.world = w⌝⦄ f x ⦃⇓ r h => ⌜h.world = w ∧ r = g x⌝⦄)
    (xs : List α) :
    ⦃fun h => ⌜h.world = w⌝⦄ xs.mapM f ⦃⇓ r h => ⌜h.world = w ∧ r = xs.map g⌝⦄ := by
  induction xs with
  | nil =>
    rw [List.mapM_nil]
    mvcgen
  | cons x xs ih =>
    rw [List.mapM_cons]
    have first := each x
    mvcgen [first, ih]
    all_goals simp_all

theorem digestIfPresent_spec (s : Settings) (version : String) (direction : Direction) :
    ⦃fun h => ⌜h.world = w⌝⦄ digestIfPresent s version direction
    ⦃⇓ digest h => ⌜h.world = w ∧
      digest = fileDigest w.1 w.2.1 (artifactPath s.migrationDir version direction)⌝⦄ := by
  cases file : isFileAt w.1 w.2.1 (artifactPath s.migrationDir version direction).bytes with
  | true =>
    obtain ⟨content, read⟩ := isFileAt_iff_readAt.mp file
    have hashes := hashFile_spec w _ read
    mvcgen [digestIfPresent, Host.isFile, hashes]
    all_goals simp_all +zetaDelta [Host.world_eq_iff, fileDigest, Except.toOption]
  | false =>
    mvcgen [digestIfPresent, Host.isFile]
    all_goals simp_all +zetaDelta [Host.world_eq_iff, fileDigest_eq_none file]

theorem builtVersion_spec (s : Settings) (version : String) :
    ⦃fun h => ⌜h.world = w⌝⦄ builtVersion s version
    ⦃⇓ b h => ⌜h.world = w ∧ b = builtOf w.1 w.2.1 s version⌝⦄ := by
  mvcgen [builtVersion, digestIfPresent_spec]
  all_goals simp_all [builtOf]

/-- The status of a project whose manifest loads and whose migration directory is a directory
is the status of the chain that directory holds; reading it leaves the world. -/
theorem chainStatus_spec (s : Settings) {text : String} {m : Manifest} {D : Location}
    (held : readAt w.1 w.2.1 s.manifest.bytes = .ok text.toUTF8.toList)
    (parsed : Manifest.parse text = .ok m)
    (dirAt : stat w.1 w.2.1 s.migrationDir.bytes = .ok (D, .dir)) :
    ⦃fun h => ⌜h.world = w⌝⦄ chainStatus s
    ⦃⇓ st h => ⌜h.world = w ∧ st = statusOf w.1 w.2.1 s m (chainOf w.1 w.2.1 s.migrationDir D)⌝⦄ := by
  have loads := loadManifest_spec w s.manifest held parsed
  have scans := scanArtifacts_spec s.migrationDir w D dirAt
  have digests := mapM_spec w (builtVersion s) (builtOf w.1 w.2.1 s) (builtVersion_spec w s)
  mvcgen [chainStatus, loads, scans, digests]
  all_goals simp_all [statusOf]
  -- the chain check's answer, whichever it is, fills the last two fields
  split <;> simp_all

end Frames

/-! ### The scan and the digests look at the same files -/

/-- A name without a line feed that ends in the suffix of a direction, after at least one
character, is the name of the script of what comes before. -/
theorem read_of_suffix {name : String} {d : Direction} (clean : ¬ name.toList.contains '\n' = true)
    (ends : ("_" ++ d.name ++ ".sql").toList.isSuffixOf name.toList = true ∧
      name.toList.length > ("_" ++ d.name ++ ".sql").toList.length) :
    name = artifactFileName (String.ofList
        (name.toList.take (name.toList.length - ("_" ++ d.name ++ ".sql").toList.length))) d ∧
      String.ofList (name.toList.take (name.toList.length - ("_" ++ d.name ++ ".sql").toList.length))
        ≠ "" ∧
      '\n' ∉ (String.ofList
        (name.toList.take (name.toList.length - ("_" ++ d.name ++ ".sql").toList.length))).toList := by
  obtain ⟨pre, split⟩ := List.isSuffixOf_iff_suffix.mp ends.1
  have longer := ends.2
  rw [← split] at clean longer ⊢
  refine ⟨String.toList_injective ?_, ?_, ?_⟩
  · rw [toList_artifactFileName, ← split]
    simp
  · simp at longer
    simpa [← String.toList_eq_nil_iff, List.take_eq_nil_iff] using List.ne_nil_of_length_pos longer
  · simp at clean ⊢
    exact clean.1

/-- A file name that reads as a script is that script's name. -/
theorem eq_artifactFileName_of_read {name version : String} {d : Direction}
    (read : artifactOfFileName name = some (version, d)) :
    name = artifactFileName version d ∧ version ≠ "" ∧ '\n' ∉ version.toList := by
  unfold artifactOfFileName at read
  dsimp only at read
  split_ifs at read with broken up down down
  · obtain ⟨rfl, rfl⟩ := Prod.mk.inj (Option.some.inj read)
    exact read_of_suffix broken up
  · obtain ⟨rfl, rfl⟩ := Prod.mk.inj (Option.some.inj read)
    exact read_of_suffix broken up
  · obtain ⟨rfl, rfl⟩ := Prod.mk.inj (Option.some.inj read)
    exact read_of_suffix broken down
  · simp at read

/-- The entry names of a directory are UTF-8 texts without a slash, as a file system has them. -/
def TextNames (t : Tree) (D : Location) : Prop :=
  ∀ n ∈ t.children D, 47 ∉ n ∧ ∃ text : String, n = text.toUTF8.toList

section Directory

variable {t : Tree} {cwd D : Location} {dir : Path} {n : Name} {version : String} {d : Direction}

/-- An entry the scan reads as a script is named as that script, its version names scripts, and
the script's path names a regular file. -/
theorem scriptOf_eq_some (names : TextNames t D) (member : n ∈ t.children D)
    (read : scriptOf t cwd dir n = some (version, d)) :
    n = scriptName version d ∧ ScriptVersion version ∧
      isFileAt t cwd (artifactPath dir version d).bytes = true := by
  unfold scriptOf at read
  split_ifs at read with file
  obtain ⟨plain, text, rfl⟩ := names n member
  rw [Text.Utf8.decodeLossy_toUTF8] at read
  obtain ⟨rfl, nonempty, noBreak⟩ := eq_artifactFileName_of_read read
  -- a slash in the version would be a slash in the entry's name
  have noSlash : '/' ∉ version.toList := fun inVersion => plain (by
    rw [Text.Utf8.toList_toUTF8, List.mem_flatMap]
    exact ⟨'/', by simp [toList_artifactFileName, inVersion], by decide⟩)
  exact ⟨rfl, ⟨nonempty, noSlash, noBreak⟩, file⟩

/-- A script of the scan's kind is found exactly when its path names a regular file. -/
theorem mem_scripts_iff_isFileAt (dirAt : stat t cwd dir.bytes = .ok (D, .dir))
    (names : TextNames t D) (named : ScriptVersion version) (d : Direction) :
    version ∈ scripts t cwd dir d (t.children D) ↔
      isFileAt t cwd (artifactPath dir version d).bytes = true := by
  simp only [scripts, List.mem_filterMap, Option.bind_eq_some_iff]
  constructor
  · rintro ⟨n, member, ⟨v, d'⟩, read, picked⟩
    obtain ⟨rfl, rfl⟩ : d' = d ∧ v = version := by
      split_ifs at picked with same
      exact ⟨same, Option.some.inj picked⟩
    exact (scriptOf_eq_some names member read).2.2
  · intro file
    -- a regular file at the script's path is an entry of the directory
    have plain := slash_not_mem_scriptName named d
    obtain ⟨b, looked⟩ := lookup_join dirAt plain (ofPart_scriptName version d) true
    have present : t.get? (D ++ [scriptName version d]) ≠ none := by
      intro empty
      rw [artifactPath_eq_join] at file
      simp [isFileAt, stat, looked, resolve_name_of_empty empty] at file
    obtain ⟨e, held⟩ := Option.ne_none_iff_exists'.mp present
    refine ⟨scriptName version d, Tree.mem_children_of_get? held, (version, d), ?_, by simp⟩
    rw [scriptOf, ← artifactPath_eq_join, if_pos file, artifactOfFileName_scriptName named d]

/-- Every version the scan finds names scripts. -/
theorem scriptVersion_of_mem_scripts (names : TextNames t D)
    (found : version ∈ scripts t cwd dir d (t.children D)) : ScriptVersion version := by
  simp only [scripts, List.mem_filterMap, Option.bind_eq_some_iff] at found
  obtain ⟨n, member, ⟨v, d'⟩, read, picked⟩ := found
  obtain rfl : v = version := by
    split_ifs at picked
    exact Option.some.inj picked
  exact (scriptOf_eq_some names member read).2.1

/-- The digest of a found version's script is that of the file's bytes exactly when the scan
found the script. -/
theorem fileDigest_script_eq_some (dirAt : stat t cwd dir.bytes = .ok (D, .dir))
    (names : TextNames t D) (named : ScriptVersion version) (d : Direction) (x : String) :
    fileDigest t cwd (artifactPath dir version d) = some x ↔
      version ∈ scripts t cwd dir d (t.children D) ∧
        ∃ bytes, readAt t cwd (artifactPath dir version d).bytes = .ok bytes ∧
          x = hashBytes bytes := by
  rw [mem_scripts_iff_isFileAt dirAt names named d, isFileAt_iff_readAt]
  cases read : readAt t cwd (artifactPath dir version d).bytes with
  | ok bytes => simp [fileDigest, read, Except.toOption, eq_comm]
  | error f => simp [fileDigest, read, Except.toOption]

end Directory

/-! ### The status of a chain -/

namespace ChainState

variable {m : Manifest} {s : ChainState} {v : String}

/-- In an ordered manifest the first unbuilt version is the smallest one not built. -/
theorem nextUnbuilt_eq_some_iff (ordered : m.Ordered) :
    nextUnbuilt m s = some v ↔ v ∈ m.versions ∧ v ∉ s.up ∧ ∀ u ∈ m.versions, u ∉ s.up → v ≤ u := by
  constructor
  · intro next
    obtain ⟨member, unbuilt⟩ := nextUnbuilt_mem next
    exact ⟨member, unbuilt, fun u => nextUnbuilt_le ordered next⟩
  · rintro ⟨member, unbuilt, least⟩
    cases next : nextUnbuilt m s with
    | none => exact absurd (nextUnbuilt_eq_none.mp next v member) unbuilt
    | some n =>
      obtain ⟨nMember, nUnbuilt⟩ := nextUnbuilt_mem next
      rw [le_antisymm (nextUnbuilt_le ordered next member unbuilt) (least n nMember nUnbuilt)]

/-- With no target, the first version pending is the first unbuilt one. -/
theorem head?_pending_none (ordered : m.Ordered) :
    (pending m (nextUnbuilt m s) none).head? = nextUnbuilt m s := by
  cases next : nextUnbuilt m s with
  | none => rfl
  | some n =>
    simp only [pending, Option.all_none, Bool.and_true, List.head?_filter]
    -- the versions before `n` are smaller than it, so `n` is the first not below it
    obtain ⟨before, after, split⟩ := List.append_of_mem (nextUnbuilt_mem next).1
    refine List.find?_eq_some_iff_append.mpr ⟨by simp, before, after, split, fun u early => ?_⟩
    have below : u < n := by
      unfold Manifest.Ordered at ordered
      rw [split] at ordered
      exact (List.pairwise_append.mp ordered).2.2 u early n (by simp)
    simpa using below

end ChainState

section Report

variable {t : Tree} {cwd : Location} {s : Settings} {m : Manifest} {state : ChainState}

theorem statusOf_versions :
    (statusOf t cwd s m state).built.map BuiltVersion.version = sortedSet (state.up ++ state.down) := by
  unfold statusOf
  split <;> simp [Function.comp_def, builtOf]

theorem mem_statusOf_built {b : BuiltVersion} (member : b ∈ (statusOf t cwd s m state).built) :
    ∃ v ∈ sortedSet (state.up ++ state.down), b = builtOf t cwd s v := by
  have listed : (statusOf t cwd s m state).built = (sortedSet (state.up ++ state.down)).map
      (builtOf t cwd s) := by
    unfold statusOf
    split <;> rfl
  rw [listed, List.mem_map] at member
  obtain ⟨v, found, rfl⟩ := member
  exact ⟨v, found, rfl⟩

theorem statusOf_of_error {e : Error} (failed : state.selectTargets m none = .error e) :
    (statusOf t cwd s m state).integrityError = some e.message ∧
      (statusOf t cwd s m state).pending = [] := by
  simp [statusOf, failed]

theorem statusOf_of_ok {p : List String} (ok : state.selectTargets m none = .ok p) :
    (statusOf t cwd s m state).integrityError = none ∧ (statusOf t cwd s m state).pending = p := by
  simp [statusOf, ok]

/-- A status is healthy exactly when the chain check passes. -/
theorem statusOf_isHealthy :
    (statusOf t cwd s m state).isHealthy = true ↔ ∃ p, state.selectTargets m none = .ok p := by
  cases checked : state.selectTargets m none with
  | ok p => simp [ChainStatus.isHealthy, statusOf_of_ok checked]
  | error e => simp [ChainStatus.isHealthy, statusOf_of_error checked]

/-- A healthy status builds the first unbuilt version next; a broken one nothing. -/
theorem statusOf_nextTarget (ordered : m.Ordered) :
    (statusOf t cwd s m state).nextTarget =
      if (statusOf t cwd s m state).isHealthy then ChainState.nextUnbuilt m state else none := by
  cases checked : state.selectTargets m none with
  | ok p =>
    obtain ⟨-, -, -, -, rfl⟩ := ChainState.selectTargets_eq_ok.mp checked
    simp [ChainStatus.nextTarget, ChainStatus.isHealthy, statusOf_of_ok checked,
      ChainState.head?_pending_none ordered]
  | error e =>
    simp [ChainStatus.nextTarget, ChainStatus.isHealthy, statusOf_of_error checked]

end Report

theorem mem_chainOf {t : Tree} {cwd D : Location} {dir : Path} {v : String} :
    (v ∈ (chainOf t cwd dir D).up ↔ v ∈ scripts t cwd dir .up (t.children D)) ∧
      (v ∈ (chainOf t cwd dir D).down ↔ v ∈ scripts t cwd dir .down (t.children D)) := by
  simp [chainOf, ChainState.ofLists, mem_sortedSet]

/-- The status of a project whose manifest loads and whose migration directory has UTF-8 entry
names without a slash: every version with a script once, in ascending order, with the digest of
each of its scripts that the scan found and only those; the chain check's failure as its message
with nothing pending, or else the versions it returns. The status is healthy exactly when the up
and down scripts are one gapless prefix of the manifest's versions; the next target is then the
smallest version not built, and otherwise none. -/
theorem chainStatus_reports_chain (h : Host) (s : Settings) {text : String} {m : Manifest}
    {D : Location} (held : readAt h.tree h.cwd s.manifest.bytes = .ok text.toUTF8.toList)
    (parsed : Manifest.parse text = .ok m)
    (dirAt : stat h.tree h.cwd s.migrationDir.bytes = .ok (D, .dir))
    (names : TextNames h.tree D) :
    let scan := chainOf h.tree h.cwd s.migrationDir D
    ∃ st, (Host.run (chainStatus s) h).1 = .ok st ∧
      (st.built.map BuiltVersion.version).Pairwise (· < ·) ∧
      (∀ v, v ∈ st.built.map BuiltVersion.version ↔ v ∈ scan.up ∨ v ∈ scan.down) ∧
      (∀ b ∈ st.built, ∀ x,
        (b.upDigest = some x ↔ b.version ∈ scan.up ∧ ∃ bytes,
          readAt h.tree h.cwd (artifactPath s.migrationDir b.version .up).bytes = .ok bytes ∧
            x = hashBytes bytes) ∧
        (b.downDigest = some x ↔ b.version ∈ scan.down ∧ ∃ bytes,
          readAt h.tree h.cwd (artifactPath s.migrationDir b.version .down).bytes = .ok bytes ∧
            x = hashBytes bytes)) ∧
      (∀ e, scan.selectTargets m none = .error e →
        st.integrityError = some e.message ∧ st.pending = []) ∧
      (∀ p, scan.selectTargets m none = .ok p → st.integrityError = none ∧ st.pending = p) ∧
      (st.isHealthy = true ↔ scan.Paired ∧ GaplessPrefix m scan.up) ∧
      (st.isHealthy = true → ∀ v, st.nextTarget = some v ↔
        v ∈ m.versions ∧ v ∉ st.built.map BuiltVersion.version ∧
          ∀ u ∈ m.versions, u ∉ st.built.map BuiltVersion.version → v ≤ u) ∧
      (st.isHealthy = false → st.nextTarget = none) := by
  intro scan
  have ordered := Manifest.parse_ordered parsed
  obtain ⟨ran, failed⟩ := Host.run_of_triple (chainStatus_spec h.world s held parsed dirAt) rfl
  have reported : ∃ st, (Host.run (chainStatus s) h).1 = .ok st ∧
      st = statusOf h.tree h.cwd s m scan := by
    cases result : Host.run (chainStatus s) h with
    | mk r h' =>
      cases r with
      | ok st => exact ⟨st, rfl, (ran st h' result).2⟩
      | error e => exact (failed e h' result).elim
  obtain ⟨_, ran, rfl⟩ := reported
  have healthy : (statusOf h.tree h.cwd s m scan).isHealthy = true ↔
      scan.Paired ∧ GaplessPrefix m scan.up := by
    rw [statusOf_isHealthy, ChainState.selectTargets_ok_iff ordered]
    simp
  refine ⟨_, ran, ?_, fun v => ?_, fun b member x => ?_, fun e failed => statusOf_of_error failed,
    fun p ok => statusOf_of_ok ok, healthy, fun sound v => ?_, fun broken => ?_⟩
  · rw [statusOf_versions]
    exact pairwise_sortedSet _
  · rw [statusOf_versions, mem_sortedSet, List.mem_append]
  · obtain ⟨v, found, rfl⟩ := mem_statusOf_built member
    -- a version the scan found names scripts, so the digests look at the scan's files
    have named : ScriptVersion v := by
      rcases List.mem_append.mp (mem_sortedSet.mp found) with up | down
      · exact scriptVersion_of_mem_scripts names (mem_chainOf.1.mp up)
      · exact scriptVersion_of_mem_scripts names (mem_chainOf.2.mp down)
    simp only [builtOf, scan, mem_chainOf.1, mem_chainOf.2]
    exact ⟨fileDigest_script_eq_some dirAt names named .up x,
      fileDigest_script_eq_some dirAt names named .down x⟩
  · -- over a sound chain, a version is built when its up script is there
    have paired := (healthy.mp sound).1
    have built : ∀ u, u ∈ (statusOf h.tree h.cwd s m scan).built.map BuiltVersion.version ↔
        u ∈ scan.up := fun u => by
      rw [statusOf_versions, mem_sortedSet, List.mem_append]
      exact ⟨fun held => held.elim id (paired u).mpr, .inl⟩
    simp only [built, statusOf_nextTarget ordered, sound, if_true]
    exact ChainState.nextUnbuilt_eq_some_iff ordered
  · simp [statusOf_nextTarget ordered, broken]

/-- The sample project with two versions, both scripts of the first one written. -/
def halfBuilt : Host :=
  sampleProject (createDropVersion "0001" "s" "schema" ++ createDropVersion "0002" "t" "table")
    [(scriptName "0001" .up, .file [1]), (scriptName "0001" .down, .file [2])]

/-- Its status is healthy, with the second version next. -/
theorem halfBuilt_next_second :
    ∃ st, (Host.run (chainStatus (Settings.new (.ofString "p"))) halfBuilt).1 = .ok st ∧
      st.isHealthy = true ∧ st.nextTarget = some "0002" := by
  -- the facts about the sample project, evaluated together
  obtain ⟨held, parsed, dirAt, listed, selected⟩ :
      readAt halfBuilt.tree halfBuilt.cwd (Settings.new (.ofString "p")).manifest.bytes =
        .ok (createDropVersion "0001" "s" "schema" ++ createDropVersion "0002" "t" "table").toUTF8.toList ∧
      Manifest.parse (createDropVersion "0001" "s" "schema" ++ createDropVersion "0002" "t" "table") =
        .ok ⟨[("0001", createDropSpec "s" "schema"), ("0002", createDropSpec "t" "table")]⟩ ∧
      stat halfBuilt.tree halfBuilt.cwd (Settings.new (.ofString "p")).migrationDir.bytes =
        .ok (sampleMigrations, .dir) ∧
      halfBuilt.tree.children sampleMigrations =
        ["manifest.toml".toUTF8.toList, scriptName "0001" .up, scriptName "0001" .down] ∧
      (chainOf halfBuilt.tree halfBuilt.cwd (Settings.new (.ofString "p")).migrationDir
        sampleMigrations).selectTargets
          ⟨[("0001", createDropSpec "s" "schema"), ("0002", createDropSpec "t" "table")]⟩ none =
        .ok ["0002"] := by
    decide +kernel
  have names : TextNames halfBuilt.tree sampleMigrations := by
    rw [TextNames, listed]
    simp only [List.mem_cons, List.not_mem_nil, or_false, forall_eq_or_imp, forall_eq]
    exact ⟨⟨by decide +kernel, _, rfl⟩, ⟨by decide +kernel, _, rfl⟩, ⟨by decide +kernel, _, rfl⟩⟩
  obtain ⟨st, ran, -, -, -, -, passed, -, -, -⟩ :=
    chainStatus_reports_chain halfBuilt (Settings.new (.ofString "p")) held parsed dirAt names
  obtain ⟨sound, pending⟩ := passed _ selected
  exact ⟨st, ran, by simp [ChainStatus.isHealthy, sound],
    by simp [ChainStatus.nextTarget, pending]⟩

end Migrator
