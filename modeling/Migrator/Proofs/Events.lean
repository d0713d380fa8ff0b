import Mathlib
import Migrator.Proofs.Runs

/-! The events a build reports, in order. A successful build reports the manifest it loaded, then
either that nothing is to be built, or the targets it selected, the indexing of the sources (one
event or none per source file, in path order, then the totals), and for each target the entries
compiled, up then down, each rollback's resolution before its command, and then its two
scripts written. A failed build reports a first part of that, perhaps followed by one script
found in the way (`buildWithProvenance_events`). -/
namespace Migrator

open Std.Do Files

set_option mvcgen.warning false

/-! ### Paths in order -/

section Lex

variable {α : Type} [DecidableEq α] {lt : α → α → Bool}

/-- Lexicographic order of lists by `lt`. -/
def lexLt (lt : α → α → Bool) : List α → List α → Bool
  | [], [] => false
  | [], _ :: _ => true
  | _ :: _, [] => false
  | a :: as, b :: bs => lt a b || (a == b && lexLt lt as bs)

variable (irrefl : ∀ a, lt a a = false) (trans : ∀ a b c, lt a b → lt b c → lt a c)
  (trichotomous : ∀ a b, lt a b ∨ a = b ∨ lt b a)

include irrefl in
theorem lexLt_irrefl (as : List α) : lexLt lt as as = false := by
  induction as with
  | nil => rfl
  | cons a as ih => simp [lexLt, irrefl, ih]

include trans in
theorem lexLt_trans {as bs cs : List α} (first : lexLt lt as bs) (second : lexLt lt bs cs) :
    lexLt lt as cs := by
  induction as generalizing bs cs with
  | nil => cases bs <;> cases cs <;> simp_all [lexLt]
  | cons a as ih =>
    cases bs with
    | nil => simp [lexLt] at first
    | cons b bs =>
      cases cs with
      | nil => simp [lexLt] at second
      | cons c cs =>
        simp only [lexLt, Bool.or_eq_true, Bool.and_eq_true, beq_iff_eq] at first second ⊢
        -- the heads decide unless both pairs of heads are equal
        rcases first with below | ⟨rfl, rest⟩ <;> rcases second with below' | ⟨rfl, rest'⟩
        · exact .inl (trans _ _ _ below below')
        · exact .inl below
        · exact .inl below'
        · exact .inr ⟨rfl, ih rest rest'⟩

include trichotomous in
theorem lexLt_trichotomous (as bs : List α) :
    lexLt lt as bs ∨ as = bs ∨ lexLt lt bs as := by
  induction as generalizing bs with
  | nil => cases bs <;> simp [lexLt]
  | cons a as ih =>
    cases bs with
    | nil => simp [lexLt]
    | cons b bs =>
      simp only [lexLt, Bool.or_eq_true, Bool.and_eq_true, beq_iff_eq, List.cons.injEq]
      rcases trichotomous a b with below | rfl | above
      · exact .inl (.inl below)
      · rcases ih bs with below | rfl | above
        · exact .inl (.inr ⟨rfl, below⟩)
        · exact .inr (.inl ⟨rfl, rfl⟩)
        · exact .inr (.inr (.inr ⟨rfl, above⟩))
      · exact .inr (.inr (.inl above))

include irrefl trans trichotomous in
/-- "Not above" is a total preorder, so lists sort by it. -/
theorem lexLt_not_above :
    (∀ as bs cs : List α, !lexLt lt bs as → !lexLt lt cs bs → !lexLt lt cs as) ∧
      ∀ as bs : List α, (!lexLt lt bs as || !lexLt lt as bs) = true := by
  refine ⟨fun as bs cs first second => ?_, fun as bs => ?_⟩
  · simp only [Bool.not_eq_eq_eq_not, Bool.not_true] at first second ⊢
    by_contra above
    simp only [Bool.not_eq_false] at above
    -- `cs` lies below `as`; wherever `bs` lies, one of the two hypotheses fails
    rcases lexLt_trichotomous trichotomous bs as with below | rfl | after
    · simp [below] at first
    · simp [above] at second
    · simp [lexLt_trans trans above after] at second
  · by_contra both
    simp only [Bool.or_eq_true, Bool.not_eq_true', not_or, Bool.not_eq_false] at both
    have := lexLt_trans trans both.1 both.2
    simp [lexLt_irrefl irrefl] at this

end Lex

theorem bytesLt_eq_lexLt : Path.bytesLt = lexLt fun a b => decide (a < b) := by
  funext as bs
  induction as generalizing bs with
  | nil => cases bs <;> rfl
  | cons a as ih =>
    cases bs with
    | nil => rfl
    | cons b bs => simp [Path.bytesLt, lexLt, ih]

theorem componentsLt_eq_lexLt : Path.componentsLt = lexLt Path.Component.lt := by
  funext as bs
  induction as generalizing bs with
  | nil => cases bs <;> rfl
  | cons a as ih =>
    cases bs with
    | nil => rfl
    | cons b bs => simp [Path.componentsLt, lexLt, ih]

/-- Byte strings in lexicographic order: irreflexive, transitive and trichotomous. -/
theorem bytesLt_order :
    (∀ as, Path.bytesLt as as = false) ∧
      (∀ as bs cs, Path.bytesLt as bs → Path.bytesLt bs cs → Path.bytesLt as cs) ∧
      ∀ as bs, Path.bytesLt as bs ∨ as = bs ∨ Path.bytesLt bs as := by
  have irrefl : ∀ a : UInt8, decide (a < a) = false := by simp
  have trans : ∀ a b c : UInt8, decide (a < b) → decide (b < c) → decide (a < c) := by
    simp only [decide_eq_true_eq, UInt8.lt_iff_toNat_lt]
    omega
  have trichotomous : ∀ a b : UInt8, decide (a < b) ∨ a = b ∨ decide (b < a) := by
    intro a b
    simp only [decide_eq_true_eq, UInt8.lt_iff_toNat_lt, ← UInt8.toNat_inj]
    omega
  rw [bytesLt_eq_lexLt]
  exact ⟨lexLt_irrefl irrefl, fun _ _ _ => lexLt_trans trans, lexLt_trichotomous trichotomous⟩

/-- Components in order: by kind, names by their bytes. -/
theorem componentLt_order :
    (∀ a, Path.Component.lt a a = false) ∧
      (∀ a b c, Path.Component.lt a b → Path.Component.lt b c → Path.Component.lt a c) ∧
      ∀ a b, Path.Component.lt a b ∨ a = b ∨ Path.Component.lt b a := by
  obtain ⟨irrefl, trans, trichotomous⟩ := bytesLt_order
  refine ⟨fun a => ?_, fun a b c => ?_, fun a b => ?_⟩
  · cases a <;> simp [Path.Component.lt, irrefl]
  · cases a <;> cases b <;> cases c <;> simp [Path.Component.lt, Path.Component.rank]
    exact trans _ _ _
  · cases a <;> cases b <;> simp [Path.Component.lt, Path.Component.rank]
    exact trichotomous _ _

/-- Sorting paths by "not after": a total preorder. -/
theorem pathLe_total_preorder :
    (∀ a b c : Path, !b.lt a → !c.lt b → !c.lt a) ∧ ∀ a b : Path, (!b.lt a || !a.lt b) = true := by
  obtain ⟨irrefl, trans, trichotomous⟩ := componentLt_order
  obtain ⟨transLe, totalLe⟩ := lexLt_not_above irrefl trans trichotomous
  refine ⟨fun a b c => ?_, fun a b => ?_⟩
  · simp only [Path.lt, componentsLt_eq_lexLt]
    exact transLe _ _ _
  · simp only [Path.lt, componentsLt_eq_lexLt]
    exact totalLe _ _

/-! ### Traces -/

/-- The events of compiling one action before its command: a rollback reports where it found the
previous definition. -/
def ActionEvents (entry : ActionEntry) (evs : List Event) : Prop :=
  if entry.action = .rollback then
    ∃ source, evs = [.rollbackResolved entry.name entry.objectType source]
  else evs = []

/-- The events of compiling entries in order: for each, its action's events, then its command. -/
inductive CompileEvents (version : String) (d : Direction) : List ActionEntry → List Event → Prop
  | nil : CompileEvents version d [] []
  | cons {entry : ActionEntry} {entries : List ActionEntry} {pre evs : List Event} :
      ActionEvents entry pre → CompileEvents version d entries evs →
      CompileEvents version d (entry :: entries)
        (pre ++ .commandCompiled version d.name entry.name entry.objectType :: evs)

/-- The events of indexing files in order: for each, a missing header, a name indexed already, or
nothing. -/
inductive FileEvents : List Path → List Event → Prop
  | nil : FileEvents [] []
  | noHeader {file : Path} {files : List Path} {evs : List Event} :
      FileEvents files evs → FileEvents (file :: files) (.noObjectHeader file :: evs)
  | duplicate {file : Path} {files : List Path} {evs : List Event} (objectType name : String)
      (kept : Path) :
      FileEvents files evs → FileEvents (file :: files) (.duplicateObject objectType name kept file :: evs)
  | indexed {file : Path} {files : List Path} {evs : List Event} :
      FileEvents files evs → FileEvents (file :: files) evs

/-- The source files below `root`: the regular files the `.sql` pattern finds, in path order. -/
def sqlFiles (t : Tree) (cwd : Location) (root : Path) : List Path :=
  ((globSql t cwd root).filter fun p => isFileAt t cwd p.bytes).mergeSort fun a b => !(b.lt a)

/-- The events of indexing `files`, which are in path order: one event or none for each, then
the totals. -/
def IndexEvents (files : List Path) (evs : List Event) : Prop :=
  files.Pairwise (fun a b => b.lt a = false) ∧ ∃ fileEvents objects, FileEvents files fileEvents ∧
    evs = fileEvents ++ [.sourcesIndexed files.length objects]

/-- The events of building one version: its up entries compiled, its down entries compiled, then
its up script and its down script written. -/
def VersionEvents (m : Manifest) (g : GeneratedVersion) (evs : List Event) : Prop :=
  ∃ spec up down, m.spec? g.version = some spec ∧ CompileEvents g.version .up spec.up up ∧
    CompileEvents g.version .down spec.down down ∧
    evs = up ++ down ++ [.artifactWritten g.up.path g.up.commands g.up.digest,
      .artifactWritten g.down.path g.down.commands g.down.digest]

/-- The events of a build over the manifest `m` and the source files `files` that generates
`generated`: the manifest loaded, then nothing to build, or the targets, ascending, the indexing
of the files, and each version built. -/
def BuildEvents (s : Settings) (m : Manifest) (files : List Path) (generated : List GeneratedVersion)
    (evs : List Event) : Prop :=
  generated = [] ∧ evs = [.manifestLoaded s.manifest m.entries.length, .nothingToBuild] ∨
    ∃ index perVersion, generated ≠ [] ∧
      (generated.map GeneratedVersion.version).Pairwise (· < ·) ∧ IndexEvents files index ∧
      List.Forall₂ (VersionEvents m) generated perVersion ∧
      evs = [.manifestLoaded s.manifest m.entries.length,
        .targetsSelected (generated.map GeneratedVersion.version)] ++ index ++ perVersion.flatten

/-- A first part of a trace that `P` describes. -/
def TracePrefix (P : List Event → Prop) (evs : List Event) : Prop := ∃ full, P full ∧ evs <+: full

/-- What one version reports before it stops: nothing, the script it found in the way, or a first
part of its events. -/
def VersionCut (m : Manifest) (version : String) (evs : List Event) : Prop :=
  evs = [] ∨ (∃ path, evs = [.artifactExists path]) ∨
    ∃ g : GeneratedVersion, g.version = version ∧ TracePrefix (VersionEvents m g) evs

/-- The events of a build that stopped: a first part of the events of a whole build over the
manifest it loaded and the source files, perhaps followed by one script found in the way. -/
def BuildCut (s : Settings) (m : Manifest) (files : List Path) (evs : List Event) : Prop :=
  ∃ generated full, BuildEvents s m files generated full ∧
    (evs <+: full ∨ ∃ pre path, pre <+: full ∧ evs = pre ++ [.artifactExists path])

/-- Targets as the chain check selects them: some, ascending, each a version of the manifest. -/
structure Selected (m : Manifest) (ts : List String) : Prop where
  nonempty : ts ≠ []
  ascending : ts.Pairwise (· < ·)
  specs : ∀ v ∈ ts, ∃ spec, m.spec? v = some spec

/-- A manifest file at `path` whose bytes read as the text of `m`. -/
def ManifestAt (t : Tree) (cwd : Location) (path : Path) (m : Manifest) : Prop :=
  ∃ bytes text, readAt t cwd path.bytes = .ok bytes ∧ Text.Utf8.decode? bytes = some text ∧
    Manifest.parse text = .ok m

/-- The manifest and the source files a run read: from the tree once only new entries were added
to it. -/
def ReadFrom (t : Tree) (cwd : Location) (s : Settings) (m : Manifest) (files : List Path) : Prop :=
  ∃ t₁, t.Fills t₁ ∧ ManifestAt t₁ cwd s.manifest m ∧ files = sqlFiles t₁ cwd s.sqlSrc

/-- So a manifest file that could be read before the run is the one loaded. -/
theorem ReadFrom.manifestAt {t : Tree} {cwd : Location} {s : Settings} {m : Manifest}
    {files : List Path} {bytes : List UInt8} (loaded : ReadFrom t cwd s m files)
    (read : readAt t cwd s.manifest.bytes = .ok bytes) : ManifestAt t cwd s.manifest m := by
  obtain ⟨t₁, fills, ⟨bytes₁, text, read₁, decoded, parsed⟩, -⟩ := loaded
  have same : bytes₁ = bytes := by
    have := readAt_eq_of_fills fills read
    rw [read₁] at this
    exact Except.ok.inj this
  exact ⟨bytes, text, read, same ▸ decoded, parsed⟩

section Traces

variable {version : String} {d : Direction}

theorem TracePrefix.of_trace {P : List Event → Prop} {evs : List Event} (whole : P evs) :
    TracePrefix P evs :=
  ⟨evs, whole, List.prefix_refl evs⟩

theorem TracePrefix.nil {P : List Event → Prop} (some : ∃ evs, P evs) : TracePrefix P [] := by
  obtain ⟨evs, whole⟩ := some
  exact ⟨evs, whole, List.nil_prefix⟩

theorem ActionEvents.rollback {entry : ActionEntry} (rollback : entry.action = .rollback)
    (source : Path) : ActionEvents entry [.rollbackResolved entry.name entry.objectType source] := by
  simp only [ActionEvents, if_pos rollback]
  exact ⟨source, rfl⟩

theorem ActionEvents.exists (entry : ActionEntry) : ∃ evs, ActionEvents entry evs := by
  by_cases rollback : entry.action = .rollback
  · exact ⟨_, .rollback rollback default⟩
  · exact ⟨[], by simp [ActionEvents, rollback]⟩

/-- An action reports at most one event, so a first part of its events is none or all. -/
theorem ActionEvents.prefix_iff {entry : ActionEntry} {pre : List Event} :
    TracePrefix (ActionEvents entry) pre ↔ pre = [] ∨ ActionEvents entry pre := by
  constructor
  · rintro ⟨evs, action, first⟩
    by_cases rollback : entry.action = .rollback
    · simp only [ActionEvents, if_pos rollback] at action ⊢
      obtain ⟨source, rfl⟩ := action
      rcases List.prefix_cons_iff.mp first with rfl | ⟨rest, rfl, below⟩
      · exact .inl rfl
      · exact .inr ⟨source, by simpa using below⟩
    · simp only [ActionEvents, if_neg rollback] at action
      subst action
      exact .inl (List.prefix_nil.mp first)
  · rintro (rfl | action)
    · exact .nil (ActionEvents.exists entry)
    · exact .of_trace action

theorem CompileEvents.exists (version : String) (d : Direction) (entries : List ActionEntry) :
    ∃ evs, CompileEvents version d entries evs := by
  induction entries with
  | nil => exact ⟨[], .nil⟩
  | cons entry entries ih =>
    obtain ⟨pre, action⟩ := ActionEvents.exists entry
    obtain ⟨evs, rest⟩ := ih
    exact ⟨_, .cons action rest⟩

theorem CompileEvents.append {xs ys : List ActionEntry} {a b : List Event}
    (first : CompileEvents version d xs a) (second : CompileEvents version d ys b) :
    CompileEvents version d (xs ++ ys) (a ++ b) := by
  induction first with
  | nil => exact second
  | cons action _ ih => simpa using CompileEvents.cons action ih

theorem CompileEvents.concat {entries : List ActionEntry} {evs pre : List Event}
    {entry : ActionEntry} (done : CompileEvents version d entries evs)
    (action : ActionEvents entry pre) :
    CompileEvents version d (entries ++ [entry])
      (evs ++ (pre ++ [.commandCompiled version d.name entry.name entry.objectType])) :=
  done.append (.cons action .nil)

/-- Compiling stopped inside an entry: the entries before it compiled, then a first part of its
action's events. -/
theorem CompileEvents.cut {done : List ActionEntry} {entry : ActionEntry} {evs pre : List Event}
    (before : CompileEvents version d done evs) (cut : TracePrefix (ActionEvents entry) pre)
    (rest : List ActionEntry) :
    TracePrefix (CompileEvents version d (done ++ entry :: rest)) (evs ++ pre) := by
  obtain ⟨action, whole, first⟩ := cut
  obtain ⟨after, restEvents⟩ := CompileEvents.exists version d rest
  refine ⟨_, before.append (.cons whole restEvents), ?_⟩
  exact (List.prefix_append_right_inj evs).mpr (first.trans (List.prefix_append _ _))

theorem FileEvents.append {xs ys : List Path} {a b : List Event} (first : FileEvents xs a)
    (second : FileEvents ys b) : FileEvents (xs ++ ys) (a ++ b) := by
  induction first with
  | nil => exact second
  | noHeader _ ih => exact .noHeader ih
  | duplicate objectType name kept _ ih => exact .duplicate objectType name kept ih
  | indexed _ ih => exact .indexed ih

/-- Files that report nothing. -/
theorem FileEvents.quiet (files : List Path) : FileEvents files [] := by
  induction files with
  | nil => exact .nil
  | cons file files ih => exact .indexed ih

theorem sqlFiles_sorted (t : Tree) (cwd : Location) (root : Path) :
    (sqlFiles t cwd root).Pairwise (fun a b => b.lt a = false) := by
  unfold sqlFiles
  simpa using List.pairwise_mergeSort pathLe_total_preorder.1 pathLe_total_preorder.2
    ((globSql t cwd root).filter fun p => isFileAt t cwd p.bytes)

/-- The files indexed so far, of files in path order: the rest may report nothing. -/
theorem IndexEvents.cut {files done rest : List Path} {evs : List Event}
    (sorted : files.Pairwise (fun a b => b.lt a = false)) (before : FileEvents done evs)
    (split : files = done ++ rest) : TracePrefix (IndexEvents files) evs := by
  refine ⟨evs ++ [] ++ [.sourcesIndexed files.length 0], ⟨sorted, _, 0, ?_, rfl⟩, ?_⟩
  · rw [split]
    exact before.append (.quiet rest)
  · simp

theorem IndexEvents.prefix_nil {files : List Path}
    (sorted : files.Pairwise (fun a b => b.lt a = false)) : TracePrefix (IndexEvents files) [] :=
  IndexEvents.cut sorted .nil (List.nil_append files).symm

theorem VersionEvents.exists {m : Manifest} {spec : BuildSpec} (g : GeneratedVersion)
    (found : m.spec? g.version = some spec) : ∃ evs, VersionEvents m g evs := by
  obtain ⟨up, upEvents⟩ := CompileEvents.exists g.version .up spec.up
  obtain ⟨down, downEvents⟩ := CompileEvents.exists g.version .down spec.down
  exact ⟨_, spec, up, down, found, upEvents, downEvents, rfl⟩

/-- The versions built in order, then what the next target reported before it stopped. -/
def VersionsCut (m : Manifest) (targets : List String) (evs : List Event) : Prop :=
  ∃ gs perVersion v rest last, gs.map GeneratedVersion.version ++ v :: rest = targets ∧
    List.Forall₂ (VersionEvents m) gs perVersion ∧ VersionCut m v last ∧
    evs = perVersion.flatten ++ last

@[simp] theorem VersionCut.nil {m : Manifest} {version : String} : VersionCut m version [] := .inl rfl

@[simp] theorem VersionCut.artifactExists {m : Manifest} {version : String} {path : Path} :
    VersionCut m version [.artifactExists path] :=
  .inr (.inl ⟨path, rfl⟩)

theorem Manifest.spec?_of_mem {m : Manifest} {v : String} (member : v ∈ m.versions) :
    ∃ spec, m.spec? v = some spec := by
  obtain ⟨⟨v', spec⟩, inEntries, rfl⟩ := List.mem_map.mp member
  exact Option.isSome_iff_exists.mp (List.lookup_isSome_iff.mpr ⟨_, inEntries, by simp⟩)

theorem Selected.of_selectTargets {text : String} {m : Manifest} {S : ChainState}
    {target : Option String} {ts : List String} (parsed : Manifest.parse text = .ok m)
    (ok : S.selectTargets m target = .ok ts) (nonempty : ts ≠ []) : Selected m ts := by
  obtain ⟨chosen, ascending⟩ := ChainState.selectTargets_ok_targets (Manifest.parse_ordered parsed) ok
  refine ⟨nonempty, ascending, fun v member => Manifest.spec?_of_mem ?_⟩
  rw [chosen] at member
  exact (List.mem_filter.mp member).1

theorem ManifestAt.selected {t : Tree} {cwd : Location} {path : Path} {m : Manifest}
    {S : ChainState} {target : Option String} {ts : List String} (loaded : ManifestAt t cwd path m)
    (ok : S.selectTargets m target = .ok ts) (nonempty : ts ≠ []) : Selected m ts := by
  obtain ⟨_, _, _, _, parsed⟩ := loaded
  exact .of_selectTargets parsed ok nonempty

/-- Versions that each have a spec have events, whatever their scripts. -/
theorem VersionEvents.exists_all {m : Manifest} {versions : List String}
    (specs : ∀ v ∈ versions, ∃ spec, m.spec? v = some spec) :
    ∃ gs perVersion, gs.map GeneratedVersion.version = versions ∧
      List.Forall₂ (VersionEvents m) gs perVersion := by
  induction versions with
  | nil => exact ⟨[], [], rfl, .nil⟩
  | cons v rest ih =>
    obtain ⟨spec, found⟩ := specs v List.mem_cons_self
    obtain ⟨gs, perVersion, named, built⟩ := ih fun u member => specs u (List.mem_cons_of_mem v member)
    obtain ⟨evs, events⟩ := VersionEvents.exists ⟨v, ⟨default, 0, ""⟩, ⟨default, 0, ""⟩⟩ found
    exact ⟨_ :: gs, evs :: perVersion, by simp [named], .cons events built⟩

/-- A version stopped after its spec was found: some events of the version, of which it reported
a first part or only the script in the way. -/
theorem VersionCut.cases {m : Manifest} {v : String} {spec : BuildSpec} {last : List Event}
    (found : m.spec? v = some spec) (cut : VersionCut m v last) :
    ∃ g full, g.version = v ∧ VersionEvents m g full ∧
      (last <+: full ∨ ∃ path, last = [.artifactExists path]) := by
  rcases cut with rfl | ⟨path, rfl⟩ | ⟨g, named, full, events, first⟩
  · obtain ⟨full, events⟩ := VersionEvents.exists ⟨v, ⟨default, 0, ""⟩, ⟨default, 0, ""⟩⟩ found
    exact ⟨_, full, rfl, events, .inl List.nil_prefix⟩
  · obtain ⟨full, events⟩ := VersionEvents.exists ⟨v, ⟨default, 0, ""⟩, ⟨default, 0, ""⟩⟩ found
    exact ⟨_, full, rfl, events, .inr ⟨path, rfl⟩⟩
  · exact ⟨g, full, named, events, .inl first⟩

section Cuts

variable {m : Manifest} {version : String} {spec : BuildSpec} {upEvs downEvs evs : List Event}
  (found : m.spec? version = some spec)
include found

theorem VersionCut.of_compiled (up : CompileEvents version .up spec.up upEvs)
    (down : CompileEvents version .down spec.down downEvs) (upScript downScript : ArtifactSummary)
    (first : evs <+: upEvs ++ downEvs ++ [.artifactWritten upScript.path upScript.commands
      upScript.digest, .artifactWritten downScript.path downScript.commands downScript.digest]) :
    VersionCut m version evs :=
  .inr (.inr ⟨⟨version, upScript, downScript⟩, rfl, _, ⟨spec, upEvs, downEvs, found, up, down, rfl⟩,
    first⟩)

/-- Stopped while compiling the up entries. -/
theorem VersionCut.of_up (cut : TracePrefix (CompileEvents version .up spec.up) evs) :
    VersionCut m version evs := by
  obtain ⟨upEvs, up, first⟩ := cut
  obtain ⟨downEvs, down⟩ := CompileEvents.exists version .down spec.down
  exact .of_compiled found up down ⟨default, 0, ""⟩ ⟨default, 0, ""⟩
    (first.trans (by simp [List.append_assoc]))

/-- Stopped while compiling the down entries, the up entries compiled. -/
theorem VersionCut.of_down (up : CompileEvents version .up spec.up upEvs)
    (cut : TracePrefix (CompileEvents version .down spec.down) evs) :
    VersionCut m version (upEvs ++ evs) := by
  obtain ⟨downEvs, down, first⟩ := cut
  exact .of_compiled found up down ⟨default, 0, ""⟩ ⟨default, 0, ""⟩
    (((List.prefix_append_right_inj upEvs).mpr first).trans (List.prefix_append _ _))

/-- Stopped writing the down script, the up script written. -/
theorem VersionCut.of_written (up : CompileEvents version .up spec.up upEvs)
    (down : CompileEvents version .down spec.down downEvs) (upScript : ArtifactSummary) :
    VersionCut m version (upEvs ++ downEvs ++
      [.artifactWritten upScript.path upScript.commands upScript.digest]) :=
  .of_compiled found up down upScript ⟨default, 0, ""⟩ (by simp)

end Cuts

section BuildCuts

variable {s : Settings} {m : Manifest} {files : List Path} {ts : List String} {evs : List Event}

theorem BuildCut.loaded : BuildCut s m files [.manifestLoaded s.manifest m.entries.length] :=
  ⟨[], _, .inl ⟨rfl, rfl⟩, .inl (List.prefix_cons_iff.mpr (.inr ⟨_, rfl, List.nil_prefix⟩))⟩

/-- Stopped before the versions: a first part of the indexing. -/
theorem BuildCut.of_indexCut (selected : Selected m ts) (cut : TracePrefix (IndexEvents files) evs) :
    BuildCut s m files ([.manifestLoaded s.manifest m.entries.length, .targetsSelected ts] ++ evs) := by
  obtain ⟨index, indexed, first⟩ := cut
  obtain ⟨gs, perVersion, named, built⟩ := VersionEvents.exists_all selected.specs
  have nonempty : gs ≠ [] := by
    rintro rfl
    exact selected.nonempty named.symm
  refine ⟨gs, _, .inr ⟨index, perVersion, nonempty, named ▸ selected.ascending, indexed, built, rfl⟩,
    .inl ?_⟩
  rw [named, List.append_assoc]
  exact (List.prefix_append_right_inj _).mpr (first.trans (List.prefix_append _ _))

/-- Stopped before indexing. -/
theorem BuildCut.selected (selected : Selected m ts)
    (sorted : files.Pairwise (fun a b => b.lt a = false)) :
    BuildCut s m files [.manifestLoaded s.manifest m.entries.length, .targetsSelected ts] := by
  simpa using BuildCut.of_indexCut selected (IndexEvents.prefix_nil sorted)

/-- Stopped in a version: the versions before it built, then what it reported. -/
theorem BuildCut.of_versionsCut {index : List Event} (selected : Selected m ts)
    (indexed : IndexEvents files index) (cut : VersionsCut m ts evs) :
    BuildCut s m files
      ([.manifestLoaded s.manifest m.entries.length, .targetsSelected ts] ++ index ++ evs) := by
  obtain ⟨gs, perVersion, v, rest, last, named, built, cut, rfl⟩ := cut
  have member : v ∈ ts := by simp [← named]
  obtain ⟨spec, found⟩ := selected.specs v member
  obtain ⟨g, full, version, events, stopped⟩ := VersionCut.cases found cut
  obtain ⟨gsRest, perVersionRest, namedRest, builtRest⟩ :=
    @VersionEvents.exists_all m rest fun u inRest =>
      selected.specs u (by simp [← named, inRest])
  have all : (gs ++ g :: gsRest).map GeneratedVersion.version = ts := by
    simp [← named, version, namedRest]
  have whole : BuildEvents s m files (gs ++ g :: gsRest) ([.manifestLoaded s.manifest m.entries.length,
      .targetsSelected ts] ++ index ++ (perVersion ++ full :: perVersionRest).flatten) := by
    refine .inr ⟨index, _, by simp, all ▸ selected.ascending, indexed,
      List.rel_append built (.cons events builtRest), by rw [all]⟩
  -- the full trace is the versions before, then `full`, then the rest
  have split : ([.manifestLoaded s.manifest m.entries.length, .targetsSelected ts] ++ index ++
      (perVersion ++ full :: perVersionRest).flatten) =
      ([.manifestLoaded s.manifest m.entries.length, .targetsSelected ts] ++ index ++
        perVersion.flatten) ++ full ++ perVersionRest.flatten := by
    simp
  refine ⟨_, _, whole, ?_⟩
  rw [split]
  rcases stopped with first | ⟨path, rfl⟩
  · refine .inl ?_
    rw [← List.append_assoc]
    exact ((List.prefix_append_right_inj _).mpr first).trans (List.prefix_append _ _)
  · exact .inr ⟨_, path, List.prefix_append_of_prefix (List.prefix_append _ _), by simp⟩

end BuildCuts

end Traces

/-! ### What each step reports -/

section Specs

variable (es : List Event)

theorem emit_events (e : Event) :
    ⦃fun h => ⌜h.events.toList = es⌝⦄ Host.emit e ⦃⇓ _ h => ⌜h.events.toList = es ++ [e]⌝⦄ := by
  mvcgen [-Host.emit_spec, Host.emit]
  simp_all +zetaDelta

theorem readText_events (path : Path) :
    ⦃fun h => ⌜h.events.toList = es⌝⦄ Host.readText path
    ⦃post⟨fun _ h => ⌜h.events.toList = es⌝, fun _ h => ⌜h.events.toList = es⌝⟩⦄ := by
  mvcgen [-Host.readText_spec, Host.readText, Host.tryRead, Host.onPath]

theorem resolvePrevious_events (name objectType : String) (candidates : List Path) (tag : String) :
    ⦃fun h => ⌜h.events.toList = es⌝⦄ resolvePrevious name objectType candidates tag
    ⦃post⟨fun _ h => ⌜h.events.toList = es⌝, fun _ h => ⌜h.events.toList = es⌝⟩⦄ := by
  mvcgen [-resolvePrevious_spec, -matchInFile_spec, -Host.readText_spec, resolvePrevious,
    matchInFile, readText_events]
  case inv1 => exact post⟨fun _ h => ⌜h.events.toList = es⌝, fun _ h => ⌜h.events.toList = es⌝⟩
  all_goals simp_all

/-- An action reports a rollback's resolution, once it is found. -/
theorem compileAction_events (entry : ActionEntry) (ctx : CompileContext) :
    ⦃fun h => ⌜h.events.toList = es⌝⦄ compileAction entry ctx
    ⦃post⟨fun command h => ⌜command.name = entry.name ∧ command.objectType = entry.objectType ∧
        ∃ pre, ActionEvents entry pre ∧ h.events.toList = es ++ pre⌝,
      fun _ h => ⌜∃ pre, TracePrefix (ActionEvents entry) pre ∧ h.events.toList = es ++ pre⌝⟩⦄ := by
  mvcgen -trivial [-compileAction_spec, -Host.readText_spec, -resolvePrevious_spec,
    -Host.emit_spec, compileAction, readText_events, resolvePrevious_events, emit_events]
  all_goals simp_all [ActionEvents.prefix_iff, ActionEvents]

theorem compileActions_events (version : String) (d : Direction) (entries : List ActionEntry)
    (ctx : CompileContext) :
    ⦃fun h => ⌜h.events.toList = es⌝⦄ compileActions version d entries ctx
    ⦃post⟨fun _ h => ⌜∃ evs, CompileEvents version d entries evs ∧ h.events.toList = es ++ evs⌝,
      fun _ h => ⌜∃ evs, TracePrefix (CompileEvents version d entries) evs ∧
        h.events.toList = es ++ evs⌝⟩⦄ := by
  mvcgen [-compileActions_spec, -compileAction_spec, -Host.emit_spec, compileActions,
    compileAction_events, emit_events]
  -- the state's cursor holds the entries compiled so far as its first field
  case inv1 =>
    exact post⟨fun st h => ⌜∃ evs, CompileEvents version d st.1.1 evs ∧
        h.events.toList = es ++ evs⌝,
      fun _ h => ⌜∃ evs, TracePrefix (CompileEvents version d entries) evs ∧
        h.events.toList = es ++ evs⌝⟩
  all_goals simp_all +zetaDelta [EStateM.Backtrackable.restore, EStateM.dummyRestore]
  case vc1.step.post.success.post.success =>
    obtain ⟨evs, done, before⟩ := ‹∃ evs, CompileEvents version d _ evs ∧ _›
    obtain ⟨-, -, pre, action, after⟩ := ‹_ ∧ _ ∧ ∃ pre, ActionEvents _ pre ∧ _›
    exact ⟨_, done.concat action, by simp [after, before]⟩
  case vc2.step.post.except.handle =>
    obtain ⟨evs, done, before⟩ := ‹∃ evs, CompileEvents version d _ evs ∧ _›
    obtain ⟨pre, cut, after⟩ := ‹∃ pre, TracePrefix _ pre ∧ _›
    exact ⟨_, done.cut cut _, by simp [after, before]⟩
  case vc3.pre => exact .nil

theorem specOf_events (m : Manifest) (version : String) :
    ⦃fun h => ⌜h.events.toList = es⌝⦄ specOf m version
    ⦃post⟨fun spec h => ⌜m.spec? version = some spec ∧ h.events.toList = es⌝,
      fun _ h => ⌜h.events.toList = es⌝⟩⦄ := by
  mvcgen [-specOf_spec, specOf]

theorem pathExists_events (path : Path) :
    ⦃fun h => ⌜h.events.toList = es⌝⦄ Host.pathExists path ⦃⇓ _ h => ⌜h.events.toList = es⌝⦄ := by
  mvcgen [Host.pathExists]

theorem priorUpArtifacts_events (dir : Path) (version : String) :
    ⦃fun h => ⌜h.events.toList = es⌝⦄ priorUpArtifacts dir version
    ⦃post⟨fun _ h => ⌜h.events.toList = es⌝, fun _ h => ⌜h.events.toList = es⌝⟩⦄ := by
  mvcgen [-priorUpArtifacts_spec, priorUpArtifacts, scanArtifacts, Host.pathExists, Host.listDir,
    Host.isFile, Host.onPath]
  case inv1 => exact post⟨fun _ h => ⌜h.events.toList = es⌝, fun _ h => ⌜h.events.toList = es⌝⟩
  all_goals simp_all

theorem writeScript_events (path : Path) (commands : List Command) (p : Provenance) (tag : String) :
    ⦃fun h => ⌜h.events.toList = es⌝⦄ writeScript path commands p tag
    ⦃post⟨fun summary h =>
        ⌜h.events.toList = es ++ [.artifactWritten summary.path summary.commands summary.digest]⌝,
      fun _ h => ⌜h.events.toList = es⌝⟩⦄ := by
  mvcgen [-Host.emit_spec, writeScript, writeArtifact, hashFile, Host.createNew, Host.change,
    Host.readBytes, Host.tryRead, Host.onPath, emit_events]
  all_goals simp_all

theorem discardLoneUp_events (upPath : Path) (error : Error) :
    ⦃fun h => ⌜h.events.toList = es⌝⦄ discardLoneUp upPath error
    ⦃⇓ _ h => ⌜h.events.toList = es⌝⦄ := by
  mvcgen [discardLoneUp]

theorem buildVersion_events (s : Settings) (m : Manifest) (index : ObjectIndex) (version : String)
    (p : Provenance) :
    ⦃fun h => ⌜h.events.toList = es⌝⦄ buildVersion s m index version p
    ⦃post⟨fun g h => ⌜g.version = version ∧ ∃ evs, VersionEvents m g evs ∧ h.events.toList = es ++ evs⌝,
      fun _ h => ⌜∃ evs, VersionCut m version evs ∧ h.events.toList = es ++ evs⌝⟩⦄ := by
  mvcgen [-Host.emit_spec, -specOf_spec, -priorUpArtifacts_spec, -compileActions_spec, buildVersion,
    emit_events, specOf_events, pathExists_events, priorUpArtifacts_events, compileActions_events,
    writeScript_events, discardLoneUp_events]
  case inv1 =>
    exact post⟨fun _ h => ⌜h.events.toList = es⌝,
      fun _ h => ⌜∃ evs, VersionCut m version evs ∧ h.events.toList = es ++ evs⌝⟩
  all_goals simp_all +zetaDelta [EStateM.Backtrackable.restore, EStateM.dummyRestore]
  -- what is left: the version built, or stopped after its spec was found
  all_goals
    obtain ⟨found, -⟩ := ‹m.spec? version = some _ ∧ _›
  case vc4 =>
    obtain ⟨upEvs, up, upGrown⟩ := ‹∃ evs, CompileEvents version .up _ evs ∧ _›
    obtain ⟨downEvs, down, downGrown⟩ := ‹∃ evs, CompileEvents version .down _ evs ∧ _›
    exact ⟨_, ⟨_, upEvs, downEvs, found, up, down, rfl⟩, by simp [downGrown, upGrown]⟩
  case vc5 =>
    obtain ⟨upEvs, up, upGrown⟩ := ‹∃ evs, CompileEvents version .up _ evs ∧ _›
    obtain ⟨downEvs, down, downGrown⟩ := ‹∃ evs, CompileEvents version .down _ evs ∧ _›
    exact ⟨_, .of_written found up down ‹ArtifactSummary›, by simp [downGrown, upGrown]⟩
  case vc6 =>
    obtain ⟨upEvs, up, upGrown⟩ := ‹∃ evs, CompileEvents version .up _ evs ∧ _›
    obtain ⟨downEvs, down, downGrown⟩ := ‹∃ evs, CompileEvents version .down _ evs ∧ _›
    intro _
    exact ⟨_, .of_down found up (.of_trace down), by simp [downGrown, upGrown]⟩
  case vc7 =>
    obtain ⟨upEvs, up, upGrown⟩ := ‹∃ evs, CompileEvents version .up _ evs ∧ _›
    intro evs cut _
    exact ⟨_, .of_down found up cut, by simp [upGrown]⟩
  case vc8 =>
    intro evs cut _
    exact .of_up found cut

theorem buildVersions_events (s : Settings) (m : Manifest) (index : ObjectIndex)
    (targets : List String) (p : Provenance) :
    ⦃fun h => ⌜h.events.toList = es⌝⦄ buildVersions s m index targets p
    ⦃post⟨fun r h => ⌜r.generated.map GeneratedVersion.version = targets ∧ ∃ perVersion,
        List.Forall₂ (VersionEvents m) r.generated perVersion ∧
        h.events.toList = es ++ perVersion.flatten⌝,
      fun _ h => ⌜∃ evs, VersionsCut m targets evs ∧ h.events.toList = es ++ evs⌝⟩⦄ := by
  mvcgen [-buildVersion_spec, buildVersions, buildVersion_events]
  -- the state is the cursor over the targets, whose first field holds those built, and the
  -- versions generated for them
  case inv1 =>
    exact post⟨fun st h =>
        ⌜st.2.toList.map GeneratedVersion.version = st.1.1 ∧ ∃ perVersion,
          List.Forall₂ (VersionEvents m) st.2.toList perVersion ∧
          h.events.toList = es ++ perVersion.flatten⌝,
      fun _ h => ⌜∃ evs, VersionsCut m targets evs ∧ h.events.toList = es ++ evs⌝⟩
  all_goals simp_all +zetaDelta
  case vc1 =>
    obtain ⟨-, perVersion, built, grown⟩ := ‹_ ∧ ∃ perVersion, List.Forall₂ _ _ perVersion ∧ _›
    obtain ⟨-, evs, version, after⟩ := ‹_ ∧ ∃ evs, VersionEvents m _ evs ∧ _›
    exact ⟨perVersion ++ [evs], List.rel_append built (.cons version .nil), by simp [after, grown]⟩
  case vc2 =>
    obtain ⟨named, perVersion, built, grown⟩ := ‹_ ∧ ∃ perVersion, List.Forall₂ _ _ perVersion ∧ _›
    intro _ last cut _
    exact ⟨_, ⟨_, perVersion, _, _, last, by rw [named], built, cut, rfl⟩, by simp [grown]⟩

theorem findSqlFiles_events (root : Path) (t : Tree) (cwd : Location) :
    ⦃fun h => ⌜h.events.toList = es ∧ h.tree = t ∧ h.cwd = cwd⌝⦄ findSqlFiles root
    ⦃post⟨fun files h => ⌜files = sqlFiles t cwd root ∧ h.events.toList = es⌝,
      fun _ h => ⌜h.events.toList = es⌝⟩⦄ := by
  mvcgen [-findSqlFiles_spec, findSqlFiles, Host.isDir]
  all_goals simp_all +zetaDelta [sqlFiles]

/-- Indexing reports on the source files found in the tree it starts from. -/
theorem indexSources_events (root : Path) (engine : Engine) (t : Tree) (cwd : Location) :
    ⦃fun h => ⌜h.events.toList = es ∧ h.tree = t ∧ h.cwd = cwd⌝⦄ indexSources root engine
    ⦃post⟨fun _ h => ⌜∃ evs, IndexEvents (sqlFiles t cwd root) evs ∧ h.events.toList = es ++ evs⌝,
      fun _ h => ⌜∃ evs, TracePrefix (IndexEvents (sqlFiles t cwd root)) evs ∧
        h.events.toList = es ++ evs⌝⟩⦄ := by
  mvcgen [-indexSources_spec, -findSqlFiles_spec, -Host.readText_spec, -Host.emit_spec, indexSources,
    findSqlFiles_events, readText_events, emit_events]
  -- the state's cursor holds the files indexed so far as its first field
  case inv1 =>
    exact post⟨fun st h => ⌜∃ evs, FileEvents st.1.1 evs ∧ h.events.toList = es ++ evs⌝,
      fun _ h => ⌜∃ evs, TracePrefix (IndexEvents (sqlFiles t cwd root)) evs ∧
        h.events.toList = es ++ evs⌝⟩
  all_goals simp_all +zetaDelta
  case vc1 =>
    obtain ⟨evs, done, grown⟩ := ‹∃ evs, FileEvents _ evs ∧ _›
    exact ⟨_, done.append (.noHeader .nil), by simp [grown]⟩
  case vc2 =>
    obtain ⟨evs, done, grown⟩ := ‹∃ evs, FileEvents _ evs ∧ _›
    exact ⟨_, done.append (.duplicate _ _ _ .nil), by rw [grown, List.append_assoc]⟩
  case vc3 =>
    obtain ⟨evs, done, grown⟩ := ‹∃ evs, FileEvents _ evs ∧ _›
    exact ⟨evs, by simpa using done.append (.indexed .nil), grown⟩
  case vc4 =>
    obtain ⟨split, -⟩ := ‹_ ++ _ :: _ = sqlFiles t cwd root ∧ _›
    obtain ⟨evs, done, grown⟩ := ‹∃ evs, FileEvents _ evs ∧ _›
    intro _ _
    exact ⟨evs, IndexEvents.cut (sqlFiles_sorted t cwd root) done split.symm, grown⟩
  case vc5 => exact .nil
  case vc8 =>
    intro _
    exact IndexEvents.prefix_nil (sqlFiles_sorted t cwd root)
  case vc6 =>
    obtain ⟨evs, done, grown⟩ := ‹∃ evs, FileEvents _ evs ∧ _›
    exact ⟨_, ⟨sqlFiles_sorted t cwd root, evs, _, done, rfl⟩, by rw [grown, List.append_assoc]⟩

/-! The steps of a build before it indexes the sources only report: the tree they start from is
the one the sources are found in. -/

theorem emit_events_in (e : Event) (t : Tree) (cwd : Location) :
    ⦃fun h => ⌜h.events.toList = es ∧ h.tree = t ∧ h.cwd = cwd⌝⦄ Host.emit e
    ⦃⇓ _ h => ⌜h.events.toList = es ++ [e] ∧ h.tree = t ∧ h.cwd = cwd⌝⦄ := by
  mvcgen [-Host.emit_spec, Host.emit]
  simp_all +zetaDelta

theorem ofExcept_events {α : Type} (r : Except Error α) (t : Tree) (cwd : Location) :
    ⦃fun h => ⌜h.events.toList = es ∧ h.tree = t ∧ h.cwd = cwd⌝⦄ Host.ofExcept r
    ⦃post⟨fun a h => ⌜r = .ok a ∧ h.events.toList = es ∧ h.tree = t ∧ h.cwd = cwd⌝,
      fun _ h => ⌜h.events.toList = es⌝⟩⦄ := by
  mvcgen [Host.ofExcept]
  all_goals simp_all

theorem specOf_events_in (m : Manifest) (version : String) (t : Tree) (cwd : Location) :
    ⦃fun h => ⌜h.events.toList = es ∧ h.tree = t ∧ h.cwd = cwd⌝⦄ specOf m version
    ⦃post⟨fun spec h => ⌜m.spec? version = some spec ∧ h.events.toList = es ∧ h.tree = t ∧
        h.cwd = cwd⌝, fun _ h => ⌜h.events.toList = es⌝⟩⦄ := by
  mvcgen [-specOf_spec, specOf]
  all_goals simp_all

theorem scanArtifacts_events (dir : Path) (t : Tree) (cwd : Location) :
    ⦃fun h => ⌜h.events.toList = es ∧ h.tree = t ∧ h.cwd = cwd⌝⦄ scanArtifacts dir
    ⦃post⟨fun _ h => ⌜h.events.toList = es ∧ h.tree = t ∧ h.cwd = cwd⌝,
      fun _ h => ⌜h.events.toList = es⌝⟩⦄ := by
  mvcgen [scanArtifacts, Host.pathExists, Host.listDir, Host.isFile, Host.onPath]
  case inv1 =>
    exact post⟨fun _ h => ⌜h.events.toList = es ∧ h.tree = t ∧ h.cwd = cwd⌝,
      fun _ h => ⌜h.events.toList = es⌝⟩
  all_goals simp_all

/-- The manifest loaded is the one the file holds when it is read. -/
theorem loadManifest_events (path : Path) (t : Tree) (cwd : Location) :
    ⦃fun h => ⌜h.events.toList = es ∧ h.tree = t ∧ h.cwd = cwd⌝⦄ loadManifest path
    ⦃post⟨fun m h => ⌜ManifestAt t cwd path m ∧ h.events.toList = es ∧ h.tree = t ∧ h.cwd = cwd⌝,
      fun _ h => ⌜h.events.toList = es⌝⟩⦄ := by
  mvcgen [-Host.readText_spec, loadManifest, Host.readText, Host.tryRead, Host.onPath]
  all_goals simp_all [ManifestAt, EStateM.Backtrackable.restore, EStateM.dummyRestore]

theorem buildLocked_events (s : Settings) (target : Option String) (p : Provenance) (engine : Engine)
    (t : Tree) (cwd : Location) :
    ⦃fun h => ⌜h.events.toList = es ∧ h.tree = t ∧ h.cwd = cwd⌝⦄ buildLocked s target p engine
    ⦃post⟨fun r h => ⌜∃ m, ManifestAt t cwd s.manifest m ∧
        ∃ evs, BuildEvents s m (sqlFiles t cwd s.sqlSrc) r.generated evs ∧
          h.events.toList = es ++ evs⌝,
      fun _ h => ⌜h.events.toList = es ∨ ∃ m, ManifestAt t cwd s.manifest m ∧
        ∃ evs, BuildCut s m (sqlFiles t cwd s.sqlSrc) evs ∧ h.events.toList = es ++ evs⌝⟩⦄ := by
  mvcgen [-Host.emit_spec, -specOf_spec, -indexSources_spec, buildLocked, emit_events_in,
    loadManifest_events, scanArtifacts_events, ofExcept_events, specOf_events_in,
    indexSources_events, buildVersions_events]
  case inv1 =>
    -- the check of each target's actions reports nothing and leaves the tree
    rename_i selected _
    exact post⟨fun _ h => ⌜h.events.toList = selected.events.toList ∧ h.tree = t ∧ h.cwd = cwd⌝,
      fun _ h => ⌜h.events.toList = es ∨ ∃ m, ManifestAt t cwd s.manifest m ∧
        ∃ evs, BuildCut s m (sqlFiles t cwd s.sqlSrc) evs ∧ h.events.toList = es ++ evs⌝⟩
  all_goals simp_all +zetaDelta
  case vc1 =>
    obtain ⟨loaded, -⟩ := ‹ManifestAt _ _ _ _ ∧ _›
    exact ⟨_, loaded, .inl ⟨rfl, rfl⟩⟩
  case vc3 | vc4 =>
    obtain ⟨loaded, -⟩ := ‹ManifestAt _ _ _ _ ∧ _›
    obtain ⟨ok, -⟩ := ‹ChainState.selectTargets _ _ _ = _ ∧ _›
    intro _ _
    exact ⟨_, loaded, .selected (loaded.selected ok (by simp)) (sqlFiles_sorted t cwd s.sqlSrc)⟩
  case vc6 =>
    obtain ⟨loaded, -⟩ := ‹ManifestAt _ _ _ _ ∧ _›
    obtain ⟨ok, -⟩ := ‹ChainState.selectTargets _ _ _ = _ ∧ _›
    obtain ⟨index, indexed, indexGrown⟩ := ‹∃ evs, IndexEvents _ evs ∧ _›
    have selected := loaded.selected ok ‹¬_ = []›
    intro named perVersion built _
    refine ⟨_, loaded, _,
      .inr ⟨index, perVersion, ?_, named ▸ selected.ascending, indexed, built, rfl⟩, ?_⟩
    · intro none
      exact selected.nonempty (by simp [← named, none])
    · rw [indexGrown, named]
      simp
  case vc7 =>
    obtain ⟨loaded, -⟩ := ‹ManifestAt _ _ _ _ ∧ _›
    obtain ⟨ok, -⟩ := ‹ChainState.selectTargets _ _ _ = _ ∧ _›
    obtain ⟨index, indexed, indexGrown⟩ := ‹∃ evs, IndexEvents _ evs ∧ _›
    intro evs cut _
    exact .inr ⟨_, loaded, _, .of_versionsCut (loaded.selected ok ‹¬_ = []›) indexed cut,
      by rw [indexGrown]; simp⟩
  case vc8 =>
    obtain ⟨loaded, -⟩ := ‹ManifestAt _ _ _ _ ∧ _›
    obtain ⟨ok, -⟩ := ‹ChainState.selectTargets _ _ _ = _ ∧ _›
    intro evs cut _
    exact ⟨_, loaded, .of_indexCut (loaded.selected ok ‹¬_ = []›) cut⟩
  case vc10 | vc11 =>
    intro _
    exact ⟨_, ‹ManifestAt _ _ _ _ ∧ _›.1, .loaded⟩

theorem buildWithProvenance_events (s : Settings) (target : Option String) (p : Provenance)
    (t : Tree) (cwd : Location) :
    ⦃fun h => ⌜h.events.toList = es ∧ h.tree = t ∧ h.cwd = cwd⌝⦄ buildWithProvenance s target p
    ⦃post⟨fun r h => ⌜∃ m files, ReadFrom t cwd s m files ∧
        ∃ evs, BuildEvents s m files r.generated evs ∧ h.events.toList = es ++ evs⌝,
      fun _ h => ⌜h.events.toList = es ∨ ∃ m files, ReadFrom t cwd s m files ∧
        ∃ evs, BuildCut s m files evs ∧ h.events.toList = es ++ evs⌝⟩⦄ := by
  mvcgen [buildWithProvenance, Host.ofExcept, Host.createDirAll, Host.change, Host.onPath,
    Host.withLock, Host.acquireLock, Host.releaseLock, buildLocked_events]
  all_goals simp_all +zetaDelta [EStateM.Backtrackable.restore, EStateM.dummyRestore]
  -- the manifest is read once the directory and the lock file are made, which only fill the tree
  all_goals
    have fills := (createDirAllAt_fills ‹createDirAllAt t cwd _ = _›).trans
      (openCreateAt_fills ‹openCreateAt _ cwd _ = _›)
  case vc2 =>
    obtain ⟨m, loaded, built⟩ := ‹∃ m, ManifestAt _ cwd s.manifest m ∧ _›
    exact ⟨m, _, ⟨_, fills, loaded, rfl⟩, built⟩
  case vc3 =>
    rcases ‹_ ∨ ∃ m, ManifestAt _ cwd s.manifest m ∧ _› with same | ⟨m, loaded, stopped⟩
    · exact .inl same
    · exact .inr ⟨m, _, ⟨_, fills, loaded, rfl⟩, stopped⟩

end Specs

/-- The reporting wrapper passes a successful run on as it is, and adds the failure event to a
failed one. -/
theorem run_build (s : Settings) (target : Option String) (p : Provenance) (h : Host) :
    Host.run (build s target p) h =
      match Host.run (buildWithProvenance s target p) h with
      | (.ok r, h') => (.ok r, h')
      | (.error e, h') => (.error e, { h' with events := h'.events.push (Event.ofError e) }) := by
  unfold build Host.run
  simp only [EStateM.run, tryCatch, tryCatchThe, MonadExceptOf.tryCatch, EStateM.tryCatch]
  cases buildWithProvenance s target p h with
  | ok r h' => rfl
  | error e h' => rfl

/-- What a build reports, from any host: a successful run its whole trace over the manifest and
the sources it read, a failed run a first part of it, perhaps followed by one script found in
the way, or nothing; and the reporting wrapper adds one event, the failure, and last, exactly
when the run fails. -/
theorem build_reports_its_trace (s : Settings) (target : Option String) (p : Provenance)
    (h : Host) :
    (∀ r h', Host.run (buildWithProvenance s target p) h = (.ok r, h') →
      ∃ m files, ReadFrom h.tree h.cwd s m files ∧
        ∃ evs, BuildEvents s m files r.generated evs ∧ h'.events.toList = h.events.toList ++ evs) ∧
    (∀ e h', Host.run (buildWithProvenance s target p) h = (.error e, h') →
      h'.events.toList = h.events.toList ∨ ∃ m files, ReadFrom h.tree h.cwd s m files ∧
        ∃ evs, BuildCut s m files evs ∧ h'.events.toList = h.events.toList ++ evs) ∧
    (∀ r h', Host.run (build s target p) h = (.ok r, h') ↔
      Host.run (buildWithProvenance s target p) h = (.ok r, h')) ∧
    ∀ e h', Host.run (build s target p) h = (.error e, h') ↔
      ∃ h₁, Host.run (buildWithProvenance s target p) h = (.error e, h₁) ∧
        h' = { h₁ with events := h₁.events.push (.failed e.category e.message) } := by
  obtain ⟨succeeded, failed⟩ :=
    Host.run_of_triple (buildWithProvenance_events h.events.toList s target p h.tree h.cwd)
      ⟨rfl, rfl, rfl⟩
  refine ⟨succeeded, failed, fun r h' => ?_, fun e h' => ?_⟩
  · rw [run_build]
    rcases Host.run (buildWithProvenance s target p) h with ⟨_ | _, h₁⟩ <;> simp
  · rw [run_build]
    rcases Host.run (buildWithProvenance s target p) h with ⟨stop | _, h₁⟩
    · simp only [Prod.mk.injEq, Except.error.injEq]
      constructor
      · rintro ⟨rfl, rfl⟩
        exact ⟨h₁, ⟨rfl, rfl⟩, rfl⟩
      · rintro ⟨h₂, ⟨rfl, rfl⟩, rfl⟩
        exact ⟨rfl, rfl⟩
    · simp

set_option maxRecDepth 100000 in
/-- Built from scratch, the sample project with one version reports a whole trace. -/
theorem sampleProject_build_reports_trace :
    ∃ r m files evs, (buildSample (createDropVersion "0001" "s" "schema") []).1 = .ok r ∧
      ReadFrom (sampleProject (createDropVersion "0001" "s" "schema") []).tree []
        (Settings.new (.ofString "p")) m files ∧
      BuildEvents (Settings.new (.ofString "p")) m files r.generated evs ∧
      (buildSample (createDropVersion "0001" "s" "schema") []).2.events.toList = evs := by
  have ok : (buildSample (createDropVersion "0001" "s" "schema") []).1.isOk = true := by
    decide +kernel
  cases ran : (buildSample (createDropVersion "0001" "s" "schema") []).1 with
  | error e => simp [ran, Except.isOk, Except.toBool] at ok
  | ok r =>
    obtain ⟨m, files, read, evs, events, grown⟩ :=
      (build_reports_its_trace (Settings.new (.ofString "p")) none sampleProvenance
        (sampleProject (createDropVersion "0001" "s" "schema") [])).1 r _ (Prod.ext ran rfl)
    have empty : (sampleProject (createDropVersion "0001" "s" "schema") []).events.toList = [] := rfl
    rw [empty, List.nil_append] at grown
    exact ⟨r, m, files, evs, rfl, read, events, grown⟩

end Migrator
