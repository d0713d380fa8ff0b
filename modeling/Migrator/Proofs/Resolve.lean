import Mathlib
import Migrator.Proofs.Events
import Migrator.Proofs.Block
import Migrator.Proofs.Log

/-! Where a rollback finds the text it restores. The compiler looks through the up scripts of
the built versions below the one it compiles, the latest first, and takes the first block of the
object's name and type it reads (`FirstBlock`); it reports the script it found it in. A whole build
keeps that true of every version it writes, in the tree it leaves and in the log it sends, with the
scripts written earlier in the same run counted among those it looks in (`buildWithProvenance_resolves`).
The specs here are stated over the world and the log together, so that each layer cites the one
below it. -/
namespace Migrator

open Std.Do Files

set_option mvcgen.warning false

/-- `text` is what the file at `path` reads as: its bytes, decoded as UTF-8. -/
def ReadsText (t : Tree) (cwd : Location) (path : Path) (text : String) : Prop :=
  ∃ bytes, readAt t cwd path.bytes = .ok bytes ∧ Text.Utf8.decode? bytes = some text

/-- Each of the files `files` reads as a text with no block of `name`/`objectType`. -/
def NoBlockIn (t : Tree) (cwd : Location) (name objectType tag : String) (files : List Path) :
    Prop :=
  ∀ c ∈ files, ∃ text, ReadsText t cwd c text ∧ Block.find? text name objectType tag = none

/-- `body` is the first block of `name`/`objectType` among the files `candidates`, found in
`source`: the candidates before it read as texts with no such block. -/
def FirstBlock (t : Tree) (cwd : Location) (name objectType tag : String) (candidates : List Path)
    (body : String) (source : Path) : Prop :=
  ∃ pre rest, candidates = pre ++ source :: rest ∧ NoBlockIn t cwd name objectType tag pre ∧
    ∃ text, ReadsText t cwd source text ∧ Block.find? text name objectType tag = some body

theorem NoBlockIn.concat {t : Tree} {cwd : Location} {name objectType tag : String}
    {files : List Path} {c : Path} {text : String} (before : NoBlockIn t cwd name objectType tag files)
    (reads : ReadsText t cwd c text) (missing : Block.find? text name objectType tag = none) :
    NoBlockIn t cwd name objectType tag (files ++ [c]) := by
  intro f member
  rcases List.mem_append.mp member with old | last
  · exact before f old
  · obtain rfl := List.mem_singleton.mp last
    exact ⟨text, reads, missing⟩

/-- Two triples of one computation give the triple of both preconditions and both
postconditions. -/
theorem Host.triple_and {α : Type} {act : HostM α} {P₁ P₂ : Host → Prop}
    {Q₁ Q₂ : α → Host → Prop} {E₁ E₂ : Error → Host → Prop}
    (first : ⦃fun h => ⌜P₁ h⌝⦄ act ⦃post⟨fun a h => ⌜Q₁ a h⌝, fun e h => ⌜E₁ e h⌝⟩⦄)
    (second : ⦃fun h => ⌜P₂ h⌝⦄ act ⦃post⟨fun a h => ⌜Q₂ a h⌝, fun e h => ⌜E₂ e h⌝⟩⦄) :
    ⦃fun h => ⌜P₁ h ∧ P₂ h⌝⦄ act
    ⦃post⟨fun a h => ⌜Q₁ a h ∧ Q₂ a h⌝, fun e h => ⌜E₁ e h ∧ E₂ e h⌝⟩⦄ := by
  intro h ⟨p₁, p₂⟩
  have q₁ := first h p₁
  have q₂ := second h p₂
  simp only [wp, PredTrans.apply] at q₁ q₂ ⊢
  revert q₁ q₂
  cases act.run h <;> simp_all

variable (w : Tree × Location × List Location) (es : List Event)

theorem scanArtifacts_quiet (dir : Path) :
    ⦃fun h => ⌜h.events.toList = es⌝⦄ scanArtifacts dir
    ⦃post⟨fun _ h => ⌜h.events.toList = es⌝, fun _ h => ⌜h.events.toList = es⌝⟩⦄ := by
  mvcgen [scanArtifacts, Host.pathExists, Host.listDir, Host.isFile, Host.onPath]
  case inv1 => exact post⟨fun _ h => ⌜h.events.toList = es⌝, fun _ h => ⌜h.events.toList = es⌝⟩
  all_goals simp_all


theorem readText_reads (path : Path) :
    ⦃fun h => ⌜h.world = w ∧ h.events.toList = es⌝⦄ Host.readText path
    ⦃post⟨fun text h => ⌜h.world = w ∧ h.events.toList = es ∧ ReadsText w.1 w.2.1 path text⌝,
      fun _ h => ⌜h.world = w ∧ h.events.toList = es⌝⟩⦄ := by
  mvcgen [-Host.readText_spec, Host.readText, Host.tryRead, Host.onPath]
  all_goals simp_all [Host.world_eq_iff, ReadsText]

/-- Where the search for a previous definition stands after the candidates `done`, with `rest`
still to read: nothing found so far, so none of `done` has a block; or the search is over with
the first block found. -/
def Searched (t : Tree) (cwd : Location) (name objectType tag : String) (candidates : List Path)
    (done rest : List Path) : Option (String × Path) → Prop
  | none => NoBlockIn t cwd name objectType tag done
  | some (body, source) => rest = [] ∧ FirstBlock t cwd name objectType tag candidates body source

section Searched

variable {t : Tree} {cwd : Location} {name objectType tag : String} {pre rest : List Path}
  {c : Path} {text : String}

/-- A candidate with a block ends the search. -/
theorem Searched.found {r : Option (String × Path)} {body : String}
    (before : Searched t cwd name objectType tag (pre ++ c :: rest) pre (c :: rest) r)
    (reads : ReadsText t cwd c text) (found : Block.find? text name objectType tag = some body) :
    Searched t cwd name objectType tag (pre ++ c :: rest) (pre ++ c :: rest) [] (some (body, c)) := by
  cases r with
  | none => exact ⟨rfl, pre, rest, rfl, before, text, reads, found⟩
  | some r => exact absurd before.1 (List.cons_ne_nil c rest)

/-- A candidate without a block is passed over. -/
theorem Searched.skip {candidates : List Path} {r : Option (String × Path)}
    (before : Searched t cwd name objectType tag candidates pre (c :: rest) r)
    (reads : ReadsText t cwd c text) (missing : Block.find? text name objectType tag = none) :
    Searched t cwd name objectType tag candidates (pre ++ [c]) rest none := by
  cases r with
  | none => exact NoBlockIn.concat before reads missing
  | some r => exact absurd before.1 (List.cons_ne_nil c rest)

end Searched

theorem resolvePrevious_firstBlock (name objectType : String) (candidates : List Path)
    (tag : String) :
    ⦃fun h => ⌜h.world = w ∧ h.events.toList = es⌝⦄ resolvePrevious name objectType candidates tag
    ⦃post⟨fun r h => ⌜h.world = w ∧ h.events.toList = es ∧
        FirstBlock w.1 w.2.1 name objectType tag candidates r.1 r.2⌝,
      fun _ h => ⌜h.world = w ∧ h.events.toList = es⌝⟩⦄ := by
  mvcgen [-resolvePrevious_spec, -matchInFile_spec, -Host.readText_spec, resolvePrevious,
    matchInFile, readText_reads]
  case inv1 =>
    exact post⟨fun x h => ⌜h.world = w ∧ h.events.toList = es ∧
        Searched w.1 w.2.1 name objectType tag candidates x.fst.prefix x.fst.suffix x.snd.1⌝,
      fun _ h => ⌜h.world = w ∧ h.events.toList = es⌝⟩
  all_goals simp_all
  case vc1.step.post.success.h_1 =>
    rename_i pre c rest _ r _ _ body before after found
    exact before.2.2.found after.2.2 found
  case vc2.step.post.success.h_2 =>
    rename_i pre c rest _ r _ _ result before after notFound found
    exact before.2.2.skip after.2.2 (by cases result <;> simp_all)
  case vc4.pre => exact fun _ member => absurd member List.not_mem_nil
  case vc5.post.success.h_1 =>
    rename_i r source _ _ after
    exact after.2.2.2

theorem emit_logs (e : Event) :
    ⦃fun h => ⌜h.world = w ∧ h.events.toList = es⌝⦄ Host.emit e
    ⦃⇓ _ h => ⌜h.world = w ∧ h.events.toList = es ++ [e]⌝⦄ := by
  mvcgen [-Host.emit_spec, Host.emit]
  simp_all +zetaDelta

/-- The command `c` compiled for the entry `e` of `version` in direction `d`: it has the entry's
name and type, and for a rollback its SQL is the first block of that name and type among `prior`,
found in a file that `log` reports as the source right before it reports the command compiled. -/
def Resolves (t : Tree) (cwd : Location) (tag : String) (prior : List Path) (log : List Event)
    (version : String) (d : Direction) (e : ActionEntry) (c : Command) : Prop :=
  c.key = e.key ∧ (e.action = .rollback → ∃ source,
    FirstBlock t cwd e.name e.objectType tag prior c.sql source ∧
      [.rollbackResolved e.name e.objectType source,
        .commandCompiled version d.name e.name e.objectType] <:+: log)

/-- A longer log reports what a shorter one does. -/
theorem Resolves.mono {t : Tree} {cwd : Location} {tag : String} {prior : List Path}
    {log log' : List Event} {version : String} {d : Direction} {e : ActionEntry} {c : Command}
    (resolves : Resolves t cwd tag prior log version d e c) (grown : log <:+: log') :
    Resolves t cwd tag prior log' version d e c := by
  refine ⟨resolves.1, fun rollback => ?_⟩
  obtain ⟨source, first, reported⟩ := resolves.2 rollback
  exact ⟨source, first, reported.trans grown⟩

/-- An action compiles to its command; a rollback to the first block of its object among the
earlier up scripts, reported as the source. -/
theorem compileAction_resolves (entry : ActionEntry) (ctx : CompileContext) :
    ⦃fun h => ⌜h.world = w ∧ h.events.toList = es⌝⦄ compileAction entry ctx
    ⦃post⟨fun c h => ⌜h.world = w ∧ ∃ pre, h.events.toList = es ++ pre ∧ c.key = entry.key ∧
        (entry.action = .rollback → ∃ source,
          FirstBlock w.1 w.2.1 entry.name entry.objectType ctx.tag ctx.priorUp c.sql source ∧
            pre = [.rollbackResolved entry.name entry.objectType source])⌝,
      fun _ h => ⌜h.world = w⌝⟩⦄ := by
  mvcgen -trivial [-compileAction_spec, -Host.readText_spec, -resolvePrevious_spec,
    -Host.emit_spec, compileAction, readText_reads, resolvePrevious_firstBlock, emit_logs]
  all_goals simp_all [Command.key, ActionEntry.key]

/-- The commands of a version's entries, in order, each resolved as its entry asks. -/
theorem compileActions_resolves (version : String) (d : Direction) (entries : List ActionEntry)
    (ctx : CompileContext) :
    ⦃fun h => ⌜h.world = w ∧ h.events.toList = es⌝⦄ compileActions version d entries ctx
    ⦃post⟨fun commands h => ⌜h.world = w ∧ ∃ evs, h.events.toList = es ++ evs ∧
        List.Forall₂ (Resolves w.1 w.2.1 ctx.tag ctx.priorUp evs version d) entries commands⌝,
      fun _ h => ⌜h.world = w⌝⟩⦄ := by
  mvcgen [-compileActions_spec, -compileAction_spec, -Host.emit_spec, compileActions,
    compileAction_resolves, emit_logs]
  -- the cursor's first field holds the entries compiled so far, the array their commands
  case inv1 =>
    exact post⟨fun x h => ⌜h.world = w ∧ ∃ evs, h.events.toList = es ++ evs ∧
        List.Forall₂ (Resolves w.1 w.2.1 ctx.tag ctx.priorUp evs version d) x.fst.prefix x.snd.toList⌝,
      fun _ h => ⌜h.world = w⌝⟩
  all_goals simp_all +zetaDelta [EStateM.Backtrackable.restore, EStateM.dummyRestore]
  case vc1.step.post.success.post.success =>
    rename_i entry _ _ _ _ c _ _ _ _ built compiled _
    obtain ⟨-, evs, before, done⟩ := built
    obtain ⟨-, pre, after, key, rollback⟩ := compiled
    refine ⟨evs ++ pre ++ [.commandCompiled version d.name c.name c.objectType],
      by simp [after, before], List.rel_append (done.imp fun _ _ r => r.mono (by simp : evs <+: _).isInfix)
      (.cons ⟨key, fun isRollback => ?_⟩ .nil)⟩
    -- the source is reported, then the command under the entry's name and type
    obtain ⟨source, first, rfl⟩ := rollback isRollback
    have named : c.name = entry.name ∧ c.objectType = entry.objectType := by simpa [Command.key, ActionEntry.key] using key
    exact ⟨source, first, ⟨evs, [], by simp [named]⟩⟩

/-- The up scripts a version's rollbacks look in: those of the built versions below it, the
latest first. -/
def priorScripts (dir : Path) (built : List String) (version : String) : List Path :=
  (built.filter (· < version)).reverse.map (artifactPath dir · .up)

theorem priorUpArtifacts_lists (dir : Path) (version : String) (D : Location)
    (dirAt : stat w.1 w.2.1 dir.bytes = .ok (D, .dir)) :
    ⦃fun h => ⌜h.world = w ∧ h.events.toList = es⌝⦄ priorUpArtifacts dir version
    ⦃⇓ prior h => ⌜h.world = w ∧ h.events.toList = es ∧
        prior = priorScripts dir (chainOf w.1 w.2.1 dir D).up version⌝⦄ := by
  have scans := Host.triple_and (scanArtifacts_spec dir w D dirAt) (scanArtifacts_quiet es dir)
  mvcgen [-priorUpArtifacts_spec, priorUpArtifacts, scans]
  all_goals simp_all [priorScripts, artifactPath]

section Transport

variable {t t' : Tree} {cwd : Location}

theorem ReadsText.extends (ext : t.Extends t') {path : Path} {text : String}
    (reads : ReadsText t cwd path text) : ReadsText t' cwd path text := by
  obtain ⟨bytes, read, decoded⟩ := reads
  exact ⟨bytes, readAt_eq_of_extends ext read, decoded⟩

theorem FirstBlock.extends (ext : t.Extends t') {name objectType tag : String}
    {candidates : List Path} {body : String} {source : Path}
    (first : FirstBlock t cwd name objectType tag candidates body source) :
    FirstBlock t' cwd name objectType tag candidates body source := by
  obtain ⟨pre, rest, split, passed, text, reads, found⟩ := first
  refine ⟨pre, rest, split, fun c member => ?_, text, reads.extends ext, found⟩
  obtain ⟨text', reads', missing⟩ := passed c member
  exact ⟨text', reads'.extends ext, missing⟩

theorem Resolves.extends (ext : t.Extends t') {tag : String} {prior : List Path}
    {log : List Event} {version : String} {d : Direction} {e : ActionEntry} {c : Command}
    (resolves : Resolves t cwd tag prior log version d e c) :
    Resolves t' cwd tag prior log version d e c := by
  refine ⟨resolves.1, fun rollback => ?_⟩
  obtain ⟨source, first, reported⟩ := resolves.2 rollback
  exact ⟨source, first.extends ext, reported⟩

end Transport

/-- The scripts of `version` in the tree `t`, in the directory found at `D`: in each direction the
rendering of commands for the version's entries under the footer of `p`, each command resolved
against the up scripts `prior` with the sources the log reports. -/
def Compiled (t : Tree) (cwd : Location) (s : Settings) (D : Location) (m : Manifest)
    (p : Provenance) (prior : List Path) (log : List Event) (version : String) : Prop :=
  ∃ spec, m.spec? version = some spec ∧ ∀ d, ∃ commands,
    t.get? (D ++ [scriptName version d]) =
      some (.file (artifactText commands p s.markerTag).toUTF8.toList) ∧
    List.Forall₂ (Resolves t cwd s.markerTag prior log version d) (spec.actions d) commands

theorem Compiled.extends {t t' : Tree} (ext : t.Extends t') {cwd : Location} {s : Settings}
    {D : Location} {m : Manifest} {p : Provenance} {prior : List Path} {log log' : List Event}
    {version : String} (compiled : Compiled t cwd s D m p prior log version) (grown : log <:+: log') :
    Compiled t' cwd s D m p prior log' version := by
  obtain ⟨spec, found, scripts⟩ := compiled
  refine ⟨spec, found, fun d => ?_⟩
  obtain ⟨commands, file, resolved⟩ := scripts d
  exact ⟨commands, ext.get?_eq file, resolved.imp fun _ _ r => (r.extends ext).mono grown⟩

/-- Building a version writes both of its scripts, the up script first, into empty places of the
directory, each command compiled in the world the build started from: a rollback takes the first
block of its object among the up scripts of the built versions below, the latest first. -/
theorem buildVersion_resolves (s : Settings) (m : Manifest) (index : ObjectIndex) (p : Provenance)
    (D : Location) {version : String} :
    ⦃fun h => ⌜h.world = w ∧ h.events.toList = es ∧
      stat w.1 w.2.1 s.migrationDir.bytes = .ok (D, .dir) ∧ ScriptVersion version⌝⦄
    buildVersion s m index version p
    ⦃post⟨fun g h => ⌜g.version = version ∧ w.1.Adds h.tree ((scriptNames version).map (D ++ [·])) ∧
        h.cwd = w.2.1 ∧ h.locks = w.2.2 ∧ stat h.tree w.2.1 s.migrationDir.bytes = .ok (D, .dir) ∧
        (∃ evs, h.events.toList = es ++ evs) ∧
        Compiled h.tree w.2.1 s D m p
          (priorScripts s.migrationDir (chainOf w.1 w.2.1 s.migrationDir D).up version)
          h.events.toList version⌝,
      fun _ h => ⌜h.world = w⌝⟩⦄ := by
  intro h ⟨world, events, dirAt, named⟩
  refine (?_ : ⦃fun h => ⌜h.world = w ∧ h.events.toList = es⌝⦄ buildVersion s m index version p
    ⦃_⦄) h ⟨world, events⟩
  have specs := fun w es => Host.triple_and (specOf_spec w m version) (specOf_events es m version)
  have priors := priorUpArtifacts_lists w es s.migrationDir version D dirAt
  have writes := fun d commands (h₀ : Host) => Host.triple_and
    (@writeScript_spec s.migrationDir version named d commands p s.markerTag D h₀.world)
    (writeScript_events h₀.events.toList (artifactPath s.migrationDir version d) commands p s.markerTag)
  have plain := slash_not_mem_scriptName named .up
  have single := ofPart_scriptName version .up
  mvcgen [-specOf_spec, -priorUpArtifacts_spec, -compileActions_spec, -Host.emit_spec, buildVersion,
    discardLoneUp, Host.pathExists, specs, priors, compileActions_resolves, emit_logs, writes]
  case inv1 => exact post⟨fun _ h => ⌜h.world = w ∧ h.events.toList = es⌝, fun _ h => ⌜h.world = w⌝⟩
  all_goals simp_all +zetaDelta [Host.world_eq_iff, stat_set_of_found dirAt, artifactPath_eq_join,
    unlinkAt_join_set dirAt plain single, EStateM.Backtrackable.restore, EStateM.dummyRestore]
  -- both scripts written: the up script filled an empty place, then the down script another
  rename_i upCommands _ downCommands _ _ _ _ _ _ found _ _ upCompiled downCompiled upWritten
    downWritten
  obtain ⟨upEmpty, -⟩ := upWritten.1
  obtain ⟨downEmpty, -⟩ := downWritten.1
  obtain ⟨-, upEvs, upGrown, upResolved⟩ := upCompiled
  obtain ⟨-, downEvs, downGrown, downResolved⟩ := downCompiled
  have upDown := Tree.extends_set downEmpty
  refine ⟨(Tree.adds_set upEmpty _).trans (Tree.adds_set downEmpty _),
    stat_set_of_found (stat_set_of_found dirAt upEmpty _) downEmpty _,
    by rw [downGrown, upGrown]; simp, _, found.2.1, fun d => ?_⟩
  cases d
  · exact ⟨_, (upDown _).get?_eq (Tree.get?_set_self (by simp)),
      upResolved.imp fun _ _ r => (r.extends ((Tree.extends_set upEmpty _).trans (upDown _))).mono
        (by rw [downGrown, upGrown]; simp)⟩
  · exact ⟨_, Tree.get?_set_self (by simp),
      downResolved.imp fun _ _ r => (r.extends ((Tree.extends_set upEmpty _).trans (upDown _))).mono
        (by rw [downGrown]; exact List.infix_append _ _ _)⟩

theorem filter_sortedSet (p : String → Bool) (xs : List String) :
    (sortedSet xs).filter p = sortedSet (xs.filter p) :=
  ((pairwise_sortedSet xs).filter p).eq_of_mem_iff (pairwise_sortedSet _) fun v => by
    simp [mem_sortedSet]

/-- The up scripts below a version depend only on the built versions below it. -/
theorem priorScripts_sortedSet_congr {dir : Path} {xs ys : List String} {version : String}
    (same : ∀ u, u < version → (u ∈ xs ↔ u ∈ ys)) :
    priorScripts dir (sortedSet xs) version = priorScripts dir (sortedSet ys) version := by
  have below : ∀ u, u ∈ xs.filter (· < version) ↔ u ∈ ys.filter (· < version) := fun u => by
    simpa using fun low => same u low
  unfold priorScripts
  rw [filter_sortedSet, filter_sortedSet, sortedSet_congr below]

/-- Building the targets in order: each version's rollbacks look in the up scripts of the
versions below it, those of the chain the directory held and those of the targets before it;
when a version fails, the versions before it stay, built as they were. -/
theorem buildVersions_resolves (s : Settings) (p : Provenance) (D : Location) (m : Manifest)
    (index : ObjectIndex) (targets : List String) :
    ⦃fun h => ⌜h.world = w ∧ h.events.toList = es ∧
      stat w.1 w.2.1 s.migrationDir.bytes = .ok (D, .dir) ∧ NoDangling w.1 w.2.1 s.migrationDir D ∧
      targets.Pairwise (· < ·) ∧ ∀ v ∈ targets, ScriptVersion v⌝⦄
    buildVersions s m index targets p
    ⦃post⟨fun r h => ⌜r.generated.map GeneratedVersion.version = targets ∧
        w.1.Adds h.tree ((targets.flatMap scriptNames).map (D ++ [·])) ∧ h.cwd = w.2.1 ∧
        h.locks = w.2.2 ∧ (∃ evs, h.events.toList = es ++ evs) ∧
        ∀ v ∈ targets, Compiled h.tree w.2.1 s D m p (priorScripts s.migrationDir
          (sortedSet ((chainOf w.1 w.2.1 s.migrationDir D).up ++ targets)) v) h.events.toList v⌝,
      fun _ h => ⌜∃ done v, done ++ [v] <+: targets ∧
        w.1.Adds h.tree ((done.flatMap scriptNames).map (D ++ [·])) ∧ h.cwd = w.2.1 ∧
        h.locks = w.2.2 ∧ ∀ u ∈ done, ∃ log, Compiled h.tree w.2.1 s D m p (priorScripts s.migrationDir
          (sortedSet ((chainOf w.1 w.2.1 s.migrationDir D).up ++ targets)) u) log u⌝⟩⦄ := by
  intro h ⟨world, events, dirAt, linked, sorted, named⟩
  refine (?_ : ⦃fun h => ⌜h.world = w ∧ h.events.toList = es⌝⦄ buildVersions s m index targets p
    ⦃_⦄) h ⟨world, events⟩
  have builds := fun (h₀ : Host) (v : String) =>
    @buildVersion_resolves h₀.world h₀.events.toList s m index p D v
  mvcgen [-buildVersion_spec, buildVersions, builds]
  case inv1 =>
    exact post⟨fun x h => ⌜x.snd.toList.map GeneratedVersion.version = x.fst.prefix ∧
        w.1.Adds h.tree (( x.fst.prefix.flatMap scriptNames).map (D ++ [·])) ∧ h.cwd = w.2.1 ∧
        h.locks = w.2.2 ∧ stat h.tree w.2.1 s.migrationDir.bytes = .ok (D, .dir) ∧
        (∃ evs, h.events.toList = es ++ evs) ∧
        ∀ u ∈ x.fst.prefix, Compiled h.tree w.2.1 s D m p (priorScripts s.migrationDir
          (sortedSet ((chainOf w.1 w.2.1 s.migrationDir D).up ++ targets)) u) h.events.toList u⌝,
      fun _ h => ⌜∃ done v, done ++ [v] <+: targets ∧
        w.1.Adds h.tree ((done.flatMap scriptNames).map (D ++ [·])) ∧ h.cwd = w.2.1 ∧
        h.locks = w.2.2 ∧ ∀ u ∈ done, ∃ log, Compiled h.tree w.2.1 s D m p (priorScripts s.migrationDir
          (sortedSet ((chainOf w.1 w.2.1 s.migrationDir D).up ++ targets)) u) log u⌝⟩
  all_goals simp_all +zetaDelta [Host.world_eq_iff, Tree.Adds.nil, -String.lt_iff_ltb]
  case vc2.step.post.success =>
    rename_i pre v rest _ _ _ _ _ _ _ built next
    obtain ⟨-, adds, -, -, -, ⟨evs, grown⟩, compiled⟩ := built
    obtain ⟨-, adds', -, -, -, ⟨evs', grown'⟩, compiled'⟩ := next
    -- the chain when `v` is built: the chain before with the targets before `v`
    have chain := chainOf_adds adds dirAt (plainNames_scriptNames fun u old => named u (.inl old))
      linked
    rw [scriptsOfNames_scriptNames fun u old => named u (.inl old),
      scriptsOfNames_scriptNames fun u old => named u (.inl old)] at chain
    -- the targets after `v` lie above it, so `v` sees below it what the whole run builds
    have later : ∀ u ∈ rest, v < u := fun _ =>
      List.rel_of_pairwise_cons (List.pairwise_append.mp sorted).2.1
    have below : ∀ u, u < v → (u ∈ (chainOf w.1 w.2.1 s.migrationDir D).up ++ pre ↔
        u ∈ (chainOf w.1 w.2.1 s.migrationDir D).up ++ (pre ++ v :: rest)) := by
      intro u low
      constructor
      · intro member
        simp only [List.mem_append, List.mem_cons] at member ⊢
        tauto
      · intro member
        simp only [List.mem_append, List.mem_cons] at member ⊢
        rcases member with built | old | rfl | new
        · exact .inl built
        · exact .inr old
        · exact absurd low (lt_irrefl _)
        · exact absurd (later u new) (lt_asymm low)
    refine ⟨adds.trans adds', ⟨evs ++ evs', by simp [grown', grown]⟩, fun u member => ?_⟩
    rcases member with old | rfl
    · exact (compiled u old).extends adds'.extends (by rw [grown']; exact (List.prefix_append _ _).isInfix)
    · rw [chain, ChainState.ofLists, priorScripts_sortedSet_congr below] at compiled'
      exact compiled'
  case vc3.step.post.except.handle =>
    rename_i pre v rest _ _ _ _ _ built
    obtain ⟨-, adds, -, -, -, -, compiled⟩ := built
    intro _ _ _ _
    exact ⟨pre, ⟨v, rest, by simp⟩, adds, fun u member => ⟨_, compiled u member⟩⟩

theorem specOf_finds (m : Manifest) (version : String) :
    ⦃fun h => ⌜h.world = w ∧ h.events.toList = es⌝⦄ specOf m version
    ⦃post⟨fun spec h => ⌜h.world = w ∧ h.events.toList = es ∧ m.spec? version = some spec⌝,
      fun _ h => ⌜h.world = w⌝⟩⦄ := by
  mvcgen [-specOf_spec, specOf]
  all_goals simp_all

/-- Inside the lock, a build builds the versions the chain check selects on the chain the
directory holds, each version's rollbacks looking in the up scripts of the versions below it;
when it fails after the checks, the versions built before stay, built as they were. -/
theorem buildLocked_resolves (s : Settings) (target : Option String) (p : Provenance)
    (engine : Engine) {text : String} {m : Manifest} (parsed : Manifest.parse text = .ok m)
    (named : ∀ v ∈ m.versions, ScriptVersion v) (D : Location) :
    ⦃fun h => ⌜h.world = w ∧ h.events.toList = es ∧
      stat w.1 w.2.1 s.migrationDir.bytes = .ok (D, .dir) ∧ NoDangling w.1 w.2.1 s.migrationDir D ∧
      readAt w.1 w.2.1 s.manifest.bytes = .ok text.toUTF8.toList⌝⦄
    buildLocked s target p engine
    ⦃post⟨fun r h => ⌜∃ ts, (chainOf w.1 w.2.1 s.migrationDir D).selectTargets m target = .ok ts ∧
        r.generated.map GeneratedVersion.version = ts ∧
        w.1.Adds h.tree ((ts.flatMap scriptNames).map (D ++ [·])) ∧ h.cwd = w.2.1 ∧
        h.locks = w.2.2 ∧ (∃ evs, h.events.toList = es ++ evs) ∧
        ∀ v ∈ ts, Compiled h.tree w.2.1 s D m p (priorScripts s.migrationDir
          (sortedSet ((chainOf w.1 w.2.1 s.migrationDir D).up ++ ts)) v) h.events.toList v⌝,
      fun _ h => ⌜∃ done, (done = [] ∨ ∃ ts v,
          (chainOf w.1 w.2.1 s.migrationDir D).selectTargets m target = .ok ts ∧
          done ++ [v] <+: ts ∧ ∀ u ∈ done, ∃ log, Compiled h.tree w.2.1 s D m p
            (priorScripts s.migrationDir (sortedSet ((chainOf w.1 w.2.1 s.migrationDir D).up ++ ts)) u)
            log u) ∧
        w.1.Adds h.tree ((done.flatMap scriptNames).map (D ++ [·])) ∧ h.cwd = w.2.1 ∧
        h.locks = w.2.2⌝⟩⦄ := by
  intro h ⟨world, events, dirAt, linked, held⟩
  refine (?_ : ⦃fun h => ⌜h.world = w ∧ h.events.toList = es⌝⦄ buildLocked s target p engine
    ⦃_⦄) h ⟨world, events⟩
  have ordered := Manifest.parse_ordered parsed
  have loads := fun (h₀ : Host) => Host.triple_and (loadManifest_spec w s.manifest held parsed)
    (loadManifest_events h₀.events.toList s.manifest h₀.tree h₀.cwd)
  have emits := fun (h₀ : Host) (e : Event) => emit_logs h₀.world h₀.events.toList e
  have scans := fun (h₀ : Host) => Host.triple_and (scanArtifacts_spec s.migrationDir w D dirAt)
    (scanArtifacts_quiet h₀.events.toList s.migrationDir)
  have indexes := fun (h₀ : Host) => Host.triple_and (indexSources_spec h₀.world s.sqlSrc engine)
    (indexSources_events h₀.events.toList s.sqlSrc engine h₀.tree h₀.cwd)
  have builds := fun (h₀ : Host) (m' : Manifest) =>
    buildVersions_resolves h₀.world h₀.events.toList s p D m'
  mvcgen [-Host.emit_spec, -specOf_spec, -indexSources_spec, buildLocked, loads, emits, scans,
    specOf_finds, indexes, builds, Host.ofExcept]
  case inv1 =>
    -- the check of each target's actions reports nothing and leaves the world
    rename_i selected _
    exact post⟨fun _ h => ⌜h.world = w ∧ h.events.toList = selected.events.toList⌝,
      fun _ h => ⌜h.world = w⌝⟩
  all_goals simp_all [Host.world_eq_iff, Tree.Adds.nil, ExceptConds.entails, -String.lt_iff_ltb]
  · -- the targets the chain check selects are ascending versions of the manifest
    rename_i selected _ _ _ _
    exact ⟨(ChainState.selectTargets_ok_targets ordered selected).2,
      fun v member => named v (ChainState.mem_versions_of_selectTargets selected member)⟩
  · -- built: the events of the run follow those before it
    rename_i indexed
    obtain ⟨-, index, -, grown⟩ := indexed
    intro _ _ _ _ evs built _
    simp_all
  · -- a version failed: those before it stay
    intro done v first adds _ _ compiled
    exact .inr ⟨done, ⟨⟨v, first⟩, compiled⟩, adds⟩

theorem LockAdded.noDangling {t t' : Tree} {cwd D : Location} {dir : Path}
    (locked : LockAdded t t' D) (dirAt : stat t cwd dir.bytes = .ok (D, .dir))
    (linked : NoDangling t cwd dir D) : NoDangling t' cwd dir D := by
  obtain ⟨lock, sub, adds⟩ := locked
  exact noDangling_adds adds dirAt (lockAdded_names sub).1 linked

theorem acquireLock_quiet (dir : Path) :
    ⦃fun h => ⌜h.events.toList = es⌝⦄ Host.acquireLock dir
    ⦃post⟨fun _ h => ⌜h.events.toList = es⌝, fun _ h => ⌜h.events.toList = es⌝⟩⦄ := by
  mvcgen [Host.acquireLock, Host.onPath]

/-- A whole build from a world where the migration directory exists with no dangling entry and
the manifest file holds a manifest: each version built takes, for each rollback, the first block
of its object among the up scripts of the versions below it, those of the chain the directory held
and those of the targets before it, the latest first, and the log reports where it was found.
When a build fails after building some targets, those stay, built as they were. -/
theorem buildWithProvenance_resolves (s : Settings) (target : Option String) (p : Provenance)
    {text : String} {m : Manifest} (parsed : Manifest.parse text = .ok m)
    (named : ∀ v ∈ m.versions, ScriptVersion v) (D : Location)
    (dirAt : stat w.1 w.2.1 s.migrationDir.bytes = .ok (D, .dir))
    (linked : NoDangling w.1 w.2.1 s.migrationDir D)
    (held : readAt w.1 w.2.1 s.manifest.bytes = .ok text.toUTF8.toList) :
    ⦃fun h => ⌜h.world = w ∧ h.events.toList = es⌝⦄
    buildWithProvenance s target p
    ⦃post⟨fun r h => ⌜∃ ts, (chainOf w.1 w.2.1 s.migrationDir D).selectTargets m target = .ok ts ∧
        r.generated.map GeneratedVersion.version = ts ∧ Built w.1 h.tree D ts ∧ h.cwd = w.2.1 ∧
        h.locks = w.2.2 ∧ (∃ evs, h.events.toList = es ++ evs) ∧
        ∀ v ∈ ts, Compiled h.tree w.2.1 s D m p (priorScripts s.migrationDir
          (sortedSet ((chainOf w.1 w.2.1 s.migrationDir D).up ++ ts)) v) h.events.toList v⌝,
      fun _ h => ⌜∃ done, (done = [] ∨ ∃ ts v,
          (chainOf w.1 w.2.1 s.migrationDir D).selectTargets m target = .ok ts ∧
          done ++ [v] <+: ts ∧ ∀ u ∈ done, ∃ log, Compiled h.tree w.2.1 s D m p
            (priorScripts s.migrationDir (sortedSet ((chainOf w.1 w.2.1 s.migrationDir D).up ++ ts)) u)
            log u) ∧
        Built w.1 h.tree D done ∧ h.cwd = w.2.1 ∧ h.locks = w.2.2⌝⟩⦄ := by
  have locks := fun (h₀ : Host) => Host.triple_and (acquireLock_spec s.migrationDir D w)
    (acquireLock_quiet h₀.events.toList s.migrationDir)
  have locked := fun engine (h₀ : Host) =>
    buildLocked_resolves h₀.world h₀.events.toList s target p engine parsed named D
  have made := createDirAllAt_of_dir dirAt
  mvcgen [buildWithProvenance, Host.ofExcept, Host.createDirAll, Host.change, Host.onPath,
    Host.withLock, Host.releaseLock, locks, locked]
  all_goals simp_all +zetaDelta [Host.world_eq_iff, Built.refl, EStateM.Backtrackable.restore,
    EStateM.dummyRestore]
  · -- the directory and the manifest file are still there once the lock file is open
    rename_i acquired
    have ext := acquired.1.1.extends
    exact ⟨stat_eq_of_extends ext dirAt, acquired.1.1.noDangling dirAt linked,
      readAt_eq_of_extends ext held⟩
  · -- built: the lock file left the chain as it was
    rename_i acquired built
    obtain ⟨selected, adds, -, -, -, compiled⟩ := built
    rw [chainOf_lockAdded dirAt linked acquired.1.1] at selected compiled
    exact ⟨selected, acquired.1.1.built adds, compiled⟩
  · -- failed inside the lock: the versions built before the failure stay
    rename_i acquired failed
    rw [chainOf_lockAdded dirAt linked acquired.1.1] at failed
    rcases failed with ⟨adds, cwdEq, locksEq⟩ | ⟨done, stage, adds, cwdEq, locksEq⟩
    · exact .inl ⟨acquired.1.1.built (by simpa using adds), cwdEq, by simp [locksEq]⟩
    · exact .inr ⟨done, stage, acquired.1.1.built adds, cwdEq, by simp [locksEq]⟩
  · -- the lock was held already
    intro locked _ _ _
    exact .inl (locked.built (Tree.Adds.nil _))

end Migrator
