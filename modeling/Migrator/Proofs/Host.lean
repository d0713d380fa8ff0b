import Mathlib
import Migrator.Build
import Migrator.Proofs.Utf8

/-! Runs and the world they act on. The world of a host is its tree, working directory and
locks; the event log is left out. Reading, compiling and indexing leave the world as they found
it, whether they succeed or fail; the specifications below say so for each, and what the value
is where a proof needs it. They are stated as triples, which `mvcgen` puts together, and
`run_of_triple` reads one back as a fact about a run. -/
namespace Migrator

open Std.Do

set_option mvcgen.warning false

namespace Host

/-- The tree, working directory and locks of a host. -/
def world (h : Host) : Files.Tree × Files.Location × List Files.Location := (h.tree, h.cwd, h.locks)

@[simp] theorem world_events (h : Host) (events : Array Event) :
    { h with events := events }.world = h.world := rfl

@[simp] theorem world_tree (h : Host) : h.world.1 = h.tree := rfl

@[simp] theorem world_cwd (h : Host) : h.world.2.1 = h.cwd := rfl

@[simp] theorem world_locks (h : Host) : h.world.2.2 = h.locks := rfl

theorem world_eq_iff {h : Host} {w : Files.Tree × Files.Location × List Files.Location} :
    h.world = w ↔ h.tree = w.1 ∧ h.cwd = w.2.1 ∧ h.locks = w.2.2 := by
  obtain ⟨t, c, l⟩ := w
  simp [world]

/-- A triple read as a fact about a run: from a host that meets the precondition, the outcome
of the run meets the postcondition of its kind. -/
theorem run_of_triple {α : Type} {act : HostM α} {P : Host → Prop} {Q : α → Host → Prop}
    {E : Error → Host → Prop}
    (spec : ⦃fun h => ⌜P h⌝⦄ act ⦃post⟨fun a h => ⌜Q a h⌝, fun e h => ⌜E e h⌝⟩⦄) {h : Host}
    (pre : P h) :
    (∀ a h', run act h = (.ok a, h') → Q a h') ∧ (∀ e h', run act h = (.error e, h') → E e h') := by
  have reading := EStateM.of_wp_run_eq (rfl : act.run h = act.run h)
    (fun r => EStateM.Result.casesOn (motive := fun _ => Prop) r Q E) (fun _ => by exact spec h pre)
  unfold Host.run
  cases result : act.run h with
  | ok a h' =>
    rw [result] at reading
    refine ⟨fun a' h'' same => ?_, fun _ _ same => by simp at same⟩
    obtain ⟨rfl, rfl⟩ : a = a' ∧ h' = h'' := by simpa using same
    exact reading
  | error e h' =>
    rw [result] at reading
    refine ⟨fun _ _ same => by simp at same, fun e' h'' same => ?_⟩
    obtain ⟨rfl, rfl⟩ : e = e' ∧ h' = h'' := by simpa using same
    exact reading

variable (w : Files.Tree × Files.Location × List Files.Location)

/-- Recording an event never fails and leaves the world. -/
@[spec] theorem emit_spec (e : Event) :
    ⦃fun h => ⌜h.world = w⌝⦄ emit e ⦃⇓ _ h => ⌜h.world = w⌝⦄ := by
  mvcgen [emit]

/-- Reading a text leaves the world; what it reads are the bytes of the file, as UTF-8. -/
@[spec] theorem readText_spec (path : Path) :
    ⦃fun h => ⌜h.world = w⌝⦄ readText path
    ⦃post⟨fun text h => ⌜h.world = w ∧ ∃ bytes, Files.readAt w.1 w.2.1 path.bytes = .ok bytes ∧
        Text.Utf8.decode? bytes = some text⌝, fun _ h => ⌜h.world = w⌝⟩⦄ := by
  mvcgen [readText, tryRead, onPath]
  all_goals simp_all [world_eq_iff]

end Host

section Frames

variable (w : Files.Tree × Files.Location × List Files.Location)

@[spec] theorem matchInFile_spec (path : Path) (name objectType tag : String) :
    ⦃fun h => ⌜h.world = w⌝⦄ matchInFile path name objectType tag
    ⦃post⟨fun _ h => ⌜h.world = w⌝, fun _ h => ⌜h.world = w⌝⟩⦄ := by
  mvcgen [matchInFile]
  all_goals simp_all

@[spec] theorem resolvePrevious_spec (name objectType : String) (candidates : List Path)
    (tag : String) :
    ⦃fun h => ⌜h.world = w⌝⦄ resolvePrevious name objectType candidates tag
    ⦃post⟨fun _ h => ⌜h.world = w⌝, fun _ h => ⌜h.world = w⌝⟩⦄ := by
  mvcgen [resolvePrevious]
  case inv1 => exact post⟨fun _ h => ⌜h.world = w⌝, fun _ h => ⌜h.world = w⌝⟩
  all_goals simp_all

/-- The command of an action carries the action's name and type, and SQL that is not blank. -/
@[spec] theorem compileAction_spec (entry : ActionEntry) (ctx : CompileContext) :
    ⦃fun h => ⌜h.world = w⌝⦄ compileAction entry ctx
    ⦃post⟨fun command h => ⌜h.world = w ∧ command.name = entry.name ∧
        command.objectType = entry.objectType ∧ (Text.trim command.sql).isEmpty = false⌝,
      fun _ h => ⌜h.world = w⌝⟩⦄ := by
  mvcgen -trivial [compileAction]
  all_goals simp_all

/-- The name and type of each compiled command, in order, as the actions have them. -/
def Command.key (c : Command) : String × String := (c.name, c.objectType)

/-- The name and type of an action. -/
def ActionEntry.key (a : ActionEntry) : String × String := (a.name, a.objectType)

@[spec] theorem compileActions_spec (version : String) (direction : Direction)
    (entries : List ActionEntry) (ctx : CompileContext) :
    ⦃fun h => ⌜h.world = w⌝⦄ compileActions version direction entries ctx
    ⦃post⟨fun commands h => ⌜h.world = w ∧ commands.map Command.key = entries.map ActionEntry.key ∧
        ∀ c ∈ commands, (Text.trim c.sql).isEmpty = false⌝,
      fun _ h => ⌜h.world = w⌝⟩⦄ := by
  mvcgen [compileActions]
  case inv1 =>
    exact post⟨fun ⟨⟨done, _, _⟩, acc⟩ h => ⌜h.world = w ∧
        acc.toList.map Command.key = done.map ActionEntry.key ∧
        ∀ c ∈ acc.toList, (Text.trim c.sql).isEmpty = false⌝,
      fun _ h => ⌜h.world = w⌝⟩
  all_goals simp_all +zetaDelta [Command.key, ActionEntry.key, EStateM.Backtrackable.restore,
    EStateM.dummyRestore, or_imp]

@[spec] theorem findSqlFiles_spec (root : Path) :
    ⦃fun h => ⌜h.world = w⌝⦄ findSqlFiles root
    ⦃post⟨fun _ h => ⌜h.world = w⌝, fun _ h => ⌜h.world = w⌝⟩⦄ := by
  mvcgen [findSqlFiles, Host.isDir]

@[spec] theorem indexSources_spec (root : Path) (engine : Engine) :
    ⦃fun h => ⌜h.world = w⌝⦄ indexSources root engine
    ⦃post⟨fun _ h => ⌜h.world = w⌝, fun _ h => ⌜h.world = w⌝⟩⦄ := by
  mvcgen [indexSources]
  case inv1 => exact post⟨fun _ h => ⌜h.world = w⌝, fun _ h => ⌜h.world = w⌝⟩
  all_goals simp_all

theorem scanArtifacts_frame (dir : Path) :
    ⦃fun h => ⌜h.world = w⌝⦄ scanArtifacts dir
    ⦃post⟨fun _ h => ⌜h.world = w⌝, fun _ h => ⌜h.world = w⌝⟩⦄ := by
  mvcgen [scanArtifacts, Host.pathExists, Host.listDir, Host.isFile, Host.onPath]
  case inv1 => exact post⟨fun _ h => ⌜h.world = w⌝, fun _ h => ⌜h.world = w⌝⟩
  all_goals simp_all

@[spec] theorem priorUpArtifacts_spec (dir : Path) (version : String) :
    ⦃fun h => ⌜h.world = w⌝⦄ priorUpArtifacts dir version
    ⦃post⟨fun _ h => ⌜h.world = w⌝, fun _ h => ⌜h.world = w⌝⟩⦄ := by
  mvcgen [priorUpArtifacts, scanArtifacts_frame]
  all_goals simp_all

@[spec] theorem specOf_spec (m : Manifest) (version : String) :
    ⦃fun h => ⌜h.world = w⌝⦄ specOf m version
    ⦃post⟨fun spec h => ⌜h.world = w ∧ m.spec? version = some spec⌝,
      fun _ h => ⌜h.world = w⌝⟩⦄ := by
  mvcgen [specOf]

/-- A manifest file that holds a text read as `m` loads as `m`, and loading leaves the world. -/
theorem loadManifest_spec (path : Path) {text : String} {m : Manifest}
    (held : Files.readAt w.1 w.2.1 path.bytes = .ok text.toUTF8.toList)
    (parsed : Manifest.parse text = .ok m) :
    ⦃fun h => ⌜h.world = w⌝⦄ loadManifest path ⦃⇓ m' h => ⌜h.world = w ∧ m' = m⌝⦄ := by
  have decoded := Text.Utf8.decode?_toUTF8 text
  mvcgen [loadManifest, Host.readText, Host.tryRead, Host.onPath]
  all_goals simp_all [Host.world_eq_iff]

end Frames

end Migrator
