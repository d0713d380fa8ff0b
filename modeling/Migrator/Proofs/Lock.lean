import Mathlib
import Migrator.Proofs.Scan

/-! The lock of a migration directory. Taking it opens the lock file and makes it where it is
missing. In a directory where no entry is a link to a missing name, that adds at most the lock
file itself, a plain file whose name reads as no script (`openCreateAt_lock`); releasing the
lock gives the locks back as they were. -/
namespace Migrator

open Std.Do Files

set_option mvcgen.warning false

/-- `t'` is `t`, or `t` with the lock file of the directory found at `D` added. -/
def LockAdded (t t' : Tree) (D : Location) : Prop :=
  ∃ lock : List Name, lock.Sublist [lockName] ∧ t.Adds t' (lock.map (D ++ [·]))

theorem LockAdded.refl (t : Tree) (D : Location) : LockAdded t t D :=
  ⟨[], List.nil_sublist _, Tree.Adds.nil t⟩

variable {t t' : Tree} {cwd D : Location} {dir : Path}

theorem LockAdded.extends (locked : LockAdded t t' D) : t.Extends t' := by
  obtain ⟨lock, -, adds⟩ := locked
  exact adds.extends

/-- Opening the lock file of a directory with no dangling entry opens the file there, or makes
it where nothing is. -/
theorem openCreateAt_lock (dirAt : stat t cwd dir.bytes = .ok (D, .dir))
    (linked : NoDangling t cwd dir D) {loc : Location}
    (opened : openCreateAt t cwd (dir.join ⟨lockName⟩).bytes = .ok (t', loc)) :
    LockAdded t t' D := by
  have plain := plainNames_lock lockName (List.mem_singleton_self _)
  rcases openCreateAt_eq_ok opened with same | ⟨parent, name, absent, -, made⟩
  · exact same ▸ LockAdded.refl t D
  rcases lookup_join_absent dirAt plain.1 plain.2 absent with ⟨rfl, rfl, empty⟩ | ⟨target, link⟩
  · exact ⟨[lockName], List.Sublist.refl _, made ▸ Tree.adds_set empty []⟩
  · -- a lock file that is a link leads somewhere that exists
    exact absurd absent (linked lockName (Tree.mem_children_of_get? link) parent name)

/-- The lock file is a plain file whose name reads as no script. -/
theorem lockAdded_names {lock : List Name} (sub : lock.Sublist [lockName]) :
    PlainNames lock ∧ ∀ d, scriptsOfNames d lock = [] := by
  rcases List.sublist_singleton.mp sub with rfl | rfl
  · exact ⟨fun _ member => absurd member List.not_mem_nil, fun _ => rfl⟩
  · exact ⟨plainNames_lock, scriptsOfNames_lock⟩

/-- Opening the lock file leaves the chain the directory holds. -/
theorem chainOf_lockAdded (dirAt : stat t cwd dir.bytes = .ok (D, .dir))
    (linked : NoDangling t cwd dir D) (locked : LockAdded t t' D) :
    chainOf t' cwd dir D = chainOf t cwd dir D := by
  obtain ⟨lock, sub, adds⟩ := locked
  obtain ⟨plain, noScripts⟩ := lockAdded_names sub
  rw [chainOf_adds adds dirAt plain linked, noScripts, noScripts, List.append_nil, List.append_nil]
  -- the chain is sorted already, so sorting it again changes nothing
  simp only [chainOf, ChainState.ofLists, ChainState.mk.injEq]
  constructor <;> exact sortedSet_congr fun v => mem_sortedSet

/-- Taking the lock opens the lock file and holds the lock on it; where the lock is held
already it fails, the lock file opened all the same. -/
theorem acquireLock_spec (dir : Path) (D : Location) (w : Tree × Location × List Location) :
    ⦃fun h => ⌜h.world = w ∧ stat w.1 w.2.1 dir.bytes = .ok (D, .dir) ∧
      NoDangling w.1 w.2.1 dir D⌝⦄
    Host.acquireLock dir
    ⦃post⟨fun loc h => ⌜LockAdded w.1 h.tree D ∧ h.cwd = w.2.1 ∧ h.locks = loc :: w.2.2⌝,
      fun _ h => ⌜LockAdded w.1 h.tree D ∧ h.cwd = w.2.1 ∧ h.locks = w.2.2⌝⟩⦄ := by
  intro h ⟨world, dirAt, linked⟩
  refine (?_ : ⦃fun h => ⌜h.world = w⌝⦄ Host.acquireLock dir ⦃_⦄) h world
  mvcgen [Host.acquireLock, Host.onPath]
  all_goals simp_all [Host.world_eq_iff, LockAdded.refl]
  -- the lock file opened, whether or not its lock is held already
  all_goals
    rename_i opened _
    exact openCreateAt_lock dirAt linked opened

end Migrator
