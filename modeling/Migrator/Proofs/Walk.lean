import Mathlib
import Migrator.Proofs.Events

/-! The `.sql` walk over a tree that grew by files in one directory, the directory found at `D`.
Whether a path names a directory never changes when files are added (`isDirAt_eq_of_extends`).
A path that names neither `D` nor a missing name in it (`apartFrom`) names, holds and lists the
same in the larger tree, up to the fault of a failure. So a walk that looks at no path but such
ones (`walkApart`) finds the same paths there, and the same source files (`sqlFiles_adds`). -/
namespace Migrator.Files

/-! ### Where a resolution ends -/

/-- A resolution that ends at a regular file ends at an entry of the tree. -/
theorem resolve_found_file {t : Tree} {follow : Bool} {budget : Nat} {cur loc : Location}
    {path : List Step} {c : List UInt8}
    (found : resolve t follow budget cur path = .ok (.found loc (.file c))) :
    t.get? loc = some (.file c) := by
  fun_induction resolve t follow budget cur path with
  | case1 | case4 | case5 | case8 | case9 | case10 | case11 => simp_all
  | case2 budget cur rest ih => exact ih (by simpa [resolve] using found)
  | case3 budget cur rest ih => exact ih (by simpa [resolve] using found)
  | case6 budget cur n rest loc dir ih => exact ih (by simpa [resolve, loc, dir] using found)
  | case7 budget cur n rest loc' b file last =>
    simp only [Except.ok.injEq, Target.found.injEq, Entry.file.injEq] at found
    obtain ⟨rfl, rfl⟩ := found
    exact file
  | case12 cur n rest loc target link go b named ih =>
    exact ih (by simpa [resolve, loc, link, go, named] using found)

theorem lookup_found_file {t : Tree} {cwd loc : Location} {bytes : List UInt8} {follow : Bool}
    {c : List UInt8} (found : lookup t cwd bytes follow = .ok (.found loc (.file c))) :
    t.get? loc = some (.file c) := by
  rw [lookup_eq_resolve] at found
  split at found
  · contradiction
  · exact resolve_found_file found

/-- An outcome that grows without a missing name turning into a file stays, up to the fault of a
failure. -/
theorem Grows.eq_or_failed {r r' : Except IoFault Target} (grows : Grows r r')
    (kept : ∀ parent name c, r = .ok (.absent parent name) →
      r' ≠ .ok (.found (parent ++ [name]) (.file c))) :
    r' = r ∨ ∃ f f', r = .error f ∧ r' = .error f' := by
  cases grows with
  | same => exact .inl rfl
  | added parent name c => exact absurd rfl (kept parent name c rfl)
  | failed f f' => exact .inr ⟨f, f', rfl, rfl⟩

/-- Whether a path names a directory stays when files are added. -/
theorem isDirAt_eq_of_extends {t t' : Tree} (ext : t.Extends t') (cwd : Location)
    (bytes : List UInt8) : isDirAt t' cwd bytes = isDirAt t cwd bytes := by
  have grows := lookup_grows ext cwd bytes true
  unfold isDirAt stat
  generalize lookup t cwd bytes true = r at grows ⊢
  generalize lookup t' cwd bytes true = r' at grows ⊢
  cases grows <;> rfl

/-! ### Paths apart from the directory -/

/-- Whether a path, links followed, names neither the directory at `D` nor a missing name in
it. -/
def apartFrom (t : Tree) (cwd D : Location) (p : Path) : Bool :=
  match lookup t cwd p.bytes true with
  | .ok (.found loc _) => loc != D
  | .ok (.absent parent _) => parent != D
  | .error _ => true

theorem apartFrom_absent {t : Tree} {cwd D : Location} {p : Path} (apart : apartFrom t cwd D p)
    (n : Name) : lookup t cwd p.bytes true ≠ .ok (.absent D n) := by
  intro absent
  simp [apartFrom, absent] at apart

theorem apartFrom_found {t : Tree} {cwd D : Location} {p : Path} (apart : apartFrom t cwd D p)
    (e : Entry) : lookup t cwd p.bytes true ≠ .ok (.found D e) := by
  intro found
  simp [apartFrom, found] at apart

section Adds

variable {t t' : Tree} {cwd D : Location} {names : List Name}
  (adds : t.Adds t' (names.map (D ++ [·])))
include adds

/-- Files added in `D` leave every other directory's names as they were. -/
theorem Tree.Adds.children_of_ne {L : Location} (other : L ≠ D) : t'.children L = t.children L := by
  obtain ⟨added, entries, places, -⟩ := adds
  have whole : t' = ⟨t.entries ++ added⟩ := by
    obtain ⟨entries'⟩ := t'
    simpa using entries
  rw [whole, Tree.children_append]
  suffices none : Tree.children ⟨added⟩ L = [] by rw [none, List.append_nil]
  rw [Tree.children, List.filterMap_eq_nil_iff]
  rintro ⟨l, e⟩ member
  have placed : l ∈ added.map Prod.fst := List.mem_map.mpr ⟨(l, e), member, rfl⟩
  rw [places, List.mem_map] at placed
  obtain ⟨n, -, rfl⟩ := placed
  -- a child of `L` one name below it would make `L` the directory `D`
  have notChild : ¬(((D ++ [n]).length == L.length + 1 && L.isPrefixOf (D ++ [n])) = true) := by
    intro child
    simp only [Bool.and_eq_true, beq_iff_eq, List.length_append, List.length_singleton,
      Nat.add_right_cancel_iff, List.isPrefixOf_iff_prefix] at child
    obtain ⟨length, below⟩ := child
    exact other (by rw [List.prefix_iff_eq_take.mp below, ← length, List.take_left' rfl])
  exact if_neg notChild

/-- A lookup that does not end at a missing name in `D` ends alike in the larger tree, or fails
in both. -/
theorem lookup_adds {bytes : List UInt8} (outside : ∀ n, lookup t cwd bytes true ≠ .ok (.absent D n)) :
    lookup t' cwd bytes true = lookup t cwd bytes true ∨
      ∃ f f', lookup t cwd bytes true = .error f ∧ lookup t' cwd bytes true = .error f' := by
  refine (lookup_grows adds.extends cwd bytes true).eq_or_failed fun parent name c absent found => ?_
  -- a missing name that is now a file was added, so it is in `D`
  have added : parent ++ [name] ∈ names.map (D ++ [·]) := by
    by_contra other
    have kept := adds.get?_of_not_mem other
    rw [lookup_found_file found, lookup_absent absent] at kept
    contradiction
  obtain ⟨n, -, place⟩ := List.mem_map.mp added
  obtain ⟨rfl, -⟩ := List.append_inj' place rfl
  exact outside name absent

theorem existsAt_adds {p : Path} (apart : apartFrom t cwd D p) :
    existsAt t' cwd p.bytes = existsAt t cwd p.bytes := by
  rcases lookup_adds adds (apartFrom_absent apart) with same | ⟨f, f', old, new⟩
  · simp only [existsAt, stat, same]
  · simp [existsAt, stat, old, new, Except.toOption]

theorem isFileAt_adds {p : Path} (apart : apartFrom t cwd D p) :
    isFileAt t' cwd p.bytes = isFileAt t cwd p.bytes := by
  rcases lookup_adds adds (apartFrom_absent apart) with same | ⟨f, f', old, new⟩
  · simp only [isFileAt, stat, same]
  · simp only [isFileAt, stat, old, new]

/-- A path apart from `D` lists the same names in the larger tree, or fails in both. -/
theorem listAt_adds {p : Path} (apart : apartFrom t cwd D p) :
    listAt t' cwd p.bytes = listAt t cwd p.bytes ∨
      ∃ f f', listAt t cwd p.bytes = .error f ∧ listAt t' cwd p.bytes = .error f' := by
  rcases lookup_adds adds (apartFrom_absent apart) with same | ⟨f, f', old, new⟩
  · have stats : stat t' cwd p.bytes = stat t cwd p.bytes := by simp only [stat, same]
    refine .inl ?_
    simp only [listAt, stats]
    split
    · rename_i L found
      have other : L ≠ D := fun isD => apartFrom_found apart .dir (isD ▸ lookup_eq_of_stat found)
      rw [adds.children_of_ne other]
    all_goals rfl
  · exact .inr ⟨f, f', by simp [listAt, stat, old], by simp [listAt, stat, new]⟩

end Adds

/-! ### The walk -/

/-- A path the walk keeps is a path it looks at. -/
theorem mem_globBelow_all {t : Tree} {cwd : Location} {keep : Name → Bool} :
    ∀ {fuel : Nat} {dir p : Path}, p ∈ globBelow t cwd keep fuel dir →
      p ∈ globBelow t cwd (fun _ => true) fuel dir
  | 0, _, _, kept => kept
  | fuel + 1, dir, p, kept => by
    rw [globBelow] at kept ⊢
    split at kept
    · exact kept
    · simp only [List.mem_flatMap, List.mem_append] at kept ⊢
      obtain ⟨name, listed, below | here⟩ := kept
      · refine ⟨name, listed, .inl ?_⟩
        split at below
        · rw [if_pos ‹_›]
          exact mem_globBelow_all below
        · simp at below
      · refine ⟨name, listed, .inr ?_⟩
        split at here
        · simpa using here
        · simp at here

/-- The paths a walk to the root steps through: one for each part, from where it starts. -/
def rootWalk (root : Path) : List Path :=
  ((rootParts root).scanl globChild (if root.isAbsolute then ⟨[47]⟩ else dotPath)).tail

/-- Whether every path the `.sql` walk of `root` looks at is apart from the directory at `D`:
each step to the root, the root itself, and every path below it. -/
def walkApart (t : Tree) (cwd D : Location) (root : Path) : Bool :=
  (rootWalk root).all (apartFrom t cwd D) &&
    match globRoot t cwd root with
    | none => true
    | some start => apartFrom t cwd D start &&
      (globBelow t cwd (fun _ => true) (walkFuel t) start).all (apartFrom t cwd D)

section Adds

variable {t t' : Tree} {cwd D : Location} {names : List Name}
  (adds : t.Adds t' (names.map (D ++ [·])))
include adds

theorem walkFuel_adds : walkFuel t' = walkFuel t := by
  obtain ⟨added, entries, -, fresh⟩ := adds
  -- only regular files are added, and the fuel does not count them
  have files : added.filter (fun e => !e.2.isFile) = [] :=
    List.filter_eq_nil_iff.mpr fun e member => by
      obtain ⟨-, c, file⟩ := fresh e member
      simp [file, Entry.isFile]
  simp only [walkFuel, entries, List.filter_append, files, List.append_nil]

/-- A walk below a directory apart from `D`, looking at paths apart from `D` only, finds the same
paths in the larger tree. -/
theorem globBelow_adds (keep : Name → Bool) :
    ∀ (fuel : Nat) (dir : Path), apartFrom t cwd D dir →
      (∀ p ∈ globBelow t cwd (fun _ => true) fuel dir, apartFrom t cwd D p) →
      globBelow t' cwd keep fuel dir = globBelow t cwd keep fuel dir
  | 0, _, _, _ => rfl
  | fuel + 1, dir, apartDir, apartBelow => by
    rw [globBelow] at apartBelow
    rw [globBelow, globBelow]
    rcases listAt_adds adds apartDir with same | ⟨f, f', old, new⟩
    · rw [same]
      split
      · rfl
      · rename_i names listed
        rw [listed] at apartBelow
        dsimp only at apartBelow ⊢
        refine List.flatMap_congr fun name member => ?_
        rw [isDirAt_eq_of_extends adds.extends]
        split
        · -- the child is a directory: the walk goes on below it
          rename_i isDir
          have looked : ∀ p ∈ globBelow t cwd (fun _ => true) fuel (globChild dir name),
              apartFrom t cwd D p := fun p below =>
            apartBelow p (List.mem_flatMap.mpr ⟨name, member, by simp [isDir, below]⟩)
          have child : apartFrom t cwd D (globChild dir name) :=
            apartBelow _ (List.mem_flatMap.mpr ⟨name, member, by simp⟩)
          rw [globBelow_adds keep fuel _ child looked]
        · rfl
    · rw [old, new]

/-- A walk to the root that steps through paths apart from `D` only takes the same steps in the
larger tree. -/
theorem globRoot_adds {root : Path} (steps : ∀ p ∈ rootWalk root, apartFrom t cwd D p) :
    globRoot t' cwd root = globRoot t cwd root := by
  unfold globRoot
  unfold rootWalk at steps
  generalize (if root.isAbsolute then (⟨[47]⟩ : Path) else dotPath) = start at steps ⊢
  generalize rootParts root = parts at steps ⊢
  dsimp only
  induction parts generalizing start with
  | nil => rw [List.foldlM_nil, List.foldlM_nil]
  | cons part rest ih =>
    rw [List.scanl_cons, List.tail_cons] at steps
    have first : apartFrom t cwd D (globChild start part) := by
      obtain ⟨tail, split⟩ : ∃ tail, rest.scanl globChild (globChild start part) =
          globChild start part :: tail := by
        cases rest with
        | nil => exact ⟨[], rfl⟩
        | cons next rest => exact ⟨_, List.scanl_cons⟩
      exact steps _ (split ▸ List.mem_cons_self)
    have later : ∀ p ∈ (rest.scanl globChild (globChild start part)).tail, apartFrom t cwd D p :=
      fun p member => steps p (List.mem_of_mem_tail member)
    rw [List.foldlM_cons, List.foldlM_cons, isDirAt_eq_of_extends adds.extends,
      existsAt_adds adds first]
    -- both trees take the first step alike
    split
    all_goals split
    all_goals simp only [Option.bind_eq_bind, Option.bind_some, Option.bind_none]
    all_goals exact ih _ later

/-- A walk that stays apart from `D` finds the same paths in the larger tree. -/
theorem globSql_adds {root : Path} (apart : walkApart t cwd D root) :
    globSql t' cwd root = globSql t cwd root := by
  simp only [walkApart, Bool.and_eq_true, List.all_eq_true] at apart
  obtain ⟨steps, below⟩ := apart
  unfold globSql
  rw [globRoot_adds adds steps, walkFuel_adds adds]
  split
  · rfl
  · rename_i start found
    rw [found] at below
    simp only [Bool.and_eq_true, List.all_eq_true] at below
    rw [isDirAt_eq_of_extends adds.extends]
    split
    · exact globBelow_adds adds isSqlName _ start below.1 below.2
    · rfl

/-- The source files a walk apart from `D` finds are the same in the larger tree. -/
theorem sqlFiles_adds {root : Path} (apart : walkApart t cwd D root) :
    sqlFiles t' cwd root = sqlFiles t cwd root := by
  unfold sqlFiles
  rw [globSql_adds adds apart]
  congr 1
  refine List.filter_congr fun p found => ?_
  -- a path the walk keeps is one it looks at, so it is apart from `D`
  simp only [walkApart, Bool.and_eq_true, List.all_eq_true] at apart
  unfold globSql at found
  split at found
  · simp at found
  · rename_i start rooted
    split at found
    · have looked := apart.2
      rw [rooted] at looked
      simp only [Bool.and_eq_true, List.all_eq_true] at looked
      exact isFileAt_adds adds (looked.2 p (mem_globBelow_all found))
    · simp at found

end Adds

end Migrator.Files
