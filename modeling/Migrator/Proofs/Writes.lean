import Mathlib
import Migrator.Proofs.Files

/-! What the changes to a tree do at a name in a directory: creating a new file fills an empty
place and fails anywhere else, opening a file for writing makes it only where the path leads to a
missing name, and removing a file just made gives the tree back. Making a directory that is there
already, through links or trailing slashes, changes nothing (`createDirAllAt_of_dir`). -/
namespace Migrator.Files

variable {t t' : Tree} {cwd D : Location} {dir : Path} {n : Name}

/-- A file set in an empty place leaves what a path found before. -/
theorem stat_set_of_found {bytes : List UInt8} {loc L : Location} {e : Entry}
    (found : stat t cwd bytes = .ok (loc, e)) (empty : t.get? L = none) (content : List UInt8) :
    stat (t.set L (.file content)) cwd bytes = .ok (loc, e) :=
  stat_eq_of_extends (Tree.extends_set empty content) found

/-! ### A name in a directory -/

section Join

variable (dirAt : stat t cwd dir.bytes = .ok (D, .dir)) (plain : 47 ∉ n)
  (named : Step.ofPart n = some (.name n))
include dirAt plain named

/-- Creating a file in a directory succeeds exactly where the place is empty, and fills it. -/
theorem createNewAt_join_eq_ok {content : List UInt8} :
    createNewAt t cwd (dir.join ⟨n⟩).bytes content = .ok t' ↔
      t.get? (D ++ [n]) = none ∧ t' = t.set (D ++ [n]) (.file content) := by
  obtain ⟨b, eq⟩ := lookup_join dirAt plain named false
  unfold createNewAt
  rw [lookupCreate_of_getLast (getLast?_join_name plain named), eq]
  cases held : t.get? (D ++ [n]) with
  | none => simp [resolve_name_of_empty held, eq_comm]
  | some e => cases e <;> simp [resolve, held]

theorem readAt_join_of_file {content : List UInt8} (file : t.get? (D ++ [n]) = some (.file content)) :
    readAt t cwd (dir.join ⟨n⟩).bytes = .ok content := by
  obtain ⟨b, eq⟩ := lookup_join dirAt plain named true
  simp [readAt, stat, eq, resolve_name_of_file file]

theorem isFileAt_join_of_file {content : List UInt8} (file : t.get? (D ++ [n]) = some (.file content)) :
    isFileAt t cwd (dir.join ⟨n⟩).bytes = true := by
  obtain ⟨b, eq⟩ := lookup_join dirAt plain named true
  simp [isFileAt, stat, eq, resolve_name_of_file file]

theorem existsAt_join_of_empty (empty : t.get? (D ++ [n]) = none) :
    existsAt t cwd (dir.join ⟨n⟩).bytes = false := by
  obtain ⟨b, eq⟩ := lookup_join dirAt plain named true
  simp [existsAt, stat, eq, resolve_name_of_empty empty, Except.toOption]

theorem readAt_join_set {content : List UInt8} (empty : t.get? (D ++ [n]) = none) :
    readAt (t.set (D ++ [n]) (.file content)) cwd (dir.join ⟨n⟩).bytes = .ok content :=
  readAt_join_of_file (stat_eq_of_extends (Tree.extends_set empty content) dirAt) plain named
    (Tree.get?_set_self (by simp))

theorem unlinkAt_join_of_file {content : List UInt8} (file : t.get? (D ++ [n]) = some (.file content)) :
    unlinkAt t cwd (dir.join ⟨n⟩).bytes = .ok (t.erase (D ++ [n])) := by
  obtain ⟨b, eq⟩ := lookup_join dirAt plain named false
  simp [unlinkAt, eq, resolve_name_of_file file]

/-- Removing a file just made in an empty place gives the tree back. -/
theorem unlinkAt_join_set {content : List UInt8} (empty : t.get? (D ++ [n]) = none) :
    unlinkAt (t.set (D ++ [n]) (.file content)) cwd (dir.join ⟨n⟩).bytes = .ok t := by
  have file : (t.set (D ++ [n]) (.file content)).get? (D ++ [n]) = some (.file content) :=
    Tree.get?_set_self (by simp)
  rw [unlinkAt_join_of_file (stat_eq_of_extends (Tree.extends_set empty content) dirAt) plain named
    file, Tree.erase_set empty]

/-- Following links from a name that holds nothing leads to that missing name; from a link, to
wherever the link leads. -/
theorem lookup_join_absent {parent : Location} {name : Name}
    (absent : lookup t cwd (dir.join ⟨n⟩).bytes true = .ok (.absent parent name)) :
    (parent = D ∧ name = n ∧ t.get? (D ++ [n]) = none) ∨
      ∃ target, t.get? (D ++ [n]) = some (.link target) := by
  obtain ⟨b, eq⟩ := lookup_join dirAt plain named true
  rw [eq] at absent
  cases held : t.get? (D ++ [n]) with
  | none =>
    rw [resolve_name_of_empty held] at absent
    simp only [Except.ok.injEq, Target.absent.injEq] at absent
    exact .inl ⟨absent.1.symm, absent.2.symm, rfl⟩
  | some e =>
    cases e with
    | link target => exact .inr ⟨target, rfl⟩
    | file c => simp [resolve_name_of_file held] at absent
    | dir => simp [resolve, held] at absent

end Join

/-- Opening a file for writing changes the tree only where links lead to a missing name, and
there it makes an empty file. -/
theorem openCreateAt_eq_ok {bytes : List UInt8} {loc : Location}
    (opened : openCreateAt t cwd bytes = .ok (t', loc)) :
    t' = t ∨ ∃ parent name, lookup t cwd bytes true = .ok (.absent parent name) ∧
      loc = parent ++ [name] ∧ t' = t.set (parent ++ [name]) (.file []) := by
  unfold openCreateAt at opened
  split at opened
  · exact .inl (Prod.mk.inj (Except.ok.inj opened)).1.symm
  · contradiction
  · rename_i parent name absent
    obtain ⟨tree, place⟩ := Prod.mk.inj (Except.ok.inj opened)
    exact .inr ⟨parent, name, lookupCreate_eq_ok absent, place.symm, tree.symm⟩
  · contradiction

/-! ### Making a directory that exists -/

/-- Without following a last link, a path still resolves to something wherever following it
does. -/
theorem resolve_found_of_follow {budget : Nat} {cur loc : Location} {path : List Step} {e : Entry}
    (found : resolve t true budget cur path = .ok (.found loc e)) :
    ∃ loc' e', resolve t false budget cur path = .ok (.found loc' e') := by
  fun_induction resolve t true budget cur path with
  | case1 budget cur => exact ⟨cur, .dir, by simp [resolve]⟩
  | case2 budget cur rest ih => simpa [resolve] using ih found
  | case3 budget cur rest ih => simpa [resolve] using ih found
  | case4 | case5 | case8 | case10 | case11 => simp at found
  | case6 budget cur n rest loc dir ih => simpa [resolve, loc, dir] using ih found
  | case7 budget cur n rest loc content file last =>
    exact ⟨loc, .file content, by simp [resolve, loc, file, last]⟩
  | case9 budget cur n rest loc target link stop => simp at stop
  | case12 cur n rest loc target link go b named ih =>
    by_cases last : rest.isEmpty
    · exact ⟨loc, .link target, by simp [resolve, loc, link, last]⟩
    · simpa [resolve, loc, link, last, named] using ih found

/-- A path that reaches something with a `.` after it reaches something without it. -/
theorem resolve_found_of_here {follow : Bool} {budget : Nat} {cur loc : Location}
    {path : List Step} {e : Entry} (found : resolve t follow budget cur (path ++ [.here]) = .ok (.found loc e)) :
    ∃ loc' e', resolve t follow budget cur path = .ok (.found loc' e') := by
  have going : ∀ rest : List Step, (rest ++ [Step.here]).isEmpty = false := by simp
  fun_induction resolve t follow budget cur path with
  | case1 budget cur => exact ⟨cur, .dir, rfl⟩
  | case2 budget cur rest ih => exact ih (by simpa [resolve] using found)
  | case3 budget cur rest ih => exact ih (by simpa [resolve] using found)
  | case4 budget cur n rest loc empty last => simp [resolve, loc, empty, going] at found
  | case5 budget cur n rest loc empty inner => simp [resolve, loc, empty, going] at found
  | case6 budget cur n rest loc dir ih =>
    simpa [resolve, loc, dir] using ih (by simpa [resolve, loc, dir] using found)
  | case7 budget cur n rest loc content file last => exact ⟨loc, .file content, rfl⟩
  | case8 budget cur n rest loc content file inner => simp [resolve, loc, file, going] at found
  | case9 budget cur n rest loc target link stop => exact ⟨loc, .link target, rfl⟩
  | case10 cur n rest loc target link go => simp [resolve, loc, link, going] at found
  | case11 cur n rest loc target link go b empty => simp [resolve, loc, link, going, empty] at found
  | case12 cur n rest loc target link go b named ih =>
    simpa [resolve, loc, link, go, named] using
      ih (by simpa [resolve, loc, link, going, named] using found)

theorem parts_append_slash (xs : List UInt8) : parts (xs ++ [47]) = parts xs := by
  simp [parts, List.splitOn_append_cons_self, Step.ofPart]

theorem parts_append_slashes (xs : List UInt8) (k : Nat) :
    parts (xs ++ List.replicate k 47) = parts xs := by
  induction k with
  | zero => simp
  | succ k ih => rw [List.replicate_succ', ← List.append_assoc, parts_append_slash, ih]

/-- The bytes of a path without its trailing slashes, as `mkdirAt` takes them. -/
theorem eq_trimmed_append (bytes : List UInt8) :
    ∃ k, bytes = (bytes.reverse.dropWhile (· == 47)).reverse ++ List.replicate k 47 := by
  refine ⟨(bytes.reverse.takeWhile (· == 47)).length, ?_⟩
  have slashes : (bytes.reverse.takeWhile (· == 47)).reverse =
      List.replicate (bytes.reverse.takeWhile (· == 47)).length 47 := by
    rw [List.eq_replicate_iff]
    refine ⟨by simp, fun x member => ?_⟩
    simpa using List.mem_takeWhile_imp (List.mem_reverse.mp member)
  rw [← slashes, ← List.reverse_append, List.takeWhile_append_dropWhile, List.reverse_reverse]

theorem getLast?_trimmed (bytes : List UInt8) :
    ((bytes.reverse.dropWhile (· == 47)).reverse.getLast? == some 47) = false := by
  rw [List.getLast?_reverse]
  have := List.head?_dropWhile_not (· == (47 : UInt8)) bytes.reverse
  cases head : (bytes.reverse.dropWhile (· == 47)).head? with
  | none => rfl
  | some x => simpa [head] using this

/-- A path that names a directory, with or without trailing slashes, names something when its
last link is not followed. -/
theorem mkdirAt_lookup_found {bytes : List UInt8}
    (dirAt : stat t cwd bytes = .ok (D, .dir)) :
    let trimmed := (bytes.reverse.dropWhile (· == 47)).reverse
    ∃ loc e, lookup t cwd (if trimmed.isEmpty then bytes else trimmed) false = .ok (.found loc e) := by
  intro trimmed
  have found := lookup_eq_of_stat dirAt
  have full : bytes.isEmpty = false := by
    cases bytes with
    | nil => simp [lookup_eq_resolve] at found
    | cons x xs => rfl
  by_cases bare : trimmed.isEmpty
  · simp only [bare, if_true]
    simp only [lookup_eq_resolve, full, Bool.false_eq_true, if_false] at found ⊢
    exact resolve_found_of_follow found
  · simp only [bare, Bool.false_eq_true, if_false]
    obtain ⟨k, split⟩ := eq_trimmed_append bytes
    have trimmedFull : trimmed ≠ [] := by simpa using bare
    obtain ⟨x, xs, cons⟩ := List.exists_cons_of_ne_nil trimmedFull
    have start : startOf cwd bytes = startOf cwd trimmed := by
      rw [split]
      simp [startOf, cons, trimmed]
    have trimmedSteps : steps trimmed = parts trimmed := by
      rw [steps_eq, getLast?_trimmed bytes]
      rfl
    simp only [lookup_eq_resolve, full, Bool.false_eq_true, if_false, start] at found
    simp only [lookup_eq_resolve, show trimmed.isEmpty = false by simpa using bare, Bool.false_eq_true, if_false,
      trimmedSteps]
    cases k with
    | zero =>
      have same : bytes = trimmed := by simpa using split
      rw [same, trimmedSteps] at found
      exact resolve_found_of_follow found
    | succ k =>
      have slash : bytes.getLast? = some 47 := by
        rw [split, List.replicate_succ', ← List.append_assoc]
        simp
      have bytesSteps : steps bytes = parts trimmed ++ [.here] := by
        rw [steps_eq]
        simp only [slash, beq_self_eq_true, if_true]
        rw [split, parts_append_slashes]
      rw [bytesSteps] at found
      obtain ⟨loc, e, found'⟩ := resolve_found_of_here found
      exact resolve_found_of_follow found'

/-- Making a directory that is there already changes nothing. -/
theorem createDirAllAt_of_dir (dirAt : stat t cwd dir.bytes = .ok (D, .dir)) :
    createDirAllAt t cwd dir = .ok t := by
  obtain ⟨loc, e, found⟩ := mkdirAt_lookup_found dirAt
  have exists' : mkdirAt t cwd dir.bytes = .error .alreadyExists := by
    simp only [mkdirAt, found]
  have isDir : isDirAt t cwd dir.bytes = true := by simp [isDirAt, dirAt]
  simp [createDirAllAt, createDirAllAt.go, exists', isDir]

/-! ### Making directories and opening files only fill empty places -/

theorem mkdirAt_fills {bytes : List UInt8} (made : mkdirAt t cwd bytes = .ok t') : t.Fills t' := by
  unfold mkdirAt at made
  dsimp only at made
  split at made
  · contradiction
  · rename_i absent
    cases made
    exact Tree.fills_set (lookup_absent absent) _
  · contradiction

/-- `mkdir -p` makes each missing directory in an empty place, so it only fills the tree. -/
theorem createDirAllAt_go_fills : ∀ {fuel : Nat} {t t' : Tree} {p : Path},
    createDirAllAt.go cwd fuel t p = .ok t' → t.Fills t'
  | 0, _, _, _, made => by simp [createDirAllAt.go] at made
  | fuel + 1, t, t', p, made => by
    simp only [createDirAllAt.go] at made
    split at made
    · cases made
      exact .refl t
    · split at made
      · rename_i t₁ first
        cases made
        exact mkdirAt_fills first
      · split at made
        · contradiction
        · rename_i q _
          -- the parent first, then the directory itself on the grown tree
          cases inner : createDirAllAt.go cwd fuel t q with
          | error f =>
            rw [inner] at made
            contradiction
          | ok t₁ =>
            have grown := createDirAllAt_go_fills inner
            rw [inner] at made
            dsimp only [bind, Except.bind] at made
            split at made
            · cases made
              exact grown.trans (mkdirAt_fills ‹_›)
            · split at made
              · cases made
                exact grown
              · contradiction
      · split at made
        · cases made
          exact .refl t
        · contradiction

theorem createDirAllAt_fills (made : createDirAllAt t cwd dir = .ok t') : t.Fills t' :=
  createDirAllAt_go_fills made

theorem openCreateAt_fills {bytes : List UInt8} {loc : Location}
    (opened : openCreateAt t cwd bytes = .ok (t', loc)) : t.Fills t' := by
  unfold openCreateAt at opened
  split at opened
  · cases opened
    exact .refl t
  · contradiction
  · rename_i absent
    cases opened
    exact Tree.fills_set (lookup_absent (lookupCreate_eq_ok absent)) _
  · contradiction

end Migrator.Files
