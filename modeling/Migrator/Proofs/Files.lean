import Mathlib
import Migrator.Files.Resolve

/-! Adding files to a tree. A tree extends another when it holds every entry of the other and,
besides them, only regular files at places the other leaves empty; this is what creating new
files does. Under such a change a path resolves as before, except that a missing last name may
now be one of the new files (`resolve_grows`). A path through a directory goes on from that
directory (`resolve_append_of_dir`), which gives the resolution of a name joined to a
directory path (`lookup_join`). -/
namespace Migrator.Files

namespace Tree

theorem get?_eq_lookup {t : Tree} {loc : Location} (nonempty : loc ≠ []) :
    t.get? loc = t.entries.lookup loc := by
  simp [get?, nonempty]

/-- `t'` holds every entry of `t` and, besides them, only regular files at places `t` leaves
empty. -/
def Extends (t t' : Tree) : Prop :=
  ∃ added : List (Location × Entry), t'.entries = t.entries ++ added ∧
    ∀ p ∈ added, t.get? p.1 = none ∧ ∃ c, p.2 = .file c

variable {t t' t'' : Tree} {loc : Location} {e : Entry}

theorem Extends.refl (t : Tree) : t.Extends t := ⟨[], by simp, by simp⟩

/-- An entry of the smaller tree stays; a place it leaves empty stays empty or holds a new
file. -/
theorem Extends.get?_cases (ext : t.Extends t') (loc : Location) :
    t'.get? loc = t.get? loc ∨ (t.get? loc = none ∧ ∃ c, t'.get? loc = some (.file c)) := by
  obtain ⟨added, entries, fresh⟩ := ext
  by_cases root : loc = []
  · simp [get?, root]
  rw [get?_eq_lookup root, get?_eq_lookup root, entries, List.lookup_append]
  cases old : t.entries.lookup loc with
  | some e => simp
  | none =>
    cases new : added.lookup loc with
    | none => simp
    | some e =>
      obtain ⟨pre, post, split, -⟩ := List.lookup_eq_some_iff.mp new
      obtain ⟨-, c, file⟩ := fresh (loc, e) (by simp [split])
      have isFile : e = .file c := file
      subst isFile
      exact .inr ⟨rfl, c, rfl⟩

theorem Extends.get?_eq (ext : t.Extends t') (held : t.get? loc = some e) :
    t'.get? loc = some e := by
  rcases ext.get?_cases loc with same | ⟨empty, -⟩
  · rw [same, held]
  · rw [held] at empty
    contradiction

theorem Extends.trans (first : t.Extends t') (second : t'.Extends t'') : t.Extends t'' := by
  obtain ⟨added, entries, fresh⟩ := first
  obtain ⟨added', entries', fresh'⟩ := second
  refine ⟨added ++ added', by rw [entries', entries, List.append_assoc], ?_⟩
  intro p member
  rcases List.mem_append.mp member with old | new
  · exact fresh p old
  · obtain ⟨empty, file⟩ := fresh' p new
    refine ⟨?_, file⟩
    cases held : t.get? p.1 with
    | none => rfl
    | some e =>
      rw [Extends.get?_eq ⟨added, entries, fresh⟩ held] at empty
      contradiction

theorem set_go_eq_append {loc : Location} {e : Entry} {es : List (Location × Entry)}
    (absent : ∀ p ∈ es, (loc != p.1) = true) : set.go loc e es = es ++ [(loc, e)] := by
  induction es with
  | nil => rfl
  | cons p rest ih =>
    have other : (p.1 == loc) = false :=
      beq_eq_false_iff_ne.mpr (Ne.symm (bne_iff_ne.mp (absent p (by simp))))
    simp only [set.go, other, Bool.false_eq_true, if_false, List.cons_append]
    rw [ih fun q member => absent q (by simp [member])]

/-- Setting a place that holds nothing adds one entry at the end. -/
theorem set_eq_append (empty : t.get? loc = none) :
    (t.set loc e).entries = t.entries ++ [(loc, e)] := by
  have root : loc ≠ [] := by
    rintro rfl
    simp [get?] at empty
  rw [get?_eq_lookup root, List.lookup_eq_none_iff] at empty
  exact set_go_eq_append empty

theorem extends_set (empty : t.get? loc = none) (c : List UInt8) :
    t.Extends (t.set loc (.file c)) :=
  ⟨[(loc, .file c)], set_eq_append empty, by simp [empty]⟩

theorem lookup_set_go (loc : Location) (e : Entry) (es : List (Location × Entry)) :
    (set.go loc e es).lookup loc = some e := by
  induction es with
  | nil => simp [set.go]
  | cons p rest ih =>
    by_cases same : p.1 = loc
    · simp [set.go, same]
    · have other : (p.1 == loc) = false := beq_eq_false_iff_ne.mpr same
      have other' : (loc == p.1) = false := beq_eq_false_iff_ne.mpr (Ne.symm same)
      simp only [set.go, other, Bool.false_eq_true, if_false, List.lookup_cons, other', ih]

theorem get?_set_self (root : loc ≠ []) : (t.set loc e).get? loc = some e := by
  rw [get?_eq_lookup root]
  exact lookup_set_go loc e t.entries

theorem children_append (t : Tree) (added : List (Location × Entry)) (loc : Location) :
    Tree.children ⟨t.entries ++ added⟩ loc = t.children loc ++ Tree.children ⟨added⟩ loc := by
  simp [children, List.filterMap_append]

/-- `t'` is `t` with regular files added at `locs`, in this order, each at a place `t` leaves
empty. -/
def Adds (t t' : Tree) (locs : List Location) : Prop :=
  ∃ added : List (Location × Entry), t'.entries = t.entries ++ added ∧ added.map Prod.fst = locs ∧
    ∀ p ∈ added, t.get? p.1 = none ∧ ∃ c, p.2 = .file c

variable {locs locs' : List Location}

theorem Adds.extends (adds : t.Adds t' locs) : t.Extends t' := by
  obtain ⟨added, entries, -, fresh⟩ := adds
  exact ⟨added, entries, fresh⟩

theorem Adds.nil (t : Tree) : t.Adds t [] := ⟨[], by simp, rfl, by simp⟩

theorem Adds.trans (first : t.Adds t' locs) (second : t'.Adds t'' locs') :
    t.Adds t'' (locs ++ locs') := by
  obtain ⟨added, entries, places, fresh⟩ := first
  obtain ⟨added', entries', places', fresh'⟩ := second
  refine ⟨added ++ added', by rw [entries', entries, List.append_assoc], ?_, ?_⟩
  · rw [List.map_append, places, places']
  · intro p member
    rcases List.mem_append.mp member with old | new
    · exact fresh p old
    · obtain ⟨empty, file⟩ := fresh' p new
      refine ⟨?_, file⟩
      rcases (Adds.extends ⟨added, entries, places, fresh⟩).get?_cases p.1 with
        same | ⟨empty', -⟩
      · exact same ▸ empty
      · exact empty'

theorem adds_set (empty : t.get? loc = none) (c : List UInt8) :
    t.Adds (t.set loc (.file c)) [loc] :=
  ⟨[(loc, .file c)], set_eq_append empty, rfl, by simp [empty]⟩

theorem get?_eq_none_of_adds (adds : t.Adds t' locs) (member : loc ∈ locs) : t.get? loc = none := by
  obtain ⟨added, -, places, fresh⟩ := adds
  subst places
  obtain ⟨p, added, rfl⟩ := List.mem_map.mp member
  exact (fresh p added).1

/-- Removing the one entry just set gives the tree back. -/
theorem erase_set (empty : t.get? loc = none) : (t.set loc e).erase loc = t := by
  have root : loc ≠ [] := by
    rintro rfl
    simp [get?] at empty
  rw [get?_eq_lookup root, List.lookup_eq_none_iff] at empty
  obtain ⟨entries⟩ := t
  simp only [erase, set_eq_append ((get?_eq_lookup root).trans
    (List.lookup_eq_none_iff.mpr empty)), Tree.mk.injEq]
  rw [List.filter_append, List.filter_eq_self.mpr fun p member => by
    simpa [bne_comm] using empty p member]
  simp

/-- Each place added holds a regular file. -/
theorem Adds.get?_added (adds : t.Adds t' locs) (member : loc ∈ locs) :
    ∃ c, t'.get? loc = some (.file c) := by
  obtain ⟨added, entries, places, fresh⟩ := adds
  subst places
  obtain ⟨p, inAdded, rfl⟩ := List.mem_map.mp member
  have empty := (fresh p inAdded).1
  have root : p.1 ≠ [] := by
    intro isRoot
    simp [get?, isRoot] at empty
  rw [get?_eq_lookup root] at empty ⊢
  obtain ⟨e, found⟩ : ∃ e, added.lookup p.1 = some e :=
    Option.isSome_iff_exists.mp (List.lookup_isSome_iff.mpr ⟨p, inAdded, by simp⟩)
  obtain ⟨pre, post, split, -⟩ := List.lookup_eq_some_iff.mp found
  obtain ⟨-, c, file⟩ := fresh (p.1, e) (by simp [split])
  have isFile : e = .file c := file
  refine ⟨c, ?_⟩
  rw [entries, List.lookup_append, empty, found, isFile]
  rfl

/-- A place no file is added at keeps what it held. -/
theorem Adds.get?_of_not_mem (adds : t.Adds t' locs) (other : loc ∉ locs) :
    t'.get? loc = t.get? loc := by
  obtain ⟨added, entries, places, -⟩ := adds
  by_cases root : loc = []
  · simp [get?, root]
  have missing : added.lookup loc = none := List.lookup_eq_none_iff.mpr fun p member =>
    bne_iff_ne.mpr fun same => other (places ▸ List.mem_map.mpr ⟨p, member, same.symm⟩)
  rw [get?_eq_lookup root, get?_eq_lookup root, entries, List.lookup_append, missing,
    Option.or_none]

/-- Entries added in one directory, in order, are its new children. -/
theorem children_of_places {D : Location} {names : List Name} :
    ∀ {added : List (Location × Entry)}, added.map Prod.fst = names.map (D ++ [·]) →
      Tree.children ⟨added⟩ D = names := by
  induction names with
  | nil =>
    intro added places
    rw [List.map_nil, List.map_eq_nil_iff] at places
    simp [children, places]
  | cons n names ih =>
    intro added places
    obtain ⟨p, rest, rfl⟩ : ∃ p rest, added = p :: rest :=
      List.exists_cons_of_ne_nil (by
        rintro rfl
        simp at places)
    simp only [List.map_cons, List.cons.injEq] at places
    obtain ⟨place, restPlaces⟩ := places
    have later := ih restPlaces
    have inside : D.isPrefixOf (D ++ [n]) = true :=
      List.isPrefixOf_iff_prefix.mpr (List.prefix_append D [n])
    simp only [children, List.filterMap_cons] at later ⊢
    simp only [place, List.length_append, List.length_singleton, beq_self_eq_true, inside,
      Bool.and_self, if_true, List.getLast?_append, List.getLast?_singleton, Option.some_or,
      List.cons.injEq, true_and]
    exact later

theorem mem_children_of_get? {D : Location} {n : Name} (held : t.get? (D ++ [n]) = some e) :
    n ∈ t.children D := by
  rw [get?_eq_lookup (by simp)] at held
  obtain ⟨pre, post, split, -⟩ := List.lookup_eq_some_iff.mp held
  simp only [children, List.mem_filterMap]
  exact ⟨(D ++ [n], e), by simp [split], by simp [List.isPrefixOf_iff_prefix]⟩

/-- `t'` holds every entry of `t` and, besides them, entries of any kind at places `t` leaves
empty: what making directories and files does. -/
def Fills (t t' : Tree) : Prop :=
  ∃ added : List (Location × Entry), t'.entries = t.entries ++ added ∧
    ∀ p ∈ added, t.get? p.1 = none

theorem Fills.refl (t : Tree) : t.Fills t := ⟨[], by simp, by simp⟩

theorem Extends.fills (ext : t.Extends t') : t.Fills t' := by
  obtain ⟨added, entries, fresh⟩ := ext
  exact ⟨added, entries, fun p member => (fresh p member).1⟩

theorem Fills.get?_eq (fills : t.Fills t') (held : t.get? loc = some e) : t'.get? loc = some e := by
  obtain ⟨added, entries, -⟩ := fills
  by_cases root : loc = []
  · simpa [get?, root] using held
  rw [get?_eq_lookup root] at held ⊢
  simp [entries, List.lookup_append, held]

theorem Fills.trans (first : t.Fills t') (second : t'.Fills t'') : t.Fills t'' := by
  obtain ⟨added, entries, fresh⟩ := first
  obtain ⟨added', entries', fresh'⟩ := second
  refine ⟨added ++ added', by rw [entries', entries, List.append_assoc], ?_⟩
  intro p member
  rcases List.mem_append.mp member with old | new
  · exact fresh p old
  · cases held : t.get? p.1 with
    | none => rfl
    | some e =>
      have kept := Fills.get?_eq ⟨added, entries, fresh⟩ held
      rw [fresh' p new] at kept
      contradiction

theorem fills_set (empty : t.get? loc = none) (e : Entry) : t.Fills (t.set loc e) :=
  ⟨[(loc, e)], set_eq_append empty, by simp [empty]⟩

end Tree

/-! ### Resolution in a larger tree -/

/-- How the outcome of a resolution can change when files are added: it stays, a missing last
name becomes one of the new files, or a failure stays a failure. -/
inductive Grows : Except IoFault Target → Except IoFault Target → Prop
  | same (r : Except IoFault Target) : Grows r r
  | added (parent : Location) (name : Name) (content : List UInt8) :
      Grows (.ok (.absent parent name)) (.ok (.found (parent ++ [name]) (.file content)))
  | failed (fault fault' : IoFault) : Grows (.error fault) (.error fault')

theorem resolve_grows {t t' : Tree} (ext : t.Extends t') (follow : Bool) (budget : Nat)
    (cur : Location) (path : List Step) :
    Grows (resolve t follow budget cur path) (resolve t' follow budget cur path) := by
  fun_induction resolve t follow budget cur path with
  | case1 budget cur => simpa [resolve] using Grows.same _
  | case2 budget cur rest ih => simpa [resolve] using ih
  | case3 budget cur rest ih => simpa [resolve] using ih
  | case4 budget cur n rest loc empty last =>
    -- the missing last name may now be a new file
    rcases ext.get?_cases loc with same | ⟨-, c, file⟩
    · have stillEmpty : t'.get? loc = none := same.trans empty
      simpa [resolve, loc, stillEmpty, last] using Grows.same _
    · simpa [resolve, loc, file, last] using Grows.added cur n c
  | case5 budget cur n rest loc empty inner =>
    rcases ext.get?_cases loc with same | ⟨-, c, file⟩
    · have stillEmpty : t'.get? loc = none := same.trans empty
      simpa [resolve, loc, stillEmpty, inner] using Grows.same _
    · simpa [resolve, loc, file, inner] using Grows.failed .notFound .notDirectory
  | case6 budget cur n rest loc dir ih =>
    simpa [resolve, loc, ext.get?_eq dir] using ih
  | case7 budget cur n rest loc b file last =>
    simpa [resolve, loc, ext.get?_eq file, last] using Grows.same _
  | case8 budget cur n rest loc b file inner =>
    simpa [resolve, loc, ext.get?_eq file, inner] using Grows.same _
  | case9 budget cur n rest loc target link stop =>
    simpa [resolve, loc, ext.get?_eq link, stop] using Grows.same _
  | case10 cur n rest loc target link go =>
    simpa [resolve, loc, ext.get?_eq link, go] using Grows.same _
  | case11 cur n rest loc target link go b empty =>
    simpa [resolve, loc, ext.get?_eq link, go, empty] using Grows.same _
  | case12 cur n rest loc target link go b named ih =>
    simpa [resolve, loc, ext.get?_eq link, go, named] using ih

theorem Grows.eq_of_found {r r' : Except IoFault Target} {loc : Location} {e : Entry}
    (grows : Grows r r') (found : r = .ok (.found loc e)) : r' = r := by
  cases grows with
  | same => rfl
  | added => simp at found
  | failed => simp at found

/-- An outcome that is not a missing name stays, up to the fault of a failure. -/
theorem Grows.of_not_absent {r r' : Except IoFault Target} (grows : Grows r r')
    (present : ∀ parent name, r ≠ .ok (.absent parent name)) :
    r' = r ∨ ∃ fault fault', r = .error fault ∧ r' = .error fault' := by
  cases grows with
  | same => exact .inl rfl
  | added parent name => exact absurd rfl (present parent name)
  | failed fault fault' => exact .inr ⟨fault, fault', rfl, rfl⟩

/-- A resolution that ends at a missing name leaves that place empty. -/
theorem resolve_absent {t : Tree} {follow : Bool} {budget : Nat} {cur parent : Location}
    {path : List Step} {name : Name}
    (absent : resolve t follow budget cur path = .ok (.absent parent name)) :
    t.get? (parent ++ [name]) = none := by
  fun_induction resolve t follow budget cur path with
  | case1 | case7 | case8 | case9 | case10 | case11 => simp_all
  | case2 budget cur rest ih => exact ih (by simpa [resolve] using absent)
  | case3 budget cur rest ih => exact ih (by simpa [resolve] using absent)
  | case4 budget cur n rest loc empty last =>
    simp only [Except.ok.injEq, Target.absent.injEq] at absent
    obtain ⟨rfl, rfl⟩ := absent
    exact empty
  | case5 => simp at absent
  | case6 budget cur n rest loc dir ih => exact ih (by simpa [resolve, loc, dir] using absent)
  | case12 cur n rest loc target link go b named ih =>
    exact ih (by simpa [resolve, loc, link, go, named] using absent)

theorem lookup_grows {t t' : Tree} (ext : t.Extends t') (cwd : Location) (bytes : List UInt8)
    (follow : Bool) : Grows (lookup t cwd bytes follow) (lookup t' cwd bytes follow) := by
  rw [lookup_eq_resolve, lookup_eq_resolve]
  split
  · exact .same _
  · exact resolve_grows ext _ _ _ _

theorem lookup_absent {t : Tree} {cwd parent : Location} {bytes : List UInt8} {follow : Bool}
    {name : Name} (absent : lookup t cwd bytes follow = .ok (.absent parent name)) :
    t.get? (parent ++ [name]) = none := by
  rw [lookup_eq_resolve] at absent
  split at absent
  · contradiction
  · exact resolve_absent absent

/-- A lookup to create a file ends somewhere only where the plain lookup does. -/
theorem lookupCreate_eq_ok {t : Tree} {cwd : Location} {bytes : List UInt8} {follow : Bool}
    {r : Target} (ok : lookupCreate t cwd bytes follow = .ok r) : lookup t cwd bytes follow = .ok r := by
  unfold lookupCreate at ok
  split at ok
  · split at ok <;> contradiction
  · exact ok

/-- Without a slash at its end, a path is looked up to create a file as it is looked up. -/
theorem lookupCreate_of_getLast {t : Tree} {cwd : Location} {bytes : List UInt8} {follow : Bool}
    (last : bytes.getLast? ≠ some 47) : lookupCreate t cwd bytes follow = lookup t cwd bytes follow := by
  simp [lookupCreate, slashAfterName, last]

section Stable

variable {t t' : Tree} (ext : t.Extends t') {cwd : Location} {bytes : List UInt8}
include ext

theorem stat_eq_of_extends {loc : Location} {e : Entry} (found : stat t cwd bytes = .ok (loc, e)) :
    stat t' cwd bytes = .ok (loc, e) := by
  unfold stat at found ⊢
  split at found
  · rename_i loc' e' held
    rw [(lookup_grows ext cwd bytes true).eq_of_found held, held]
    exact found
  · contradiction
  · contradiction

theorem readAt_eq_of_extends {content : List UInt8} (read : readAt t cwd bytes = .ok content) :
    readAt t' cwd bytes = .ok content := by
  unfold readAt at read ⊢
  split at read
  · rename_i loc c held
    rw [stat_eq_of_extends ext held]
    exact read
  · contradiction
  · contradiction

theorem listAt_eq_of_extends {D : Location} (dirAt : stat t cwd bytes = .ok (D, .dir)) :
    listAt t' cwd bytes = .ok (t'.children D) := by
  simp [listAt, stat_eq_of_extends ext dirAt]

/-- Whether a path names a regular file stays, unless it named a missing entry. -/
theorem isFileAt_eq_of_extends
    (present : ∀ parent name, lookup t cwd bytes true ≠ .ok (.absent parent name)) :
    isFileAt t' cwd bytes = isFileAt t cwd bytes := by
  rcases (lookup_grows ext cwd bytes true).of_not_absent present with same | ⟨f, f', old, new⟩
  · simp only [isFileAt, stat, same]
  · simp only [isFileAt, stat, old, new]

end Stable

section Filled

variable {t t' : Tree} (fills : t.Fills t') {cwd : Location} {bytes : List UInt8}
include fills

/-- A path that leads to an entry leads to it still once entries are added at empty places. -/
theorem resolve_fills {follow : Bool} {budget : Nat} {cur L : Location} {path : List Step}
    {e : Entry} :
    resolve t follow budget cur path = .ok (.found L e) →
      resolve t' follow budget cur path = .ok (.found L e) := by
  fun_induction resolve t follow budget cur path with
  | case1 budget cur => simp [resolve]
  | case2 budget cur rest ih => simpa [resolve] using ih
  | case3 budget cur rest ih => simpa [resolve] using ih
  | case4 budget cur n rest loc empty last => simp [resolve, last]
  | case5 budget cur n rest loc empty inner => simp [resolve, inner]
  | case6 budget cur n rest loc dir ih => simpa [resolve, loc, dir, fills.get?_eq dir] using ih
  | case7 budget cur n rest loc b file last => simp [resolve, loc, fills.get?_eq file, last]
  | case8 budget cur n rest loc b file inner => simp [resolve, inner]
  | case9 budget cur n rest loc target link stop =>
    simp [resolve, loc, fills.get?_eq link, stop]
  | case10 cur n rest loc target link go => simp [resolve, go]
  | case11 cur n rest loc target link go b empty => simp [resolve, go]
  | case12 cur n rest loc target link go b named ih =>
    simpa [resolve, loc, link, fills.get?_eq link, go, named] using ih

theorem lookup_fills {follow : Bool} {L : Location} {e : Entry}
    (found : lookup t cwd bytes follow = .ok (.found L e)) :
    lookup t' cwd bytes follow = .ok (.found L e) := by
  rw [lookup_eq_resolve] at found ⊢
  split at found
  · contradiction
  · rw [if_neg ‹_›]
    exact resolve_fills fills found

theorem stat_eq_of_fills {L : Location} {e : Entry} (found : stat t cwd bytes = .ok (L, e)) :
    stat t' cwd bytes = .ok (L, e) := by
  unfold stat at found ⊢
  split at found
  · rename_i held
    rw [lookup_fills fills held]
    exact found
  · contradiction
  · contradiction

theorem readAt_eq_of_fills {content : List UInt8} (read : readAt t cwd bytes = .ok content) :
    readAt t' cwd bytes = .ok content := by
  unfold readAt at read ⊢
  split at read
  · rename_i held
    rw [stat_eq_of_fills fills held]
    exact read
  · contradiction
  · contradiction

end Filled

/-! ### Paths through a directory -/

/-- A path that reaches a directory and goes on is resolved on from that directory, with what is
left of the link budget. -/
theorem resolve_append_of_dir {t : Tree} {budget : Nat} {cur D : Location} {p q : List Step}
    (dirAt : resolve t true budget cur p = .ok (.found D .dir)) (more : q ≠ []) (follow : Bool) :
    ∃ b, resolve t follow budget cur (p ++ q) = resolve t follow b D q := by
  have going : ∀ rest : List Step, (rest ++ q).isEmpty = false := by
    intro rest
    simp [more]
  fun_induction resolve t true budget cur p with
  | case1 budget cur =>
    simp only [Except.ok.injEq, Target.found.injEq, and_true] at dirAt
    exact ⟨budget, by rw [dirAt, List.nil_append]⟩
  | case2 budget cur rest ih => simpa [resolve] using ih dirAt
  | case3 budget cur rest ih => simpa [resolve] using ih dirAt
  | case4 | case5 | case8 | case10 | case11 => simp at dirAt
  | case6 budget cur n rest loc dir ih =>
    obtain ⟨b, eq⟩ := ih dirAt
    exact ⟨b, by simp [resolve, loc, dir, eq]⟩
  | case7 budget cur n rest loc b file last => simp at dirAt
  | case9 budget cur n rest loc target link stop => simp at stop
  | case12 cur n rest loc target link go b named ih =>
    obtain ⟨b', eq⟩ := ih dirAt
    refine ⟨b', ?_⟩
    simp only [List.cons_append, resolve, loc, link, going, named]
    simpa using eq

theorem resolve_here {t : Tree} {follow : Bool} {budget : Nat} {cur : Location} (q : List Step) :
    resolve t follow budget cur (.here :: q) = resolve t follow budget cur q := by
  simp [resolve]

/-- A `.` inside a path changes nothing. -/
theorem resolve_here_append {t : Tree} {follow : Bool} {budget : Nat} {cur : Location}
    (p : List Step) {q : List Step} (more : q ≠ []) :
    resolve t follow budget cur (p ++ .here :: q) = resolve t follow budget cur (p ++ q) := by
  suffices whole : ∀ path p, path = p ++ q →
      resolve t follow budget cur (p ++ .here :: q) = resolve t follow budget cur path from
    whole _ p rfl
  have going : ∀ rest : List Step, (rest ++ q).isEmpty = false := by
    intro rest
    simp [more]
  have going' : ∀ rest : List Step, (rest ++ .here :: q).isEmpty = false := by
    intro rest
    simp
  intro path
  -- the path splits either before its first step, where the `.` is skipped at once, or after
  -- it, where both sides take the same step
  fun_induction resolve t follow budget cur path with
  | case1 budget cur =>
    intro p split
    simp [eq_comm, more] at split
  | case2 budget cur rest ih =>
    intro p split
    cases p with
    | nil =>
      rw [List.nil_append] at split
      subst split
      simp [resolve]
    | cons x p =>
      obtain ⟨rfl, rfl⟩ := List.cons_eq_cons.mp split
      simpa [resolve] using ih p rfl
  | case3 budget cur rest ih =>
    intro p split
    cases p with
    | nil =>
      rw [List.nil_append] at split
      subst split
      simp [resolve]
    | cons x p =>
      obtain ⟨rfl, rfl⟩ := List.cons_eq_cons.mp split
      simpa [resolve] using ih p rfl
  | case4 budget cur n rest loc empty last =>
    intro p split
    cases p with
    | nil =>
      rw [List.nil_append] at split
      subst split
      simp [resolve, loc, empty, last]
    | cons x p =>
      obtain ⟨rfl, rfl⟩ := List.cons_eq_cons.mp split
      simp [going] at last
  | case5 budget cur n rest loc empty inner =>
    intro p split
    cases p with
    | nil =>
      rw [List.nil_append] at split
      subst split
      simp [resolve, loc, empty, inner]
    | cons x p =>
      obtain ⟨rfl, rfl⟩ := List.cons_eq_cons.mp split
      simp [resolve, loc, empty, going']
  | case6 budget cur n rest loc dir ih =>
    intro p split
    cases p with
    | nil =>
      rw [List.nil_append] at split
      subst split
      simp [resolve, loc, dir]
    | cons x p =>
      obtain ⟨rfl, rfl⟩ := List.cons_eq_cons.mp split
      simpa [resolve, loc, dir] using ih p rfl
  | case7 budget cur n rest loc b file last =>
    intro p split
    cases p with
    | nil =>
      rw [List.nil_append] at split
      subst split
      simp [resolve, loc, file, last]
    | cons x p =>
      obtain ⟨rfl, rfl⟩ := List.cons_eq_cons.mp split
      simp [going] at last
  | case8 budget cur n rest loc b file inner =>
    intro p split
    cases p with
    | nil =>
      rw [List.nil_append] at split
      subst split
      simp [resolve, loc, file, inner]
    | cons x p =>
      obtain ⟨rfl, rfl⟩ := List.cons_eq_cons.mp split
      simp [resolve, loc, file, going']
  | case9 budget cur n rest loc target link stop =>
    intro p split
    cases p with
    | nil =>
      rw [List.nil_append] at split
      subst split
      simp [resolve, loc, link, stop]
    | cons x p =>
      obtain ⟨rfl, rfl⟩ := List.cons_eq_cons.mp split
      simp [going] at stop
  | case10 cur n rest loc target link go =>
    intro p split
    cases p with
    | nil =>
      rw [List.nil_append] at split
      subst split
      simp [resolve, loc, link, go]
    | cons x p =>
      obtain ⟨rfl, rfl⟩ := List.cons_eq_cons.mp split
      simp [resolve, loc, link, going']
  | case11 cur n rest loc target link go b empty =>
    intro p split
    cases p with
    | nil =>
      rw [List.nil_append] at split
      subst split
      simp [resolve, loc, link, go, empty]
    | cons x p =>
      obtain ⟨rfl, rfl⟩ := List.cons_eq_cons.mp split
      simp [resolve, loc, link, going', empty]
  | case12 cur n rest loc target link go b named ih =>
    intro p split
    cases p with
    | nil =>
      rw [List.nil_append] at split
      subst split
      simp [resolve, loc, link, go, named]
    | cons x p =>
      obtain ⟨rfl, rfl⟩ := List.cons_eq_cons.mp split
      have inner := ih (steps target ++ p) (by simp)
      simp only [List.append_assoc] at inner
      simp only [List.append_eq] at go
      simp [resolve, loc, link, going', named]
      simpa using inner

/-! ### A name joined to a directory path -/

/-- The steps of a path's parts, without the `.` a trailing slash adds. -/
def parts (bytes : List UInt8) : List Step := (bytes.splitOn 47).filterMap Step.ofPart

theorem steps_eq (bytes : List UInt8) :
    steps bytes = if bytes.getLast? == some 47 then parts bytes ++ [.here] else parts bytes := rfl

theorem parts_append_name {xs n : Name} (plain : 47 ∉ n) (named : Step.ofPart n = some (.name n)) :
    parts (xs ++ 47 :: n) = parts xs ++ [.name n] := by
  simp [parts, List.splitOn_append_cons_self, List.splitOn_eq_singleton plain, named]

theorem getLast?_append_name {xs n : Name} (named : Step.ofPart n = some (.name n)) :
    (xs ++ 47 :: n).getLast? = n.getLast? := by
  have nonempty : n ≠ [] := by
    rintro rfl
    simp [Step.ofPart] at named
  obtain ⟨m, x, rfl⟩ := List.exists_cons_of_ne_nil nonempty
  rw [List.getLast?_append_of_ne_nil _ (List.cons_ne_nil _ _), List.getLast?_cons_cons]

/-- A plain name joined to a path ends as the name does. -/
theorem getLast?_join_name {dir : Path} {n : Name} (plain : 47 ∉ n)
    (named : Step.ofPart n = some (.name n)) : (dir.join ⟨n⟩).bytes.getLast? ≠ some 47 := by
  have nonempty : n ≠ [] := by
    rintro rfl
    simp [Step.ofPart] at named
  have relative : Path.isAbsolute ⟨n⟩ = false := by
    obtain ⟨x, xs, rfl⟩ := List.exists_cons_of_ne_nil nonempty
    have : x ≠ 47 := fun same => plain (by simp [same])
    simp [Path.isAbsolute, Path.sep, this]
  obtain ⟨m, x, split⟩ := (List.eq_nil_or_concat n).resolve_left nonempty
  have ends : (dir.join ⟨n⟩).bytes.getLast? = some x := by
    unfold Path.join
    split_ifs <;> simp [split, List.getLast?_cons]
  have notSlash : x ≠ 47 := fun same => plain (by simp [split, same])
  simpa [ends] using notSlash

theorem lookup_eq_of_stat {t : Tree} {cwd D : Location} {bytes : List UInt8}
    (dirAt : stat t cwd bytes = .ok (D, .dir)) : lookup t cwd bytes true = .ok (.found D .dir) := by
  unfold stat at dirAt
  split at dirAt
  · rename_i loc e found
    simp only [Except.ok.injEq, Prod.mk.injEq] at dirAt
    obtain ⟨rfl, rfl⟩ := dirAt
    exact found
  · contradiction
  · contradiction

/-- A plain name joined to a path of a directory is looked up in that directory. -/
theorem lookup_join {t : Tree} {cwd D : Location} {dir : Path} {n : Name}
    (dirAt : stat t cwd dir.bytes = .ok (D, .dir)) (plain : 47 ∉ n)
    (named : Step.ofPart n = some (.name n)) (follow : Bool) :
    ∃ b, lookup t cwd (dir.join ⟨n⟩).bytes follow = resolve t follow b D [.name n] := by
  have found := lookup_eq_of_stat dirAt
  have nonempty : dir.bytes ≠ [] := by
    intro empty
    simp [lookup_eq_resolve, empty] at found
  have full : dir.bytes.isEmpty = false := by simpa using nonempty
  have relative : Path.isAbsolute ⟨n⟩ = false := by
    cases n with
    | nil => simp [Step.ofPart] at named
    | cons x n =>
      have : x ≠ 47 := fun same => plain (by simp [same])
      simp [Path.isAbsolute, Path.sep, this]
  have start : startOf cwd (dir.join ⟨n⟩).bytes = startOf cwd dir.bytes := by
    obtain ⟨x, xs, split⟩ := List.exists_cons_of_ne_nil nonempty
    unfold Path.join
    split_ifs <;> simp_all [startOf]
  have joinedFull : (dir.join ⟨n⟩).bytes.isEmpty = false := by
    unfold Path.join
    split_ifs <;> simp_all
  simp only [lookup_eq_resolve, full, Bool.false_eq_true, if_false] at found
  simp only [lookup_eq_resolve, joinedFull, Bool.false_eq_true, if_false, start]
  have last : (n.getLast? == some 47) = false := by
    cases last : n.getLast? with
    | none => rfl
    | some x =>
      have : x ≠ 47 := fun same => plain (same ▸ List.mem_of_getLast? last)
      simp [this]
  by_cases slash : dir.bytes.getLast? = some 47
  · -- a trailing slash: the joined path skips the `.` it stands for
    obtain ⟨ys, split⟩ : ∃ ys, dir.bytes = ys ++ [47] := by
      obtain ⟨ys, y, split⟩ := List.eq_nil_or_concat dir.bytes |>.resolve_left nonempty
      rw [split, List.concat_eq_append] at slash
      simp only [List.getLast?_append, List.getLast?_singleton, Option.some_or,
        Option.some.injEq] at slash
      exact ⟨ys, by rw [split, List.concat_eq_append, slash]⟩
    have joined : (dir.join ⟨n⟩).bytes = ys ++ 47 :: n := by
      simp [Path.join, relative, Path.sep, split]
    have dirSteps : steps dir.bytes = parts ys ++ [.here] := by
      rw [steps_eq, split]
      simp [parts, List.splitOn_append_cons_self, Step.ofPart]
    have joinedSteps : steps (dir.join ⟨n⟩).bytes = parts ys ++ [.name n] := by
      rw [steps_eq, joined, getLast?_append_name named, parts_append_name plain named, last]
      rfl
    rw [dirSteps] at found
    obtain ⟨b, eq⟩ := resolve_append_of_dir found (List.cons_ne_nil (.name n) []) follow
    refine ⟨b, ?_⟩
    rw [joinedSteps, ← resolve_here_append _ (List.cons_ne_nil _ _), ← eq]
    simp
  · -- no trailing slash: the name is one more step
    have joined : (dir.join ⟨n⟩).bytes = dir.bytes ++ 47 :: n := by
      simp [Path.join, relative, full, slash, Path.sep]
    have dirSteps : steps dir.bytes = parts dir.bytes := by
      simp [steps_eq, slash]
    have joinedSteps : steps (dir.join ⟨n⟩).bytes = parts dir.bytes ++ [.name n] := by
      rw [steps_eq, joined, getLast?_append_name named, parts_append_name plain named, last]
      rfl
    rw [dirSteps] at found
    obtain ⟨b, eq⟩ := resolve_append_of_dir found (List.cons_ne_nil (.name n) []) follow
    exact ⟨b, by rw [joinedSteps, eq]⟩

theorem resolve_name_of_empty {t : Tree} {follow : Bool} {budget : Nat} {D : Location} {n : Name}
    (empty : t.get? (D ++ [n]) = none) : resolve t follow budget D [.name n] = .ok (.absent D n) := by
  simp [resolve, empty]

theorem resolve_name_of_file {t : Tree} {follow : Bool} {budget : Nat} {D : Location} {n : Name}
    {c : List UInt8} (file : t.get? (D ++ [n]) = some (.file c)) :
    resolve t follow budget D [.name n] = .ok (.found (D ++ [n]) (.file c)) := by
  simp [resolve, file]

end Migrator.Files
