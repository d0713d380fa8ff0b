import Mathlib
import Migrator.Manifest.Read
import Migrator.Proofs.Chain

/-! A manifest read from TOML lists each version once, in ascending order (`parse_ordered`).
TOML defines a key once in a table: every step of the document reader adds a key to a table only
where the table lacks it, so the root table's keys stay distinct (`parse_nodup_keys`). The
manifest reader then sorts the versions by inserting each in turn, which keeps a strictly
ascending list strictly ascending as long as the key inserted is new. -/
namespace Migrator

namespace Toml

variable {α : Type} {k : String} {a : α} {es es' : List (String × α)}

theorem keys_setEntry (k : String) (a : α) (es : List (String × α)) :
    (setEntry k a es).map Prod.fst =
      if k ∈ es.map Prod.fst then es.map Prod.fst else es.map Prod.fst ++ [k] := by
  induction es with
  | nil => simp [setEntry]
  | cons e rest ih =>
    obtain ⟨k', b⟩ := e
    by_cases same : k' = k
    · simp [setEntry, same]
    · rw [setEntry, if_neg same, List.map_cons, ih]
      by_cases member : k ∈ rest.map Prod.fst <;> simp [member, Ne.symm same]

theorem nodup_keys_setEntry (nodup : (es.map Prod.fst).Nodup) :
    ((setEntry k a es).map Prod.fst).Nodup := by
  rw [keys_setEntry]
  split_ifs with member
  · exact nodup
  · exact nodup.append (List.nodup_singleton k) (by simpa using member)

theorem keys_removeEntry_sublist (k : String) (es : List (String × α)) :
    List.Sublist ((removeEntry k es).map Prod.fst) (es.map Prod.fst) := by
  induction es with
  | nil => exact List.Sublist.slnil
  | cons e rest ih =>
    by_cases same : e.1 = k
    · simp [removeEntry, same]
    · simpa [removeEntry, same] using ih.cons_cons e.1

/-- An entry added at the end under a key the table lacks keeps the keys distinct. -/
theorem nodup_keys_append (nodup : (es.map Prod.fst).Nodup) (fresh : es.lookup k = none) :
    ((es ++ [(k, a)]).map Prod.fst).Nodup := by
  refine List.map_append .. ▸ nodup.append (List.nodup_singleton k) ?_
  intro x inOld inNew
  obtain rfl : x = k := by simpa using inNew
  obtain ⟨e, member, rfl⟩ := List.mem_map.mp inOld
  have differs := List.lookup_eq_none_iff.mp fresh e member
  simp at differs

/-- Placing a value in a section changes its own keys only by adding a key it lacks. -/
theorem nodup_keys_placeInSection {key : String} {value : Node} {nested dotted : Bool}
    {path : List String} {es es' : Entries} (nodup : (es.map Prod.fst).Nodup)
    (placed : placeInSection key value nested path dotted es = some es') :
    (es'.map Prod.fst).Nodup := by
  cases path with
  | nil =>
    simp only [placeInSection] at placed
    split_ifs at placed with taken
    obtain rfl := Option.some.inj placed
    have fresh : es.lookup key = none := by
      cases held : es.lookup key <;> simp_all
    exact nodup_keys_append nodup fresh
  | cons k rest =>
    simp only [placeInSection] at placed
    split at placed
    · rename_i fresh
      obtain ⟨sub, -, made⟩ := Option.bind_eq_some_iff.mp placed
      exact Option.some.inj made ▸ nodup_keys_append nodup fresh
    · split_ifs at placed
      obtain ⟨sub, -, made⟩ := Option.bind_eq_some_iff.mp placed
      exact Option.some.inj made ▸ nodup_keys_setEntry nodup
    · split at placed
      · obtain ⟨last, -, made⟩ := Option.bind_eq_some_iff.mp placed
        exact Option.some.inj made ▸ nodup_keys_setEntry nodup
      · contradiction
    · contradiction

/-- Following a header path changes the keys of the table it starts from only by adding a key
it lacks, unless the path is empty and `f` acts on that table itself. -/
theorem nodup_keys_atHeader {β : Type} {f : Entries → Option (Entries × β)}
    (keeps : ∀ es r, (es.map Prod.fst).Nodup → f es = some r → (r.1.map Prod.fst).Nodup)
    {path : List String} {es : Entries} {r : Entries × β} (nodup : (es.map Prod.fst).Nodup)
    (found : atHeader f path es = some r) : (r.1.map Prod.fst).Nodup := by
  cases path with
  | nil => exact keeps es r nodup found
  | cons k rest =>
    simp only [atHeader] at found
    split at found
    · rename_i fresh
      obtain ⟨sub, -, made⟩ := Option.bind_eq_some_iff.mp found
      exact Option.some.inj made ▸ nodup_keys_append nodup fresh
    · obtain ⟨sub, -, made⟩ := Option.bind_eq_some_iff.mp found
      exact Option.some.inj made ▸ nodup_keys_setEntry nodup
    · split at found
      · obtain ⟨last, -, made⟩ := Option.bind_eq_some_iff.mp found
        exact Option.some.inj made ▸ nodup_keys_setEntry nodup
      · contradiction
    · contradiction

namespace Builder

/-- The document read so far defines each key once, and so does the open section while it is the
part before the first header, which becomes the root table itself. Sections under a header join
the document inside a table, where their keys no longer matter for the root. -/
def Keyed (b : Builder) : Prop :=
  (b.root.map Prod.fst).Nodup ∧ (b.path = [] → (b.current.map Prod.fst).Nodup)

variable {b b' : Builder}

theorem keyed_empty : ({} : Builder).Keyed := ⟨List.nodup_nil, fun _ => List.nodup_nil⟩

theorem Keyed.close (keyed : b.Keyed) {root : Entries} (closed : b.close = some root) :
    (root.map Prod.fst).Nodup := by
  unfold Builder.close at closed
  split at closed
  · rename_i top
    exact Option.some.inj closed ▸ keyed.2 (List.reverse_eq_nil_iff.mp top)
  -- the section goes under the last name of its header, as a table or as the next element of
  -- an array of tables; either way that name is added to its table or replaced there
  split_ifs at closed
  all_goals
    obtain ⟨r, found, rfl⟩ := Option.map_eq_some_iff.mp closed
    refine nodup_keys_atHeader (fun es r nodup made => ?_) keyed.1 found
    split at made
    all_goals first
      | contradiction
      | (rename_i fresh; exact Option.some.inj made ▸ nodup_keys_append nodup fresh)
      | exact Option.some.inj made ▸ nodup_keys_setEntry nodup

theorem Keyed.openTable (keyed : b.Keyed) {path : List String} (opened : b.openTable path = some b') :
    b'.Keyed := by
  obtain ⟨root, closed, opened⟩ := Option.bind_eq_some_iff.mp opened
  split at opened
  · contradiction
  · rename_i last parent header
    obtain ⟨⟨root', taken⟩, found, made⟩ := Option.bind_eq_some_iff.mp opened
    obtain rfl := Option.some.inj made
    refine ⟨nodup_keys_atHeader (fun es r nodup made => ?_) (keyed.close closed) found, ?_⟩
    · split at made
      · exact Option.some.inj made ▸ nodup
      · exact Option.some.inj made ▸ nodup.sublist (keys_removeEntry_sublist _ es)
      · contradiction
    · -- a section under a header has a path
      intro top
      simp_all

theorem Keyed.openArray (keyed : b.Keyed) {path : List String} (opened : b.openArray path = some b') :
    b'.Keyed := by
  obtain ⟨root, closed, opened⟩ := Option.bind_eq_some_iff.mp opened
  split at opened
  · contradiction
  · obtain ⟨⟨root', u⟩, found, made⟩ := Option.bind_eq_some_iff.mp opened
    obtain rfl := Option.some.inj made
    refine ⟨nodup_keys_atHeader (fun es r nodup made => ?_) (keyed.close closed) found,
      fun _ => List.nodup_nil⟩
    split at made
    · rename_i fresh
      exact Option.some.inj made ▸ nodup_keys_append nodup fresh
    · exact Option.some.inj made ▸ nodup
    · contradiction

theorem Keyed.addValue (keyed : b.Keyed) {path : List String} {key : String} {v : Value}
    (added : b.addValue path key v = some b') : b'.Keyed := by
  obtain ⟨current, placed, made⟩ := Option.bind_eq_some_iff.mp added
  obtain rfl := Option.some.inj made
  exact ⟨keyed.1, fun top => nodup_keys_placeInSection (keyed.2 top) placed⟩

theorem Keyed.readLines {fuel : Nat} {cs : List Char} (keyed : b.Keyed)
    (read : readLines fuel b cs = some b') : b'.Keyed := by
  induction fuel generalizing b cs with
  | zero => simp [Toml.readLines] at read
  | succ fuel ih =>
    unfold Toml.readLines at read
    split at read
    · exact Option.some.inj read ▸ keyed
    · obtain ⟨⟨path, rest⟩, -, read⟩ := Option.bind_eq_some_iff.mp read
      dsimp only at read
      split at read
      · simp only [Option.bind_eq_bind, Option.bind_some, Option.bind_eq_some_iff] at read
        obtain ⟨b₁, opened, cs', -, read⟩ := read
        exact ih (keyed.openArray opened) read
      · simp at read
    · obtain ⟨⟨path, rest⟩, -, read⟩ := Option.bind_eq_some_iff.mp read
      dsimp only at read
      split at read
      · simp only [Option.bind_eq_bind, Option.bind_some, Option.bind_eq_some_iff] at read
        obtain ⟨b₁, opened, cs', -, read⟩ := read
        exact ih (keyed.openTable opened) read
      · simp at read
    · split at read
      · exact ih keyed read
      split_ifs at read
      · exact Option.some.inj read ▸ keyed
      obtain ⟨⟨keys, rest⟩, -, read⟩ := Option.bind_eq_some_iff.mp read
      dsimp only at read
      split at read
      · split at read
        · simp only [Option.bind_eq_bind, Option.bind_some, Option.bind_eq_some_iff] at read
          obtain ⟨_, -, b₁, added, cs', -, read⟩ := read
          exact ih (keyed.addValue added) read
        · simp at read
      · simp at read

end Builder

theorem keys_entriesToValue (es : List (String × Node)) :
    (Node.entriesToValue es).map Prod.fst = es.map Prod.fst := by
  induction es with
  | nil => rfl
  | cons e rest ih => simp [Node.entriesToValue, ih]

/-- The root table of a TOML document defines each key once. -/
theorem parse_nodup_keys {text : String} {root : List (String × Value)}
    (parsed : Toml.parse text = some root) : (root.map Prod.fst).Nodup := by
  obtain ⟨b, read, parsed⟩ := Option.bind_eq_some_iff.mp parsed
  obtain ⟨entries, closed, made⟩ := Option.bind_eq_some_iff.mp parsed
  obtain rfl := Option.some.inj made
  rw [keys_entriesToValue]
  exact (Builder.keyed_empty.readLines read).close closed

end Toml

section Keys

variable {α β : Type} {ε : Type}

/-- A map that keeps each entry's key keeps the list of keys. -/
theorem keys_mapM_option {f : String × α → Option (String × β)}
    (keeps : ∀ x y, f x = some y → y.1 = x.1) :
    ∀ {xs : List (String × α)} {ys : List (String × β)}, xs.mapM f = some ys →
      ys.map Prod.fst = xs.map Prod.fst
  | [], ys, mapped => by simp_all
  | x :: xs, ys, mapped => by
    simp only [List.mapM_cons, Option.bind_eq_bind, Option.bind_eq_some_iff, Option.pure_def,
      Option.some.injEq] at mapped
    obtain ⟨y, made, ys', rest, rfl⟩ := mapped
    simp [keeps x y made, keys_mapM_option keeps rest]

theorem keys_mapM_except {f : String × α → Except ε (String × β)}
    (keeps : ∀ x y, f x = .ok y → y.1 = x.1) :
    ∀ {xs : List (String × α)} {ys : List (String × β)}, xs.mapM f = .ok ys →
      ys.map Prod.fst = xs.map Prod.fst
  | [], ys, mapped => by
    simp only [List.mapM_nil] at mapped
    obtain rfl := Except.ok.inj mapped
    rfl
  | x :: xs, ys, mapped => by
    simp only [List.mapM_cons, except_bind_eq_ok] at mapped
    obtain ⟨y, made, ys', rest, same⟩ := mapped
    obtain rfl := Except.ok.inj same
    simp [keeps x y made, keys_mapM_except keeps rest]

end Keys

namespace Manifest

open Manifest.decode (insertByKey)

variable {α : Type} {k : String} {a : α} {es : List (String × α)}

theorem insertByKey_perm (k : String) (a : α) (es : List (String × α)) :
    (insertByKey k a es).Perm ((k, a) :: es) := by
  induction es with
  | nil => simp [insertByKey]
  | cons e rest ih =>
    obtain ⟨k', b⟩ := e
    unfold insertByKey
    split_ifs
    · rfl
    · exact (ih.cons (k', b)).trans (List.Perm.swap _ _ _)

theorem keys_insertByKey_perm (k : String) (a : α) (es : List (String × α)) :
    ((insertByKey k a es).map Prod.fst).Perm (k :: es.map Prod.fst) :=
  (insertByKey_perm k a es).map Prod.fst

/-- Inserting a new key keeps the keys strictly ascending. -/
theorem sorted_insertByKey (sorted : (es.map Prod.fst).Pairwise (· < ·))
    (fresh : k ∉ es.map Prod.fst) : ((insertByKey k a es).map Prod.fst).Pairwise (· < ·) := by
  induction es with
  | nil => simp [insertByKey]
  | cons e rest ih =>
    obtain ⟨k', b⟩ := e
    simp only [List.map_cons, List.pairwise_cons, List.mem_cons, not_or] at sorted fresh
    unfold insertByKey
    split_ifs with before
    · simp only [List.map_cons, List.pairwise_cons, List.mem_cons]
      refine ⟨?_, sorted.1, sorted.2⟩
      rintro x (rfl | later)
      · exact before
      · exact before.trans (sorted.1 x later)
    · -- the new key goes after `k'`, which it differs from
      have after : k' < k := lt_of_le_of_ne (not_lt.mp before) (Ne.symm fresh.1)
      simp only [List.map_cons, List.pairwise_cons]
      refine ⟨fun x inserted => ?_, ih sorted.2 fresh.2⟩
      rcases List.mem_cons.mp ((keys_insertByKey_perm k a rest).mem_iff.mp inserted) with rfl | old
      · exact after
      · exact sorted.1 x old

/-- Inserting distinct keys one by one into a strictly ascending list gives a strictly ascending
list. -/
theorem sorted_foldl_insertByKey {raw : List (String × α)} :
    ∀ {acc : List (String × α)}, (acc.map Prod.fst).Pairwise (· < ·) →
      (acc.map Prod.fst ++ raw.map Prod.fst).Nodup →
      ((raw.foldl (fun acc p => insertByKey p.1 p.2 acc) acc).map Prod.fst).Pairwise (· < ·) := by
  induction raw with
  | nil => exact fun sorted _ => sorted
  | cons p rest ih =>
    intro acc sorted nodup
    have split : (p.1 :: (acc.map Prod.fst ++ rest.map Prod.fst)).Nodup :=
      (List.perm_middle.nodup_iff).mp (by simpa using nodup)
    refine ih (sorted_insertByKey sorted fun old => ?_) ?_
    · exact (List.nodup_cons.mp split).1 (List.mem_append_left _ old)
    · exact (((keys_insertByKey_perm p.1 p.2 acc).append_right _).nodup_iff).mpr split

/-- Inserting one by one keeps every entry. -/
theorem perm_foldl_insertByKey :
    ∀ {raw acc : List (String × α)},
      (raw.foldl (fun acc p => insertByKey p.1 p.2 acc) acc).Perm (acc ++ raw)
  | [], acc => by simp
  | p :: rest, acc => by
    rw [List.foldl_cons]
    have moved : List.Perm (insertByKey p.1 p.2 acc ++ rest) (acc ++ p :: rest) :=
      ((insertByKey_perm p.1 p.2 acc).append_right rest).trans List.perm_middle.symm
    exact perm_foldl_insertByKey.trans moved

/-- Inserting one by one sorts: the result is the one strictly ascending order of the entries. -/
theorem foldl_insertByKey_eq {raw sorted : List (String × α)} (perm : sorted.Perm raw)
    (ascending : (sorted.map Prod.fst).Pairwise (· < ·)) :
    raw.foldl (fun acc p => insertByKey p.1 p.2 acc) [] = sorted := by
  have distinct : (raw.map Prod.fst).Nodup := (perm.map Prod.fst).nodup_iff.mp ascending.nodup
  have inserted : ((raw.foldl (fun acc p => insertByKey p.1 p.2 acc) []).map Prod.fst).Pairwise
      (· < ·) := sorted_foldl_insertByKey List.Pairwise.nil (by simpa using distinct)
  refine List.Perm.eq_of_pairwise ?_ (List.pairwise_map.mp inserted)
    (List.pairwise_map.mp ascending) (perm_foldl_insertByKey.trans (by simpa using perm.symm))
  intro a b _ _ before after
  exact absurd (before.trans after) (lt_irrefl _)

end Manifest

/-- The versions of a TOML text are the root table's keys, so each is there once. -/
theorem RawManifest.read?_nodup {text : String} {raw : RawManifest}
    (read : RawManifest.read? text = some raw) : (raw.map Prod.fst).Nodup := by
  obtain ⟨root, doc, mapped⟩ := Option.bind_eq_some_iff.mp read
  rw [keys_mapM_option (fun x y made => ?_) mapped]
  · exact Toml.parse_nodup_keys doc
  · obtain ⟨r, -, rfl⟩ := Option.map_eq_some_iff.mp made
    rfl

/-- Checking the actions of a raw manifest with distinct versions lists each version once, in
ascending order. -/
theorem Manifest.decode_ordered {raw : RawManifest} {m : Manifest}
    (distinct : (raw.map Prod.fst).Nodup) (decoded : Manifest.decode raw = .ok m) : m.Ordered := by
  obtain ⟨entries, checked, made⟩ := except_bind_eq_ok.mp decoded
  obtain rfl := Except.ok.inj made
  unfold Manifest.Ordered Manifest.versions
  rw [keys_mapM_except (fun x y made => ?_) checked]
  · -- the versions are the raw keys, inserted one by one
    exact Manifest.sorted_foldl_insertByKey List.Pairwise.nil (by simpa using distinct)
  · -- checking a version's actions keeps the version
    obtain ⟨v, up, down⟩ := x
    obtain ⟨up, -, rest⟩ := except_bind_eq_ok.mp made
    obtain ⟨down, -, rest⟩ := except_bind_eq_ok.mp rest
    obtain rfl := Except.ok.inj rest
    rfl

/-- A manifest read from its text lists each version once, in ascending order. -/
theorem Manifest.parse_ordered {text : String} {m : Manifest} (parsed : Manifest.parse text = .ok m) :
    m.Ordered := by
  unfold Manifest.parse at parsed
  split at parsed
  · rename_i raw read
    exact Manifest.decode_ordered (RawManifest.read?_nodup read) parsed
  · simp at parsed

end Migrator
