import Mathlib
import Migrator.Index
import Migrator.Proofs.Chain

/-! The object index as a sequence of inserts builds it. Buckets stay ascending by key, none
empty and none holding a name twice with ASCII case aside (`ObjectIndex.Valid`). An insert is
refused exactly when an earlier insert under the same normalised type had the name, and then
names the file of the first of them and changes nothing; otherwise the entry goes last in its
bucket. So a bucket holds the entries whose insert was not refused, in order, and the size counts
them (`insertAll_keeps_first_names`). Lookup follows: a bucket holds a name at most once, so
narrowing the matches to the bucket of a type leaves one or none (`lookup_narrows_by_type`). -/
namespace Migrator

theorem eqIgnoreAsciiCase_iff {a b : String} :
    eqIgnoreAsciiCase a b = true ↔ a.toList.map Char.toLower = b.toList.map Char.toLower := by
  simp [eqIgnoreAsciiCase]

theorem eqIgnoreAsciiCase_comm (a b : String) : eqIgnoreAsciiCase a b = eqIgnoreAsciiCase b a := by
  rw [Bool.eq_iff_iff, eqIgnoreAsciiCase_iff, eqIgnoreAsciiCase_iff, eq_comm]

theorem eqIgnoreAsciiCase_trans {a b c : String} (first : eqIgnoreAsciiCase a b = true)
    (second : eqIgnoreAsciiCase b c = true) : eqIgnoreAsciiCase a c = true := by
  rw [eqIgnoreAsciiCase_iff] at *
  exact first.trans second

namespace ObjectIndex

/-- The keys of the buckets, in order. -/
def keys (idx : ObjectIndex) : List String := idx.buckets.map Prod.fst

/-- Buckets ascending by key, none of them empty, none holding a name twice (ASCII case
aside). -/
structure Valid (idx : ObjectIndex) : Prop where
  ascending : idx.keys.Pairwise (· < ·)
  nonempty : ∀ b ∈ idx.buckets, b.2 ≠ []
  distinct : ∀ b ∈ idx.buckets, b.2.Pairwise fun x y => eqIgnoreAsciiCase x.name y.name = false

theorem valid_empty : ({} : ObjectIndex).Valid := ⟨.nil, by simp, by simp⟩

theorem lookup_cons_ite {β : Type} (k k' : String) (b : β) (bs : List (String × β)) :
    ((k', b) :: bs).lookup k = if k = k' then some b else bs.lookup k := by
  by_cases same : k = k'
  · simp [same]
  · simp [List.lookup_cons, beq_eq_false_iff_ne.mpr same, same]

theorem lookup_mem {β : Type} {bs : List (String × β)} {k : String} {b : β}
    (found : bs.lookup k = some b) : (k, b) ∈ bs := by
  obtain ⟨front, back, rfl, -⟩ := List.lookup_eq_some_iff.mp found
  simp

theorem lookup_of_below {β : Type} {bs : List (String × β)} {k : String}
    (below : ∀ k' ∈ bs.map Prod.fst, k < k') : bs.lookup k = none := by
  induction bs with
  | nil => rfl
  | cons b bs ih =>
    obtain ⟨k', b⟩ := b
    have ne : k ≠ k' := ne_of_lt (below k' (by simp))
    rw [lookup_cons_ite, if_neg ne]
    exact ih fun k'' member => below k'' (by simp_all)

section SetBucket

variable (key : String) (entries : List IndexEntry)

theorem lookup_setBucket (k : String) (bs : List (String × List IndexEntry)) :
    (setBucket key entries bs).lookup k = if k = key then some entries else bs.lookup k := by
  induction bs with
  | nil => simp [setBucket, lookup_cons_ite]
  | cons b bs ih =>
    obtain ⟨k', es⟩ := b
    unfold setBucket
    split_ifs with below same <;> simp only [lookup_cons_ite, ih] <;> grind

theorem keys_setBucket (bs : List (String × List IndexEntry)) :
    (setBucket key entries bs).map Prod.fst = insertSorted key (bs.map Prod.fst) := by
  induction bs with
  | nil => rfl
  | cons b bs ih =>
    obtain ⟨k, es⟩ := b
    unfold setBucket
    split_ifs <;> simp_all [insertSorted]

theorem mem_setBucket {b : String × List IndexEntry} {bs : List (String × List IndexEntry)}
    (member : b ∈ setBucket key entries bs) : b = (key, entries) ∨ b ∈ bs := by
  induction bs with
  | nil => simpa [setBucket] using member
  | cons b' bs ih =>
    unfold setBucket at member
    split_ifs at member <;> simp only [List.mem_cons] at member ⊢ <;> grind

/-- Setting a bucket to what it holds changes nothing, keys being ascending. -/
theorem setBucket_of_lookup {bs : List (String × List IndexEntry)}
    (ascending : (bs.map Prod.fst).Pairwise (· < ·)) (found : bs.lookup key = some entries) :
    setBucket key entries bs = bs := by
  induction bs with
  | nil => simp at found
  | cons b bs ih =>
    obtain ⟨k, es⟩ := b
    obtain ⟨least, rest⟩ := List.pairwise_cons.mp ascending
    rw [lookup_cons_ite] at found
    unfold setBucket
    by_cases same : key = k
    · subst same
      simp_all
    · rw [if_neg same] at found
      have above : k < key := least key (List.mem_map.mpr ⟨_, lookup_mem found, rfl⟩)
      rw [if_neg (not_lt.mpr above.le), if_neg same, ih rest found]

theorem size_setBucket {bs : List (String × List IndexEntry)}
    (ascending : (bs.map Prod.fst).Pairwise (· < ·)) :
    ({ buckets := setBucket key entries bs } : ObjectIndex).size +
        ((bs.lookup key).getD []).length =
      ({ buckets := bs } : ObjectIndex).size + entries.length := by
  induction bs with
  | nil => simp [setBucket, size]
  | cons b bs ih =>
    obtain ⟨k, es⟩ := b
    obtain ⟨least, rest⟩ := List.pairwise_cons.mp ascending
    unfold setBucket
    split_ifs with below same
    · have absent : ((k, es) :: bs).lookup key = none :=
        lookup_of_below fun k' member => by
          rcases List.mem_cons.mp member with rfl | later
          · exact below
          · exact lt_trans below (least k' later)
      simp [size, absent]
      omega
    · subst same
      simp [size]
      omega
    · have := ih rest
      simp only [size, List.map_cons, List.foldr_cons, lookup_cons_ite, if_neg same] at this ⊢
      omega

end SetBucket

theorem entriesAt_setBucket (idx : ObjectIndex) (key k : String) (entries : List IndexEntry) :
    ({ buckets := setBucket key entries idx.buckets } : ObjectIndex).entriesAt k =
      if k = key then entries else idx.entriesAt k := by
  simp only [entriesAt, lookup_setBucket]
  split_ifs <;> rfl

/-- Under a key there is a bucket, or nothing. -/
theorem entriesAt_cases (idx : ObjectIndex) (k : String) :
    idx.entriesAt k = [] ∨ (k, idx.entriesAt k) ∈ idx.buckets := by
  unfold entriesAt
  cases found : idx.buckets.lookup k with
  | none => simp
  | some es => simp [lookup_mem found]

variable {idx : ObjectIndex}

/-- An insert into a valid index either finds the name in the bucket and changes nothing, or
puts the entry last in its bucket. -/
theorem insert_cases (valid : idx.Valid) (t : String) (e : IndexEntry) :
    (∃ x, (idx.bucket t).find? (fun x => eqIgnoreAsciiCase x.name e.name) = some x ∧
      idx.insert t e = (idx, some x.file)) ∨
    ((idx.bucket t).find? (fun x => eqIgnoreAsciiCase x.name e.name) = none ∧
      idx.insert t e =
        ({ buckets := setBucket (Header.normalizeType t) (idx.bucket t ++ [e]) idx.buckets },
          none)) := by
  simp only [insert, bucket]
  cases found : (idx.entriesAt (Header.normalizeType t)).find?
      (fun x => eqIgnoreAsciiCase x.name e.name) with
  | none => exact .inr ⟨rfl, rfl⟩
  | some x =>
    refine .inl ⟨x, rfl, ?_⟩
    -- the bucket is there, so setting it to what it holds changes nothing
    have present : idx.buckets.lookup (Header.normalizeType t) =
        some (idx.entriesAt (Header.normalizeType t)) := by
      unfold entriesAt at found ⊢
      cases held : idx.buckets.lookup (Header.normalizeType t) with
      | none => simp [held] at found
      | some es => rfl
    rw [setBucket_of_lookup _ _ valid.ascending present]

theorem Valid.distinct_entriesAt (valid : idx.Valid) (k : String) :
    (idx.entriesAt k).Pairwise fun x y => eqIgnoreAsciiCase x.name y.name = false := by
  rcases entriesAt_cases idx k with empty | held
  · simp [empty]
  · exact valid.distinct _ held

theorem Valid.insert (valid : idx.Valid) (t : String) (e : IndexEntry) :
    (idx.insert t e).1.Valid := by
  rcases insert_cases valid t e with ⟨x, -, same⟩ | ⟨fresh, added⟩
  · rw [same]
    exact valid
  · rw [added]
    refine ⟨?_, fun b member => ?_, fun b member => ?_⟩
    · simpa only [keys, keys_setBucket] using pairwise_insertSorted valid.ascending
    · rcases mem_setBucket _ _ member with rfl | old
      · simp
      · exact valid.nonempty b old
    · rcases mem_setBucket _ _ member with rfl | old
      · -- no name of the bucket is that of `e`
        refine List.pairwise_append.mpr ⟨valid.distinct_entriesAt _, List.pairwise_singleton _ _,
          fun x inBucket y last => ?_⟩
        rw [List.mem_singleton.mp last]
        simpa using List.find?_eq_none.mp fresh x inBucket
      · exact valid.distinct b old

theorem entriesAt_insert (valid : idx.Valid) (t : String) (e : IndexEntry) (k : String) :
    (idx.insert t e).1.entriesAt k =
      if (idx.insert t e).2 = none ∧ k = Header.normalizeType t then idx.entriesAt k ++ [e]
      else idx.entriesAt k := by
  rcases insert_cases valid t e with ⟨x, -, same⟩ | ⟨-, added⟩
  · simp [same]
  · rw [added, entriesAt_setBucket]
    by_cases here : k = Header.normalizeType t
    · simp [here, bucket]
    · simp [here]

theorem size_insert (valid : idx.Valid) (t : String) (e : IndexEntry) :
    (idx.insert t e).1.size = idx.size + if (idx.insert t e).2 = none then 1 else 0 := by
  rcases insert_cases valid t e with ⟨x, -, same⟩ | ⟨-, added⟩
  · simp [same]
  · have grown := size_setBucket (Header.normalizeType t) (idx.bucket t ++ [e]) valid.ascending
    rw [added]
    simp only [bucket, entriesAt, List.length_append, List.length_singleton] at grown ⊢
    simp only [if_true]
    change _ = ObjectIndex.size ⟨idx.buckets⟩ + 1
    omega

theorem bucket_setBucket (key : String) (entries : List IndexEntry) (t : String) :
    ({ buckets := setBucket key entries idx.buckets } : ObjectIndex).bucket t =
      if Header.normalizeType t = key then entries else idx.bucket t :=
  entriesAt_setBucket idx key _ entries

/-! ### Runs of inserts -/

/-- Whether inserting `e` under the type `t` meets the earlier insert `op`: the same normalised
type, and the same name with ASCII case aside. -/
def clashes (t : String) (e : IndexEntry) (op : String × IndexEntry) : Bool :=
  Header.normalizeType op.1 == Header.normalizeType t && eqIgnoreAsciiCase op.2.name e.name

/-- The file of the first of the inserts `earlier` that inserting `e` under `t` meets. -/
def firstClash (earlier : List (String × IndexEntry)) (t : String) (e : IndexEntry) :
    Option Path :=
  (earlier.find? (clashes t e)).map fun op => op.2.file

theorem firstClash_concat (earlier : List (String × IndexEntry)) (t : String) (e : IndexEntry)
    (op : String × IndexEntry) :
    firstClash (earlier ++ [op]) t e =
      (firstClash earlier t e).or (if clashes t e op then some op.2.file else none) := by
  by_cases meets : clashes t e op <;> simp [firstClash, List.find?_append, meets]

/-- Inserts `ops` in order, each a type and an entry, and lists what each insert returned. -/
def insertAll (idx : ObjectIndex) (ops : List (String × IndexEntry)) :
    ObjectIndex × List (Option Path) :=
  ops.foldl (fun acc op => let r := acc.1.insert op.1 op.2; (r.1, acc.2 ++ [r.2])) (idx, [])

theorem insertAll_concat (idx : ObjectIndex) (ops : List (String × IndexEntry))
    (op : String × IndexEntry) :
    idx.insertAll (ops ++ [op]) =
      (((idx.insertAll ops).1.insert op.1 op.2).1,
        (idx.insertAll ops).2 ++ [((idx.insertAll ops).1.insert op.1 op.2).2]) := by
  simp [insertAll, List.foldl_append]

section Runs

variable (ops : List (String × IndexEntry))

theorem valid_insertAll : (({} : ObjectIndex).insertAll ops).1.Valid := by
  induction ops using List.reverseRecOn with
  | nil => exact valid_empty
  | append_singleton ops op ih =>
    rw [insertAll_concat]
    exact ih.insert _ _

theorem length_insertAll : (({} : ObjectIndex).insertAll ops).2.length = ops.length := by
  induction ops using List.reverseRecOn with
  | nil => rfl
  | append_singleton ops op ih => simp [insertAll_concat, ih]

/-- The first entry of a bucket named as `e` is the first earlier insert that `e` meets. -/
theorem find?_bucket_insertAll (t : String) (e : IndexEntry) :
    ((((({} : ObjectIndex).insertAll ops).1.bucket t).find?
      fun x => eqIgnoreAsciiCase x.name e.name).map IndexEntry.file) = firstClash ops t e := by
  induction ops using List.reverseRecOn generalizing t e with
  | nil => simp [insertAll, bucket, entriesAt, firstClash]
  | append_singleton ops op ih =>
    obtain ⟨t', e'⟩ := op
    rw [insertAll_concat, firstClash_concat, ← ih]
    rcases insert_cases (valid_insertAll ops) t' e' with ⟨x, found, same⟩ | ⟨fresh, added⟩
    · rw [same]
      by_cases meets : clashes t e (t', e')
      · -- the entry kept in the bucket of `t'` has the name of `e'`, so that of `e` too
        simp only [clashes, Bool.and_eq_true, beq_iff_eq] at meets
        obtain ⟨member, named⟩ := List.mem_of_find?_eq_some found, List.find?_some found
        have hit : ((((({} : ObjectIndex).insertAll ops).1.bucket t).find?
            fun x => eqIgnoreAsciiCase x.name e.name)).isSome := by
          refine List.find?_isSome.mpr ⟨x, ?_, eqIgnoreAsciiCase_trans named meets.2⟩
          simpa [bucket, meets.1] using member
        obtain ⟨y, hy⟩ := Option.isSome_iff_exists.mp hit
        simp [hy]
      · simp [meets]
    · rw [added, bucket_setBucket]
      by_cases sameKey : Header.normalizeType t = Header.normalizeType t'
      · simp only [sameKey, if_true, List.find?_append, bucket]
        cases (({} : ObjectIndex).insertAll ops).1.entriesAt (Header.normalizeType t') |>.find?
          fun x => eqIgnoreAsciiCase x.name e.name <;>
        by_cases named : eqIgnoreAsciiCase e'.name e.name <;> simp [clashes, sameKey, named]
      · have : clashes t e (t', e') = false := by simp [clashes, Ne.symm sameKey]
        simp [sameKey, this]

/-- The next insert returns the file of the first earlier insert it meets, if any. -/
theorem insert_insertAll (t : String) (e : IndexEntry) :
    ((({} : ObjectIndex).insertAll ops).1.insert t e).2 = firstClash ops t e := by
  rcases insert_cases (valid_insertAll ops) t e with ⟨x, found, same⟩ | ⟨fresh, added⟩
  · rw [same, ← find?_bucket_insertAll, found]
    rfl
  · rw [added, ← find?_bucket_insertAll, fresh]
    rfl

theorem size_insertAll_concat (op : String × IndexEntry) :
    (({} : ObjectIndex).insertAll (ops ++ [op])).1.size =
      (({} : ObjectIndex).insertAll ops).1.size + if firstClash ops op.1 op.2 = none then 1 else 0 := by
  rw [insertAll_concat, size_insert (valid_insertAll ops), insert_insertAll]

/-- The entries under a key are those inserted under a type of that key whose insert was not
refused, in the order of the inserts. -/
theorem entriesAt_insertAll (k : String) :
    (({} : ObjectIndex).insertAll ops).1.entriesAt k =
      ((ops.zip (({} : ObjectIndex).insertAll ops).2).filter fun (op, r) =>
        Header.normalizeType op.1 = k ∧ r = none).map fun (op, _) => op.2 := by
  induction ops using List.reverseRecOn with
  | nil => simp [insertAll, entriesAt]
  | append_singleton ops op ih =>
    rw [insertAll_concat, entriesAt_insert (valid_insertAll ops), ih,
      List.zip_append (length_insertAll ops).symm]
    by_cases kept : ((({} : ObjectIndex).insertAll ops).1.insert op.1 op.2).2 = none ∧
      k = Header.normalizeType op.1
    · simp [kept]
    · simp only [if_neg kept, List.filter_append, List.map_append, List.zip_cons_cons,
        List.zip_nil_left, List.filter_singleton]
      grind

theorem size_insertAll :
    (({} : ObjectIndex).insertAll ops).1.size =
      (({} : ObjectIndex).insertAll ops).2.count none := by
  induction ops using List.reverseRecOn with
  | nil => rfl
  | append_singleton ops op ih =>
    rw [insertAll_concat, size_insert (valid_insertAll ops), ih, List.count_append,
      List.count_singleton]
    cases ((({} : ObjectIndex).insertAll ops).1.insert op.1 op.2).2 <;> simp

end Runs

theorem lookup_of_mem {bs : List (String × List IndexEntry)}
    (ascending : (bs.map Prod.fst).Pairwise (· < ·)) {b : String × List IndexEntry}
    (member : b ∈ bs) : bs.lookup b.1 = some b.2 := by
  induction bs with
  | nil => simp at member
  | cons b' bs ih =>
    obtain ⟨least, rest⟩ := List.pairwise_cons.mp ascending
    rw [lookup_cons_ite]
    rcases List.mem_cons.mp member with rfl | later
    · simp
    · have above : b'.1 < b.1 := least b.1 (List.mem_map.mpr ⟨b, later, rfl⟩)
      rw [if_neg (ne_of_gt above), ih rest later]

theorem entriesAt_of_mem (valid : idx.Valid) {b : String × List IndexEntry}
    (member : b ∈ idx.buckets) : idx.entriesAt b.1 = b.2 := by
  simp [entriesAt, lookup_of_mem valid.ascending member]

/-- The flat view is each bucket in turn, keys ascending. -/
theorem flattened_eq (valid : idx.Valid) :
    idx.flattened = idx.keys.flatMap fun k => (idx.entriesAt k).map fun x => (k, x) := by
  unfold flattened keys
  rw [List.flatMap_map]
  exact List.flatMap_congr fun b member => by rw [entriesAt_of_mem valid member]

/-- Inserting any sequence of entries into the empty index gives a valid index, each entry under
the key of the type it came with. The next insert returns the file of the first earlier insert it
meets and changes nothing, or else puts its entry last in its bucket. A bucket holds the entries
whose insert was not refused, in order; the size counts them; the flat view is the buckets by
ascending key. -/
theorem insertAll_keeps_first_names (ops : List (String × IndexEntry)) :
    let idx := (({} : ObjectIndex).insertAll ops).1
    let returned := (({} : ObjectIndex).insertAll ops).2
    idx.Valid ∧
    (∀ b ∈ idx.buckets, ∀ x ∈ b.2, ∃ t, (t, x) ∈ ops ∧ Header.normalizeType t = b.1) ∧
    (∀ t e, (idx.insert t e).2 = firstClash ops t e ∧
      ((idx.insert t e).2.isSome → (idx.insert t e).1 = idx) ∧
      ((idx.insert t e).2 = none → ∀ k, (idx.insert t e).1.entriesAt k =
        if k = Header.normalizeType t then idx.entriesAt k ++ [e] else idx.entriesAt k)) ∧
    (∀ t, idx.bucket t = ((ops.zip returned).filter fun (op, r) =>
        Header.normalizeType op.1 = Header.normalizeType t ∧ r = none).map fun (op, _) => op.2) ∧
    idx.size = returned.count none ∧ (idx.isEmpty = true ↔ returned.count none = 0) ∧
    idx.flattened = idx.keys.flatMap fun k => (idx.entriesAt k).map fun x => (k, x) := by
  intro idx returned
  have valid : idx.Valid := valid_insertAll ops
  refine ⟨valid, ?_, fun t e => ?_, fun t => entriesAt_insertAll ops _, size_insertAll ops,
    by simp [isEmpty, idx, returned, size_insertAll], flattened_eq valid⟩
  · -- an entry of a bucket was inserted under a type of the bucket's key
    intro b member x inBucket
    rw [← entriesAt_of_mem valid member, entriesAt_insertAll] at inBucket
    obtain ⟨⟨op, r⟩, kept, rfl⟩ := List.mem_map.mp inBucket
    obtain ⟨inZip, named⟩ := List.mem_filter.mp kept
    exact ⟨op.1, (List.of_mem_zip inZip).1, (by simpa using named : _ ∧ _).1⟩
  · refine ⟨insert_insertAll ops t e, fun refused => ?_, fun accepted k => ?_⟩
    · rcases insert_cases valid t e with ⟨x, -, same⟩ | ⟨-, added⟩
      · rw [same]
      · simp [added] at refused
    · rw [entriesAt_insert valid, accepted]
      simp

/-! ### Lookup -/

/-- Entries that hold each name once, ASCII case aside, match a name at most once. -/
theorem filter_named_eq_find? {es : List IndexEntry}
    (distinct : es.Pairwise fun x y => eqIgnoreAsciiCase x.name y.name = false) (n : String) :
    es.filter (fun x => eqIgnoreAsciiCase x.name n) =
      (es.find? fun x => eqIgnoreAsciiCase x.name n).toList := by
  induction es with
  | nil => rfl
  | cons x rest ih =>
    obtain ⟨apart, distinct⟩ := List.pairwise_cons.mp distinct
    by_cases hit : eqIgnoreAsciiCase x.name n
    · have unmatched : rest.filter (fun y => eqIgnoreAsciiCase y.name n) = [] :=
        List.filter_eq_nil_iff.mpr fun y member named => by
          have same :=
            eqIgnoreAsciiCase_trans hit ((eqIgnoreAsciiCase_comm n y.name).trans named)
          simp [apart y member] at same
      simp [hit, unmatched]
    · simp [hit, ih distinct]

/-- Gathering what the bucket of one key gives, keys being ascending. -/
theorem flatMap_at_key {β : Type} {bs : List (String × List IndexEntry)}
    (ascending : (bs.map Prod.fst).Pairwise (· < ·)) (key : String) (f : List IndexEntry → List β)
    (empty : f [] = []) :
    bs.flatMap (fun b => if b.1 = key then f b.2 else []) = f ((bs.lookup key).getD []) := by
  induction bs with
  | nil => simp [empty]
  | cons b bs ih =>
    obtain ⟨k, es⟩ := b
    obtain ⟨least, rest⟩ := List.pairwise_cons.mp ascending
    rw [List.flatMap_cons, lookup_cons_ite, ih rest]
    by_cases here : k = key
    · subst here
      have absent : bs.lookup k = none :=
        lookup_of_below fun k' member => least k' member
      simp [absent, empty]
    · simp [here, Ne.symm here]

/-- Narrowing the matches of a name to the bucket of a type leaves the match that bucket holds,
if any. -/
theorem narrowed_eq (valid : idx.Valid) (n t : String) :
    ((idx.flattened.filter fun (_, x) => eqIgnoreAsciiCase x.name n).filter
        fun (k, _) => k == Header.normalizeType t) =
      ((idx.bucket t).find? fun x => eqIgnoreAsciiCase x.name n).toList.map
        fun x => (Header.normalizeType t, x) := by
  rw [List.filter_filter]
  unfold flattened
  rw [List.filter_flatMap]
  -- a bucket gives its matches when its key is that of the type, and nothing otherwise
  have perBucket : ∀ b ∈ idx.buckets,
      ((b.2.map fun x => (b.1, x)).filter fun (k, x) =>
        k == Header.normalizeType t && eqIgnoreAsciiCase x.name n) =
      if b.1 = Header.normalizeType t then
        (b.2.filter fun x => eqIgnoreAsciiCase x.name n).map fun x => (Header.normalizeType t, x)
      else [] := by
    rintro ⟨k, es⟩ -
    by_cases here : k = Header.normalizeType t
    · simp [here, List.filter_map, Function.comp_def]
    · simp [here]
  rw [List.flatMap_congr perBucket, flatMap_at_key valid.ascending (Header.normalizeType t)
    (fun es => (es.filter fun x => eqIgnoreAsciiCase x.name n).map
      fun x => (Header.normalizeType t, x)) rfl]
  exact congrArg (List.map _) (filter_named_eq_find? (valid.distinct_entriesAt _) n)

/-- Lookup in a valid index: the name's matches across all buckets decide, and when there are
several, the match the bucket of the type holds. -/
theorem lookup_of_valid (valid : idx.Valid) (n t : String) :
    idx.lookup n t =
      match idx.flattened.filter fun (_, x) => eqIgnoreAsciiCase x.name n with
      | [] => .error (.resolution ("Object '" ++ n ++ "' not found in SQL sources"))
      | [(_, only)] => .ok only.file
      | several =>
        match (idx.bucket t).find? fun x => eqIgnoreAsciiCase x.name n with
        | some x => .ok x.file
        | none => .error (.resolution ("Object '" ++ n ++ "' is ambiguous: defined in " ++
            ", ".intercalate (several.map fun (k, x) => x.file.display ++ " (" ++ k ++ ")"))) := by
  have narrowed := narrowed_eq valid n t
  dsimp only [lookup] at narrowed ⊢
  rcases hits : idx.flattened.filter (fun x => eqIgnoreAsciiCase x.2.name n) with
    _ | ⟨first, _ | ⟨second, rest⟩⟩
  · simp only [hits]
  · simp only [hits]
  · rw [hits] at narrowed
    simp only [hits, narrowed]
    cases (idx.bucket t).find? fun x => eqIgnoreAsciiCase x.name n <;> rfl

/-- Lookup in an index built by any sequence of inserts: a name in no bucket is not found, a name
in one place is that file whatever the type, and a name in several buckets is the file the bucket
of the type holds, or ambiguous when that bucket holds none. Narrowing by the type never leaves two
candidates. -/
theorem lookup_narrows_by_type (ops : List (String × IndexEntry)) (n t : String) :
    let idx := (({} : ObjectIndex).insertAll ops).1
    let matched := idx.flattened.filter fun (_, x) => eqIgnoreAsciiCase x.name n
    idx.lookup n t =
      (match matched with
      | [] => .error (.resolution ("Object '" ++ n ++ "' not found in SQL sources"))
      | [(_, only)] => .ok only.file
      | several =>
        match (idx.bucket t).find? fun x => eqIgnoreAsciiCase x.name n with
        | some x => .ok x.file
        | none => .error (.resolution ("Object '" ++ n ++ "' is ambiguous: defined in " ++
            ", ".intercalate (several.map fun (k, x) => x.file.display ++ " (" ++ k ++ ")")))) ∧
    (matched.filter fun (k, _) => k == Header.normalizeType t).length ≤ 1 := by
  intro idx matched
  have valid : idx.Valid := valid_insertAll ops
  refine ⟨lookup_of_valid valid n t, ?_⟩
  rw [narrowed_eq valid]
  cases (idx.bucket t).find? fun x => eqIgnoreAsciiCase x.name n <;> simp

end ObjectIndex

end Migrator
