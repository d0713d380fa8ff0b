import Mathlib
import Migrator.Chain

/-! The chain check. `selectTargets` never tests for a prefix directly: it runs four checks in
a fixed order (the target, up scripts past the first unbuilt version, scripts outside the
manifest, unpaired scripts). Over an ordered manifest their conjunction says exactly that the
up scripts are a gapless prefix of the versions and that every version has both scripts or
neither; the targets are then the unbuilt versions up to the target. -/
namespace Migrator

section Except

variable {ε α β : Type} {x : Except ε α} {f : α → Except ε β} {a : α} {b : β} {e e' : ε}

@[simp] theorem except_throw_eq_ok : (throw e : Except ε α) = .ok a ↔ False := by
  simp [throw, throwThe, MonadExceptOf.throw]

@[simp] theorem except_throw_eq_error : (throw e : Except ε α) = .error e' ↔ e = e' := by
  simp [throw, throwThe, MonadExceptOf.throw]

@[simp] theorem except_pure_eq_ok {a' : α} : (pure a : Except ε α) = .ok a' ↔ a = a' := by
  simp [pure, Except.pure]

@[simp] theorem except_pure_eq_error : (pure a : Except ε α) = .error e ↔ False := by
  simp [pure, Except.pure]

theorem except_bind_eq_ok : x >>= f = .ok b ↔ ∃ a, x = .ok a ∧ f a = .ok b := by
  cases x <;> simp [bind, Except.bind]

theorem except_bind_eq_error :
    x >>= f = .error e ↔ x = .error e ∨ ∃ a, x = .ok a ∧ f a = .error e := by
  cases x <;> simp [bind, Except.bind]

end Except

/-- The first member of a list that fails a test is the same however the list is cut there. -/
theorem first_failing_unique {α : Type} {P : α → Prop} {pre pre' rest rest' : List α} {f f' : α}
    (same : pre ++ f :: rest = pre' ++ f' :: rest') (passed : ∀ g ∈ pre, P g) (failed : ¬P f)
    (passed' : ∀ g ∈ pre', P g) (failed' : ¬P f') : pre = pre' ∧ f = f' := by
  induction pre generalizing pre' with
  | nil =>
    cases pre' with
    | nil => exact ⟨rfl, (List.cons.inj same).1⟩
    | cons g pre' => exact absurd (passed' g (by simp)) ((List.cons.inj same).1 ▸ failed)
  | cons g pre ih =>
    cases pre' with
    | nil => exact absurd (passed g (by simp)) ((List.cons.inj same).1.symm ▸ failed')
    | cons g' pre' =>
      obtain ⟨rfl, rest⟩ := List.cons.inj same
      obtain ⟨rfl, rfl⟩ := ih rest (fun x member => passed x (by simp [member])) fun x member =>
        passed' x (by simp [member])
      exact ⟨rfl, rfl⟩

/-- The versions of a manifest are strictly ascending, so each is there once. Manifests read
from TOML are built so; text order is code point order, which is the order of UTF-8 bytes. -/
def Manifest.Ordered (m : Manifest) : Prop := m.versions.Pairwise (· < ·)

instance : DecidablePred Manifest.Ordered :=
  fun m => inferInstanceAs (Decidable (m.versions.Pairwise (· < ·)))

/-- Every version has both of its scripts or neither. -/
def ChainState.Paired (s : ChainState) : Prop := ∀ v, v ∈ s.up ↔ v ∈ s.down

/-- `built` is a gapless prefix of the manifest's versions: it holds exactly the versions below
every version it lacks, that is below the smallest one it lacks, or all of them when it lacks
none. -/
def GaplessPrefix (m : Manifest) (built : List String) : Prop :=
  ∀ v, v ∈ built ↔ v ∈ m.versions ∧ ∀ n ∈ m.versions, n ∉ built → v < n

theorem find?_le_of_sorted {l : List String} {p : String → Bool} {n w : String}
    (sorted : l.Pairwise (· < ·)) (found : l.find? p = some n) (member : w ∈ l)
    (holds : p w) : n ≤ w := by
  obtain ⟨_, front, back, rfl, before⟩ := List.find?_eq_some_iff_append.mp found
  rcases List.mem_append.mp member with inFront | inBack
  · have excluded := before w inFront
    simp [holds] at excluded
  · rcases List.mem_cons.mp inBack with rfl | later
    · exact le_refl _
    · exact le_of_lt (List.rel_of_pairwise_cons (List.pairwise_append.mp sorted).2.1 later)

theorem mem_insertSorted {x v : String} {xs : List String} :
    v ∈ insertSorted x xs ↔ v = x ∨ v ∈ xs := by
  induction xs with
  | nil => simp [insertSorted]
  | cons y ys ih =>
    unfold insertSorted
    split_ifs with below same
    · simp
    · subst same
      simp
    · simp only [List.mem_cons, ih]
      tauto

theorem pairwise_insertSorted {x : String} {xs : List String} (sorted : xs.Pairwise (· < ·)) :
    (insertSorted x xs).Pairwise (· < ·) := by
  induction xs with
  | nil => simp [insertSorted]
  | cons y ys ih =>
    obtain ⟨least, rest⟩ := List.pairwise_cons.mp sorted
    unfold insertSorted
    split_ifs with below same
    · exact List.Pairwise.cons (fun z member => by
        rcases List.mem_cons.mp member with rfl | later
        · exact below
        · exact lt_trans below (least z later)) sorted
    · exact sorted
    · have above : y < x := lt_of_le_of_ne (not_lt.mp below) (Ne.symm same)
      refine List.Pairwise.cons (fun z member => ?_) (ih rest)
      rcases mem_insertSorted.mp member with rfl | later
      · exact above
      · exact least z later

/-- Inserting each text in turn keeps the accumulator sorted and gathers every text. -/
theorem foldl_insertSorted (xs acc : List String) (sorted : acc.Pairwise (· < ·)) :
    (xs.foldl (fun acc x => insertSorted x acc) acc).Pairwise (· < ·) ∧
      ∀ v, v ∈ xs.foldl (fun acc x => insertSorted x acc) acc ↔ v ∈ acc ∨ v ∈ xs := by
  induction xs generalizing acc with
  | nil => simpa using sorted
  | cons x xs ih =>
    obtain ⟨sorted', members⟩ := ih (insertSorted x acc) (pairwise_insertSorted sorted)
    refine ⟨sorted', fun v => ?_⟩
    rw [List.foldl_cons, members, mem_insertSorted, List.mem_cons]
    tauto

theorem mem_sortedSet {v : String} {xs : List String} : v ∈ sortedSet xs ↔ v ∈ xs := by
  simpa [sortedSet] using (foldl_insertSorted xs [] List.Pairwise.nil).2 v

theorem pairwise_sortedSet (xs : List String) : (sortedSet xs).Pairwise (· < ·) :=
  (foldl_insertSorted xs [] List.Pairwise.nil).1

/-- The set of a list depends on its members only. -/
theorem sortedSet_congr {xs ys : List String} (same : ∀ v, v ∈ xs ↔ v ∈ ys) :
    sortedSet xs = sortedSet ys :=
  (pairwise_sortedSet xs).eq_of_mem_iff (pairwise_sortedSet ys) fun v => by
    rw [mem_sortedSet, mem_sortedSet, same]

namespace ChainState

variable {m : Manifest} {s : ChainState} {target : Option String} {e : Error} {u : Unit}

theorem nextUnbuilt_eq_none : nextUnbuilt m s = none ↔ ∀ v ∈ m.versions, v ∈ s.up := by
  simp [nextUnbuilt, isBuilt]

theorem nextUnbuilt_mem {n : String} (next : nextUnbuilt m s = some n) :
    n ∈ m.versions ∧ n ∉ s.up := by
  have unbuilt := List.find?_some next
  simp only [isBuilt, List.contains_eq_mem, Bool.not_eq_eq_eq_not, Bool.not_true,
    decide_eq_false_iff_not] at unbuilt
  exact ⟨List.mem_of_find?_eq_some next, unbuilt⟩

/-- In an ordered manifest the first unbuilt version is the smallest one. -/
theorem nextUnbuilt_le (ordered : m.Ordered) {n v : String} (next : nextUnbuilt m s = some n)
    (member : v ∈ m.versions) (unbuilt : v ∉ s.up) : n ≤ v :=
  find?_le_of_sorted ordered next member (by simpa [isBuilt] using unbuilt)

theorem insertSorted_ne_nil (x : String) (xs : List String) : insertSorted x xs ≠ [] := by
  cases xs with
  | nil => simp [insertSorted]
  | cons y ys => unfold insertSorted; split_ifs <;> simp

theorem sortedSet_eq_nil {xs : List String} : sortedSet xs = [] ↔ xs = [] := by
  -- Inserting never empties the accumulator, so only the empty list gives the empty set.
  have grows : ∀ (ys acc : List String), acc ≠ [] →
      ys.foldl (fun acc x => insertSorted x acc) acc ≠ [] := by
    intro ys
    induction ys with
    | nil => intro acc nonempty; exact nonempty
    | cons y ys ih => intro acc _; exact ih _ (insertSorted_ne_nil y acc)
  cases xs with
  | nil => simp [sortedSet]
  | cons x xs => simpa [sortedSet] using grows xs _ (insertSorted_ne_nil x [])

theorem unpaired_eq_nil : s.unpaired = [] ↔ s.Paired := by
  simp only [unpaired, sortedSet_eq_nil, List.append_eq_nil_iff, List.filter_eq_nil_iff,
    List.contains_eq_mem, Bool.not_eq_eq_eq_not, Bool.not_true, decide_eq_false_iff_not,
    not_not, Paired]
  exact ⟨fun ⟨down, up⟩ v => ⟨down v, up v⟩,
    fun paired => ⟨fun v => (paired v).1, fun v => (paired v).2⟩⟩

/-! Each check passes exactly when its condition holds, and fails with its own kind of error. -/

theorem checkTarget_eq_ok : checkTarget m target = .ok u ↔ target.all m.contains := by
  cases target with
  | none => simp [checkTarget]
  | some t => by_cases known : m.contains t <;> simp [checkTarget, known]

theorem checkTarget_error (failed : checkTarget m target = .error e) : ∃ msg, e = .config msg := by
  cases target with
  | none => simp [checkTarget] at failed
  | some t =>
    by_cases known : m.contains t <;> simp [checkTarget, known] at failed
    exact ⟨_, failed.symm⟩

theorem checkNoLaterUp_eq_ok :
    checkNoLaterUp m s = .ok u ↔ ∀ n, nextUnbuilt m s = some n → ∀ v ∈ s.up, ¬ n < v := by
  unfold checkNoLaterUp
  cases next : nextUnbuilt m s with
  | none => simp
  | some n =>
    -- The inner search names `n` only once the outer match is reduced.
    dsimp only
    cases later : s.up.find? (fun v => decide (n < v)) with
    | none => simpa [-String.lt_iff_ltb] using later
    | some v =>
      simp only [except_throw_eq_ok, false_iff, not_forall]
      exact ⟨n, rfl, v, List.mem_of_find?_eq_some later,
        by simpa [-String.lt_iff_ltb] using List.find?_some later⟩

theorem checkNoLaterUp_error (failed : checkNoLaterUp m s = .error e) :
    ∃ msg, e = .chainIntegrity msg := by
  unfold checkNoLaterUp at failed
  cases next : nextUnbuilt m s with
  | none => simp [next] at failed
  | some n =>
    simp only [next] at failed
    cases later : s.up.find? (fun v => decide (n < v)) with
    | none => simp only [later, except_pure_eq_error] at failed
    | some v =>
      simp only [later, except_throw_eq_error] at failed
      exact ⟨_, failed.symm⟩

theorem checkNoOrphan_eq_ok :
    checkNoOrphan m s = .ok u ↔ ∀ v ∈ s.up ++ s.down, m.contains v := by
  unfold checkNoOrphan
  cases orphan : (s.up ++ s.down).find? (fun v => !m.contains v) with
  | none =>
    simp only [except_pure_eq_ok, true_iff]
    intro v member
    simpa using List.find?_eq_none.mp orphan v member
  | some v =>
    simp only [except_throw_eq_ok, false_iff, not_forall]
    exact ⟨v, List.mem_of_find?_eq_some orphan, by simpa using List.find?_some orphan⟩

theorem checkNoOrphan_error (failed : checkNoOrphan m s = .error e) :
    ∃ msg, e = .chainIntegrity msg := by
  unfold checkNoOrphan at failed
  cases orphan : (s.up ++ s.down).find? (fun v => !m.contains v) with
  | none => simp [orphan] at failed
  | some v =>
    simp only [orphan, except_throw_eq_error] at failed
    exact ⟨_, failed.symm⟩

theorem checkPaired_eq_ok : checkPaired s = .ok u ↔ s.Paired := by
  rw [← unpaired_eq_nil]
  unfold checkPaired
  cases unpaired : s.unpaired with
  | nil => simp
  | cons v vs => simp

theorem checkPaired_error (failed : checkPaired s = .error e) : ∃ msg, e = .chainIntegrity msg := by
  unfold checkPaired at failed
  cases unpaired : s.unpaired with
  | nil => simp [unpaired] at failed
  | cons v vs =>
    simp only [unpaired, List.head?_cons, except_throw_eq_error] at failed
    exact ⟨_, failed.symm⟩

/-- `selectTargets` succeeds exactly when its four checks pass, and then returns the pending
versions. -/
theorem selectTargets_eq_ok {ts : List String} :
    s.selectTargets m target = .ok ts ↔
      target.all m.contains ∧ (∀ n, nextUnbuilt m s = some n → ∀ v ∈ s.up, ¬ n < v) ∧
      (∀ v ∈ s.up ++ s.down, m.contains v) ∧ s.Paired ∧ ts = pending m (nextUnbuilt m s) target := by
  simp only [selectTargets, except_bind_eq_ok, exists_const, checkTarget_eq_ok,
    checkNoLaterUp_eq_ok, checkNoOrphan_eq_ok, checkPaired_eq_ok, except_pure_eq_ok,
    @eq_comm _ _ ts]

/-- Every target is a version of the manifest. -/
theorem mem_versions_of_selectTargets {ts : List String} (ok : s.selectTargets m target = .ok ts)
    {v : String} (member : v ∈ ts) : v ∈ m.versions := by
  obtain ⟨-, -, -, -, rfl⟩ := selectTargets_eq_ok.mp ok
  unfold pending at member
  split at member
  · simp at member
  · exact (List.mem_filter.mp member).1

/-- A failing `selectTargets` reports a configuration error exactly when the target is not a
manifest version, and a chain integrity error otherwise. -/
theorem selectTargets_error (failed : s.selectTargets m target = .error e) :
    if target.all m.contains then ∃ msg, e = .chainIntegrity msg else ∃ msg, e = .config msg := by
  simp only [selectTargets, except_bind_eq_error, except_pure_eq_error, and_false,
    exists_false, or_false] at failed
  split_ifs with known
  · have passes : checkTarget m target = .ok () := checkTarget_eq_ok.mpr known
    rcases failed with first | ⟨_, -, later | ⟨_, -, orphan | ⟨_, -, unpaired⟩⟩⟩
    · simp [passes] at first
    · exact checkNoLaterUp_error later
    · exact checkNoOrphan_error orphan
    · exact checkPaired_error unpaired
  · rcases failed with first | ⟨_, passed, -⟩
    · exact checkTarget_error first
    · exact absurd (checkTarget_eq_ok.mp passed) known

/-- The checks on up scripts make them a gapless prefix: nothing built lies above the first
unbuilt version, which in an ordered manifest is the smallest one. -/
theorem gaplessPrefix_of_checks (ordered : m.Ordered)
    (noLater : ∀ n, nextUnbuilt m s = some n → ∀ v ∈ s.up, ¬ n < v)
    (noOrphan : ∀ v ∈ s.up, m.contains v) : GaplessPrefix m s.up := by
  intro v
  constructor
  · intro built
    refine ⟨by simpa [Manifest.contains] using noOrphan v built, fun n member unbuilt => ?_⟩
    obtain ⟨first, next⟩ : ∃ first, nextUnbuilt m s = some first := by
      cases h : nextUnbuilt m s with
      | none => exact absurd (nextUnbuilt_eq_none.mp h n member) unbuilt
      | some first => exact ⟨first, rfl⟩
    have below : first ≤ n := nextUnbuilt_le ordered next member unbuilt
    have notAbove : v ≤ first := not_lt.mp (noLater first next v built)
    have distinct : v ≠ first := fun same => (nextUnbuilt_mem next).2 (same ▸ built)
    exact lt_of_lt_of_le (lt_of_le_of_ne notAbove distinct) below
  · rintro ⟨member, belowUnbuilt⟩
    by_contra unbuilt
    exact lt_irrefl v (belowUnbuilt v member unbuilt)

theorem noLater_of_gaplessPrefix (gapless : GaplessPrefix m s.up) :
    ∀ n, nextUnbuilt m s = some n → ∀ v ∈ s.up, ¬ n < v := by
  intro n next v built
  have ⟨member, unbuilt⟩ := nextUnbuilt_mem next
  exact not_lt.mpr (le_of_lt (((gapless v).mp built).2 n member unbuilt))

/-- Over a gapless prefix, the versions from the first unbuilt one on are the unbuilt ones. -/
theorem pending_eq_filter (ordered : m.Ordered) (gapless : GaplessPrefix m s.up) :
    pending m (nextUnbuilt m s) target =
      m.versions.filter (fun v => !s.up.contains v && target.all (fun t => decide (v ≤ t))) := by
  unfold pending
  cases next : nextUnbuilt m s with
  | none =>
    symm
    rw [List.filter_eq_nil_iff]
    intro v member
    simp [nextUnbuilt_eq_none.mp next v member]
  | some n =>
    apply List.filter_congr
    intro v member
    by_cases built : v ∈ s.up
    · have below : v < n :=
        ((gapless v).mp built).2 n (nextUnbuilt_mem next).1 (nextUnbuilt_mem next).2
      simp [built, not_le.mpr below]
    · simp [built, nextUnbuilt_le ordered next member built]

theorem selectTargets_ok_iff (ordered : m.Ordered) :
    (∃ ts, s.selectTargets m target = .ok ts) ↔
      target.all m.contains ∧ s.Paired ∧ GaplessPrefix m s.up := by
  constructor
  · rintro ⟨ts, ok⟩
    obtain ⟨known, noLater, noOrphan, paired, -⟩ := selectTargets_eq_ok.mp ok
    exact ⟨known, paired, gaplessPrefix_of_checks ordered noLater
      (fun v built => noOrphan v (List.mem_append_left _ built))⟩
  · rintro ⟨known, paired, gapless⟩
    refine ⟨_, selectTargets_eq_ok.mpr ⟨known, noLater_of_gaplessPrefix gapless, ?_, paired, rfl⟩⟩
    intro v member
    have built : v ∈ s.up := by
      rcases List.mem_append.mp member with up | down
      · exact up
      · exact (paired v).mpr down
    simpa [Manifest.contains] using ((gapless v).mp built).1

theorem selectTargets_ok_targets (ordered : m.Ordered) {ts : List String}
    (ok : s.selectTargets m target = .ok ts) :
    ts = m.versions.filter (fun v => !s.up.contains v && target.all (fun t => decide (v ≤ t))) ∧
      ts.Pairwise (· < ·) := by
  obtain ⟨_, noLater, noOrphan, _, rfl⟩ := selectTargets_eq_ok.mp ok
  have gapless := gaplessPrefix_of_checks ordered noLater
    (fun v built => noOrphan v (List.mem_append_left _ built))
  rw [pending_eq_filter ordered gapless]
  exact ⟨rfl, ordered.filter _⟩

/-- The chain check as a whole. Over an ordered manifest it succeeds exactly when the target is
a manifest version, every version has both scripts or neither, and the up scripts are a gapless
prefix; it then returns the unbuilt versions up to the target, ascending and each once. A
failure is a configuration error exactly when the target is unknown. -/
theorem selectTargets_correct (ordered : m.Ordered) :
    ((∃ ts, s.selectTargets m target = .ok ts) ↔
      target.all m.contains ∧ s.Paired ∧ GaplessPrefix m s.up) ∧
    (∀ ts, s.selectTargets m target = .ok ts →
      ts = m.versions.filter (fun v => !s.up.contains v && target.all (fun t => decide (v ≤ t))) ∧
      ts.Pairwise (· < ·)) ∧
    (∀ e, s.selectTargets m target = .error e →
      if target.all m.contains then ∃ msg, e = .chainIntegrity msg else ∃ msg, e = .config msg) :=
  ⟨selectTargets_ok_iff ordered, fun _ ok => selectTargets_ok_targets ordered ok,
    fun _ failed => selectTargets_error failed⟩

theorem selectTargets_correct_after_first :
    Manifest.Ordered ⟨[("0001", {}), ("0002", {}), ("0003", {})]⟩ ∧
    ((∃ ts, (⟨["0001"], ["0001"]⟩ : ChainState).selectTargets
        ⟨[("0001", {}), ("0002", {}), ("0003", {})]⟩ (some "0002") = .ok ts) ↔
      (some "0002").all (Manifest.contains ⟨[("0001", {}), ("0002", {}), ("0003", {})]⟩) ∧
        (⟨["0001"], ["0001"]⟩ : ChainState).Paired ∧
        GaplessPrefix ⟨[("0001", {}), ("0002", {}), ("0003", {})]⟩ ["0001"]) ∧
    (∀ ts, (⟨["0001"], ["0001"]⟩ : ChainState).selectTargets
        ⟨[("0001", {}), ("0002", {}), ("0003", {})]⟩ (some "0002") = .ok ts →
      ts = ["0001", "0002", "0003"].filter
        (fun v => !(["0001"].contains v) && (some "0002").all (fun t => decide (v ≤ t))) ∧
      ts.Pairwise (· < ·)) ∧
    (∀ e, (⟨["0001"], ["0001"]⟩ : ChainState).selectTargets
        ⟨[("0001", {}), ("0002", {}), ("0003", {})]⟩ (some "0002") = .error e →
      if (some "0002").all (Manifest.contains ⟨[("0001", {}), ("0002", {}), ("0003", {})]⟩)
      then ∃ msg, e = .chainIntegrity msg else ∃ msg, e = .config msg) :=
  ⟨by decide, selectTargets_correct (by decide)⟩

end ChainState

end Migrator
