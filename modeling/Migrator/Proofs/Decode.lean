import Mathlib
import Migrator.Proofs.Manifest

/-! Checking a manifest's actions. An action as written decodes when its keyword, trimmed and in
lower case, is one of the four and it has a location exactly for `execute`; it then stands for
one decoded action (`RawAction.Means`), which checking it gives, and otherwise checking it
fails with an error naming its version, direction, position and name (`decode_eq_ok`,
`decode_eq_error`). The reader checks the versions in ascending order, `up` before `down`, each
list in order, and stops at the first action that does not decode; so a manifest is read exactly
when every action decodes, and its error is that of the first action in that order that does
not. -/
namespace Migrator

section Except

variable {α β ε : Type} {f : α → Except ε β} {e : ε}

/-- A traversal succeeds exactly when each element gives the matching result. -/
theorem mapM_except_eq_ok :
    ∀ {xs : List α} {ys : List β}, xs.mapM f = .ok ys ↔ List.Forall₂ (fun a b => f a = .ok b) xs ys
  | [], ys => by cases ys <;> simp
  | x :: xs, ys => by
    simp only [List.mapM_cons, except_bind_eq_ok, except_pure_eq_ok, mapM_except_eq_ok]
    cases ys with
    | nil => simp
    | cons y ys => simp

theorem exists_of_mapM_eq_ok {xs : List α} {ys : List β} (ok : xs.mapM f = .ok ys) :
    ∀ x ∈ xs, ∃ y, f x = .ok y := by
  have related := mapM_except_eq_ok.mp ok
  clear ok
  induction related with
  | nil => simp
  | cons made _ ih =>
    rintro x (_ | ⟨_, later⟩)
    exacts [⟨_, made⟩, ih x later]

/-- A traversal fails with the error of the first element that fails. -/
theorem mapM_except_eq_error :
    ∀ {xs : List α}, xs.mapM f = .error e →
      ∃ pre a post, xs = pre ++ a :: post ∧ (∀ x ∈ pre, ∃ b, f x = .ok b) ∧ f a = .error e
  | [], failed => by simp at failed
  | x :: xs, failed => by
    rw [List.mapM_cons] at failed
    rcases except_bind_eq_error.mp failed with first | ⟨b, ok, rest⟩
    · exact ⟨[], x, xs, rfl, by simp, first⟩
    · rcases except_bind_eq_error.mp rest with later | ⟨bs, -, made⟩
      · obtain ⟨pre, a, post, rfl, fine, failed⟩ := mapM_except_eq_error later
        refine ⟨x :: pre, a, post, rfl, ?_, failed⟩
        rintro y (_ | ⟨_, held⟩)
        · exact ⟨b, ok⟩
        · exact fine y held
      · simp at made

end Except

namespace RawAction

/-- An action's keyword: its action text, trimmed and in lower case. -/
def keyword (r : RawAction) : String := Text.toLower (Text.trim r.action)

/-- An action decodes when its keyword is one of the four and it has a location exactly when the
keyword is `execute`. -/
def Decodes (r : RawAction) : Prop :=
  r.keyword ∈ ["create", "drop", "execute", "rollback"] ∧
    (r.location.isSome ↔ r.keyword = "execute")

instance : DecidablePred Decodes := fun _ => inferInstanceAs (Decidable (_ ∧ _))

/-- The action an action as written stands for: name and type as written, the action its
keyword names, and for `execute` its location. -/
inductive Means (r : RawAction) : ActionEntry → Prop
  | create : r.keyword = "create" → r.location = none → r.Means ⟨r.name, r.objectType, .create⟩
  | drop : r.keyword = "drop" → r.location = none → r.Means ⟨r.name, r.objectType, .drop⟩
  | rollback : r.keyword = "rollback" → r.location = none →
      r.Means ⟨r.name, r.objectType, .rollback⟩
  | execute (location : String) : r.keyword = "execute" → r.location = some location →
      r.Means ⟨r.name, r.objectType, .execute (.ofString location)⟩

/-- Why an action that does not decode is refused: an unknown keyword first, then a location
missing or where it does not belong. -/
def fault (r : RawAction) : String :=
  if r.keyword ∉ ["create", "drop", "execute", "rollback"] then
    "Invalid action '" ++ r.action ++ "'. Valid actions: create, drop, execute, rollback"
  else if r.location = none then "execute actions require a location"
  else "location is only valid for execute actions, not " ++ r.action

end RawAction

/-- An action where the reader checks it: its version, its direction and its position in that
list, counted from zero. -/
structure ActionAt where
  version : String
  direction : Direction
  position : Nat
  action : RawAction
deriving DecidableEq

/-- The error an action that does not decode is reported with. -/
def ActionAt.error (c : ActionAt) : Error :=
  .config ("Manifest version " ++ c.version ++ " " ++ c.direction.name ++ "[" ++
    toString c.position ++ "] ('" ++ c.action.name ++ "'): " ++ c.action.fault)

/-- Checks an action where it stands. -/
def ActionAt.check (c : ActionAt) : Except Error ActionEntry :=
  c.action.decode c.version c.direction c.position

/-- The actions of one list where they stand. -/
def ActionAt.listed (version : String) (direction : Direction) (raws : List RawAction) :
    List ActionAt :=
  raws.zipIdx.map fun (r, i) => ⟨version, direction, i, r⟩

/-- A version's actions where they stand, `up` before `down`. -/
def ActionAt.ofVersion : String × List RawAction × List RawAction → List ActionAt
  | (v, up, down) => ActionAt.listed v .up up ++ ActionAt.listed v .down down

/-- Every action of a raw manifest, version by version in its order. -/
def RawManifest.actions (raw : RawManifest) : List ActionAt := raw.flatMap ActionAt.ofVersion

/-- A manifest entry stands for a raw version: the same version, and each of its lists decoded
action by action, in order. -/
def VersionMeans (raw : String × List RawAction × List RawAction) (entry : String × BuildSpec) :
    Prop :=
  entry.1 = raw.1 ∧ List.Forall₂ RawAction.Means raw.2.1 entry.2.up ∧
    List.Forall₂ RawAction.Means raw.2.2 entry.2.down

namespace RawAction

variable {r : RawAction} {version : String} {direction : Direction} {position : Nat}
  {entry entry' : ActionEntry} {err : Error}

theorem decodes_of_means (means : r.Means entry) : r.Decodes := by
  cases means <;> simp_all [Decodes]

/-- An action stands for at most one action. -/
theorem Means.unique (means : r.Means entry) (means' : r.Means entry') : entry = entry' := by
  cases means <;> cases means' <;> simp_all

/-- Checking an action gives the action it stands for or, when it does not decode, the error
that says where it stands and why. -/
theorem decode_cases (r : RawAction) (version : String) (direction : Direction) (position : Nat) :
    (∃ entry, r.decode version direction position = .ok entry ∧ r.Means entry) ∨
      (r.decode version direction position = .error (ActionAt.error ⟨version, direction, position, r⟩) ∧
        ¬ r.Decodes) := by
  unfold decode
  dsimp only
  rw [show Text.toLower (Text.trim r.action) = r.keyword from rfl]
  split
  · -- an unknown keyword
    rename_i unknown
    rw [Bool.not_eq_true', ← Bool.not_eq_true, List.contains_iff_mem] at unknown
    exact .inr ⟨by simp [ActionAt.error, fault, unknown], fun decodes => unknown decodes.1⟩
  · rename_i known
    rw [Bool.not_eq_true', Bool.not_eq_false, List.contains_iff_mem] at known
    split
    · rename_i location execute some
      exact .inl ⟨_, rfl, .execute location (by simpa using execute) some⟩
    · rename_i execute none
      refine .inr ⟨by simp [ActionAt.error, fault, known, none], fun decodes => ?_⟩
      simpa [none] using decodes.2.mpr (by simpa using execute)
    · rename_i location other some
      have other : r.keyword ≠ "execute" := by simpa using other
      exact .inr ⟨by simp [ActionAt.error, fault, known, some],
        fun decodes => other (decodes.2.mp (by simp [some]))⟩
    · rename_i other none
      have other : r.keyword ≠ "execute" := by simpa using other
      refine .inl ⟨_, rfl, ?_⟩
      -- the three keywords without a location, told apart by the two tests
      simp only [List.mem_cons, List.not_mem_nil, or_false] at known
      rcases known with named | named | named | named
      · simpa [named] using Means.create named none
      · simpa [named] using Means.drop named none
      · exact absurd named other
      · simpa [named] using Means.rollback named none

theorem decode_eq_ok : r.decode version direction position = .ok entry ↔ r.Means entry := by
  rcases decode_cases r version direction position with ⟨entry', decoded, means'⟩ | ⟨refused, fails⟩
  · rw [decoded, Except.ok.injEq]
    exact ⟨fun same => same ▸ means', fun means => means'.unique means⟩
  · simp only [refused, reduceCtorEq, false_iff]
    exact fun means => fails (decodes_of_means means)

theorem decode_eq_error :
    r.decode version direction position = .error err ↔
      ¬ r.Decodes ∧ err = ActionAt.error ⟨version, direction, position, r⟩ := by
  rcases decode_cases r version direction position with ⟨entry', decoded, means'⟩ | ⟨refused, fails⟩
  · simp only [decoded, reduceCtorEq, false_iff, not_and]
    exact fun fails => absurd (decodes_of_means means') fails
  · rw [refused, Except.error.injEq]
    exact ⟨fun same => ⟨fails, same.symm⟩, fun ⟨_, same⟩ => same.symm⟩

end RawAction

namespace ActionAt

variable {version : String} {direction : Direction} {raws : List RawAction}
  {entries : List ActionEntry} {err : Error}

@[simp] theorem map_action_listed : (listed version direction raws).map action = raws := by
  simp [listed, Function.comp_def, List.zipIdx_map_fst]

theorem decodeActions_eq_mapM :
    decodeActions version direction raws = (listed version direction raws).mapM check := by
  unfold decodeActions listed
  rw [List.mapM_map]
  exact congrArg (List.mapM · _) (funext fun ⟨_, _⟩ => by simp only [Function.comp_apply, check])

theorem decodeActions_eq_ok :
    decodeActions version direction raws = .ok entries ↔ List.Forall₂ RawAction.Means raws entries := by
  rw [decodeActions_eq_mapM, mapM_except_eq_ok]
  have listedBack : List.Forall₂ RawAction.Means raws entries ↔
      List.Forall₂ RawAction.Means ((listed version direction raws).map action) entries := by
    rw [map_action_listed]
  rw [listedBack, List.forall₂_map_left_iff]
  exact ⟨List.Forall₂.imp fun _ _ => RawAction.decode_eq_ok.mp,
    List.Forall₂.imp fun _ _ => RawAction.decode_eq_ok.mpr⟩

theorem decodes_of_decodeActions_eq_ok (ok : decodeActions version direction raws = .ok entries) :
    ∀ c ∈ listed version direction raws, c.action.Decodes := by
  intro c listedHere
  obtain ⟨entry, checked⟩ := exists_of_mapM_eq_ok (decodeActions_eq_mapM ▸ ok) c listedHere
  exact RawAction.decodes_of_means (RawAction.decode_eq_ok.mp checked)

/-- A list fails at its first action that does not decode. -/
theorem decodeActions_eq_error (failed : decodeActions version direction raws = .error err) :
    ∃ pre c post, listed version direction raws = pre ++ c :: post ∧
      (∀ x ∈ pre, x.action.Decodes) ∧ ¬ c.action.Decodes ∧ err = c.error := by
  rw [decodeActions_eq_mapM] at failed
  obtain ⟨pre, c, post, split, fine, failedHere⟩ := mapM_except_eq_error failed
  obtain ⟨refused, rfl⟩ := RawAction.decode_eq_error.mp failedHere
  refine ⟨pre, c, post, split, fun x before => ?_, refused, rfl⟩
  obtain ⟨entry, checked⟩ := fine x before
  exact RawAction.decodes_of_means (RawAction.decode_eq_ok.mp checked)

end ActionAt

namespace Manifest

open Manifest.decode (insertByKey)

variable {x : String × List RawAction × List RawAction} {entry : String × BuildSpec}
  {raw sorted : RawManifest} {m : Manifest} {err : Error}

theorem decodeVersion_eq_ok : decodeVersion x = .ok entry ↔ VersionMeans x entry := by
  obtain ⟨v, up, down⟩ := x
  obtain ⟨v', spec⟩ := entry
  simp only [decodeVersion, except_bind_eq_ok, except_pure_eq_ok, ActionAt.decodeActions_eq_ok,
    VersionMeans]
  constructor
  · rintro ⟨ups, upsMean, downs, downsMean, made⟩
    obtain ⟨rfl, rfl⟩ := Prod.mk.inj made
    exact ⟨rfl, upsMean, downsMean⟩
  · rintro ⟨rfl, upsMean, downsMean⟩
    exact ⟨_, upsMean, _, downsMean, rfl⟩

theorem decodes_of_decodeVersion_eq_ok (ok : decodeVersion x = .ok entry) :
    ∀ c ∈ ActionAt.ofVersion x, c.action.Decodes := by
  obtain ⟨v, up, down⟩ := x
  obtain ⟨ups, upsOk, rest⟩ := except_bind_eq_ok.mp ok
  obtain ⟨downs, downsOk, -⟩ := except_bind_eq_ok.mp rest
  intro c listed
  rcases List.mem_append.mp listed with inUp | inDown
  · exact ActionAt.decodes_of_decodeActions_eq_ok upsOk c inUp
  · exact ActionAt.decodes_of_decodeActions_eq_ok downsOk c inDown

/-- A version fails at its first action that does not decode, `up` before `down`. -/
theorem decodeVersion_eq_error (failed : decodeVersion x = .error err) :
    ∃ pre c post, ActionAt.ofVersion x = pre ++ c :: post ∧
      (∀ y ∈ pre, y.action.Decodes) ∧ ¬ c.action.Decodes ∧ err = c.error := by
  obtain ⟨v, up, down⟩ := x
  rcases except_bind_eq_error.mp failed with upFailed | ⟨ups, upsOk, rest⟩
  · obtain ⟨pre, c, post, split, fine, refused, rfl⟩ := ActionAt.decodeActions_eq_error upFailed
    refine ⟨pre, c, post ++ ActionAt.listed v .down down, ?_, fine, refused, rfl⟩
    simp [ActionAt.ofVersion, split]
  · rcases except_bind_eq_error.mp rest with downFailed | ⟨downs, -, made⟩
    · obtain ⟨pre, c, post, split, fine, refused, rfl⟩ :=
        ActionAt.decodeActions_eq_error downFailed
      refine ⟨ActionAt.listed v .up up ++ pre, c, post, by simp [ActionAt.ofVersion, split], ?_,
        refused, rfl⟩
      intro y before
      rcases List.mem_append.mp before with inUp | early
      · exact ActionAt.decodes_of_decodeActions_eq_ok upsOk y inUp
      · exact fine y early
    · simp at made

section Sorted

variable (perm : sorted.Perm raw) (ascending : (sorted.map Prod.fst).Pairwise (· < ·))
include perm ascending

/-- The reader checks the versions in ascending order, whatever order the document has. -/
theorem decode_eq_of_sorted :
    Manifest.decode raw = sorted.mapM decodeVersion >>= fun entries => pure ⟨entries⟩ := by
  unfold Manifest.decode
  rw [foldl_insertByKey_eq perm ascending]

theorem decode_eq_ok : Manifest.decode raw = .ok m ↔ List.Forall₂ VersionMeans sorted m.entries := by
  rw [decode_eq_of_sorted perm ascending, except_bind_eq_ok]
  constructor
  · rintro ⟨entries, checked, made⟩
    obtain rfl := except_pure_eq_ok.mp made
    exact (mapM_except_eq_ok.mp checked).imp fun _ _ => decodeVersion_eq_ok.mp
  · intro means
    exact ⟨m.entries, mapM_except_eq_ok.mpr (means.imp fun _ _ => decodeVersion_eq_ok.mpr), rfl⟩

theorem decodes_of_decode_eq_ok (ok : Manifest.decode raw = .ok m) :
    ∀ c ∈ sorted.actions, c.action.Decodes := by
  rw [decode_eq_of_sorted perm ascending] at ok
  obtain ⟨entries, checked, -⟩ := except_bind_eq_ok.mp ok
  intro c listed
  obtain ⟨y, inSorted, inY⟩ := List.mem_flatMap.mp listed
  obtain ⟨entry, made⟩ := exists_of_mapM_eq_ok checked y inSorted
  exact decodes_of_decodeVersion_eq_ok made c inY

/-- Reading fails at the first action, in the order checked, that does not decode. -/
theorem decode_eq_error (failed : Manifest.decode raw = .error err) :
    ∃ pre c post, sorted.actions = pre ++ c :: post ∧ (∀ y ∈ pre, y.action.Decodes) ∧
      ¬ c.action.Decodes ∧ err = c.error := by
  rw [decode_eq_of_sorted perm ascending] at failed
  rcases except_bind_eq_error.mp failed with failed | ⟨entries, -, made⟩
  · obtain ⟨early, x, late, rfl, fine, failedHere⟩ := mapM_except_eq_error failed
    obtain ⟨pre, c, post, split, before, refused, rfl⟩ := decodeVersion_eq_error failedHere
    refine ⟨RawManifest.actions early ++ pre, c, post ++ RawManifest.actions late, ?_, ?_,
      refused, rfl⟩
    · simp [RawManifest.actions, split]
    · intro y held
      rcases List.mem_append.mp held with inEarly | inPre
      · -- the versions before it all decode
        obtain ⟨version, inVersions, inVersion⟩ := List.mem_flatMap.mp inEarly
        obtain ⟨entry, made⟩ := fine version inVersions
        exact decodes_of_decodeVersion_eq_ok made y inVersion
      · exact before y inPre
  · simp at made

end Sorted

end Manifest

/-- A manifest is read exactly when every action decodes. It then lists the versions in
ascending order, each list decoded action by action in place; otherwise its error is that of the
first action that does not decode, versions ascending, `up` before `down`, by position. -/
theorem Manifest.parse_reads_every_action (text : String) (raw sorted : RawManifest)
    (read : RawManifest.read? text = some raw) (perm : sorted.Perm raw)
    (ascending : (sorted.map Prod.fst).Pairwise (· < ·)) :
    ((∃ m, Manifest.parse text = .ok m) ↔ ∀ c ∈ sorted.actions, c.action.Decodes) ∧
      (∀ m, Manifest.parse text = .ok m ↔ List.Forall₂ VersionMeans sorted m.entries) ∧
      ∀ err, Manifest.parse text = .error err ↔
        ∃ pre c post, sorted.actions = pre ++ c :: post ∧ (∀ y ∈ pre, y.action.Decodes) ∧
          ¬ c.action.Decodes ∧ err = c.error := by
  have parsed : Manifest.parse text = Manifest.decode raw := by simp [Manifest.parse, read]
  rw [parsed]
  refine ⟨⟨fun ⟨_, decoded⟩ => Manifest.decodes_of_decode_eq_ok perm ascending decoded,
    fun all => ?_⟩, fun _ => Manifest.decode_eq_ok perm ascending,
    fun err => ⟨Manifest.decode_eq_error perm ascending, ?_⟩⟩
  · -- no action fails, so reading cannot fail
    cases decoded : Manifest.decode raw with
    | ok m => exact ⟨m, rfl⟩
    | error err =>
      obtain ⟨_, c, _, split, -, refused, -⟩ := Manifest.decode_eq_error perm ascending decoded
      exact absurd (all c (by simp [split])) refused
  · rintro ⟨pre, c, post, split, before, refused, rfl⟩
    cases decoded : Manifest.decode raw with
    | ok m =>
      exact absurd (Manifest.decodes_of_decode_eq_ok perm ascending decoded c (by simp [split]))
        refused
    | error err =>
      obtain ⟨pre', c', post', split', before', refused', rfl⟩ :=
        Manifest.decode_eq_error perm ascending decoded
      -- both are the first action, in the order checked, that does not decode
      rw [(first_failing_unique (split'.symm.trans split) before' refused' before refused).2]

/-- A manifest written with its later version first: `0002` has an unknown keyword, `0001` a
`create` in another case with blanks around it and a `drop` with a location. -/
def laterVersionFirst : String :=
  "[[0002.up]]\nname = \"a\"\ntype = \"table\"\naction = \"alter\"\n\n" ++
  "[[0001.up]]\nname = \"users\"\ntype = \"table\"\naction = \" Create \"\n\n" ++
  "[[0001.down]]\nname = \"users\"\ntype = \"table\"\naction = \"drop\"\nlocation = \"x.sql\"\n"

/-- Its error is that of the `drop` of `0001`, though `0002` comes first in the text. -/
theorem laterVersionFirst_fails_at_drop :
    RawManifest.read? laterVersionFirst = some
        [("0002", [⟨"a", "table", "alter", none⟩], []),
          ("0001", [⟨"users", "table", " Create ", none⟩],
            [⟨"users", "table", "drop", some "x.sql"⟩])] ∧
      Manifest.parse laterVersionFirst =
        .error (ActionAt.error ⟨"0001", .down, 0, ⟨"users", "table", "drop", some "x.sql"⟩⟩) := by
  have read : RawManifest.read? laterVersionFirst = some
      [("0002", [⟨"a", "table", "alter", none⟩], []),
        ("0001", [⟨"users", "table", " Create ", none⟩],
          [⟨"users", "table", "drop", some "x.sql"⟩])] := by
    decide +kernel
  refine ⟨read, ((Manifest.parse_reads_every_action laterVersionFirst _
    [("0001", [⟨"users", "table", " Create ", none⟩], [⟨"users", "table", "drop", some "x.sql"⟩]),
      ("0002", [⟨"a", "table", "alter", none⟩], [])] read (by decide +kernel) (by decide +kernel)).2.2 _).mpr
    ⟨[⟨"0001", .up, 0, ⟨"users", "table", " Create ", none⟩⟩], _,
      [⟨"0002", .up, 0, ⟨"a", "table", "alter", none⟩⟩], by decide +kernel, by decide +kernel,
      by decide +kernel, rfl⟩⟩

end Migrator
