import Mathlib
import Migrator.Dialect
import Migrator.Proofs.Header.Words

/-!
Reading a written header back. `Written` is a header as text: `create`, white space, an optional
`or replace`, the type words, an optional `if not exists` and the name, and `Written.Valid` holds
the rules its parts follow. After text with no `create` in it and before text that ends the name,
`detect` finds such a header and gives its type words upper-cased and joined by single spaces,
and its name (`detect_written`).
-/
namespace Migrator

open Text

namespace Header

/-! ## Where a header starts -/

/-- The readings of a text at each of its places, qualified and bare, as `detect` builds them. -/
def readings (cs : List Char) : List (Option Parts × Option Parts) :=
  (typeTable qualifiedName cs).zip (typeTable bareName cs)

theorem length_typeTable (name : List Char → Option (List Char)) (cs : List Char) :
    (typeTable name cs).length = cs.length + 1 := by
  induction cs with
  | nil => rfl
  | cons c cs ih => simp [typeTable_cons, ih]

theorem typeAt_readings (cs : List Char) :
    typeAt (readings cs) = (typeFrom qualifiedName cs).or (typeFrom bareName cs) := by
  cases cs with
  | nil => rfl
  | cons c cs => simp [readings, typeTable_cons, typeAt]

theorem tail_readings (c : Char) (cs : List Char) : (readings (c :: cs)).tail = readings cs := by
  simp [readings, typeTable_cons]

theorem drop_readings : ∀ (k : Nat) (cs : List Char), k ≤ cs.length →
    (readings cs).drop k = readings (cs.drop k)
  | 0, _, _ => rfl
  | _ + 1, [], le => by simp at le
  | k + 1, c :: cs, le => by
    rw [List.drop_succ_cons, ← drop_readings k cs (by simpa using le), ← tail_readings c cs,
      List.drop_tail]

/-- Past the end of a text there is no type to read, as at its end. -/
theorem typeAt_drop_readings (cs : List Char) (k : Nat) :
    typeAt ((readings cs).drop k) = typeAt (readings (cs.drop k)) := by
  by_cases le : k ≤ cs.length
  · rw [drop_readings k cs le]
  · have beyond : (readings cs).drop k = [] := by
      simp [readings, length_typeTable]
      omega
    rw [beyond, List.drop_eq_nil_of_le (by omega)]
    rfl

theorem typeAt_semicolon (more : List Char) : typeAt (readings (';' :: more)) = none := by
  simp [typeAt_readings, typeFrom_semicolon]

/-- The type and name a header declares, read after its `create`: `or replace`, when written,
is read as such, and when not, any reading of the type's first words as `or replace` finds no
type after them. -/
theorem afterCreate_written {z : List Char} (tail : Tail z)
    {replacing types guard : List (String × String)} {found : Parts}
    (replaced : replacing = [] ∨ SpellsKeywords ["or", "replace"] replacing)
    (replaceParts : ∀ p ∈ replacing, Spaced p) (types_ne : types ≠ [])
    (typeParts : ∀ p ∈ types, Spaced p)
    (notOrReplace : ¬ SpellsKeywords ["or", "replace"] (types.take 2))
    (guarded : guard = [] ∨ SpellsKeywords ["if", "not", "exists"] guard)
    (guardParts : ∀ p ∈ guard, Spaced p)
    (typed : typeAt (readings ((wordsText (types ++ guard)).toList ++ z)) = some found) :
    afterCreate ((wordsText (replacing ++ types ++ guard)).toList ++ z)
      (readings ((wordsText (replacing ++ types ++ guard)).toList ++ z)) = some found := by
  have parts : ∀ p ∈ types ++ guard, Spaced p := by
    intro p h
    rcases List.mem_append.mp h with h | h
    exacts [typeParts p h, guardParts p h]
  rcases replaced with rfl | spells
  · simp only [List.nil_append]
    unfold afterCreate
    rw [orReplace_eq_readKeywords]
    cases read : readKeywords ["or", "replace"] ((wordsText (types ++ guard)).toList ++ z) with
    | none => exact typed
    | some n =>
      have none_after : typeAt ((readings ((wordsText (types ++ guard)).toList ++ z)).drop n) =
          none := by
        rw [typeAt_drop_readings]
        rcases readKeywords_stream tail lower_orReplace parts read with
          ⟨ws₁, ws₂, same, spells, _⟩ | ⟨_, more, semicolon⟩
        · -- the first two words would spell `or replace`: not the type's, and not the guard's
          exfalso
          have two : ws₁.length = 2 := spells.length_eq.symm
          have front : (types ++ guard).take 2 = ws₁ := by rw [same, List.take_left' two]
          by_cases long : 2 ≤ types.length
          · rw [List.take_append_of_le_length long] at front
            exact notOrReplace (front ▸ spells)
          · obtain ⟨t, rfl⟩ : ∃ t, types = [t] := by
              match types, types_ne, long with
              | [t], _, _ => exact ⟨t, rfl⟩
              | _ :: _ :: _, _, long => simp at long
            rcases guarded with rfl | guardSpells
            · simp at front
              simp [← front] at two
            · cases guardSpells with
              | cons first _ =>
                rename_i g _
                simp only [List.singleton_append, List.take_succ_cons, List.take_zero] at front
                subst front
                have lengths := (List.forall₂_cons.mp spells).2
                have replaceLength := (List.forall₂_cons.mp lengths).1.1.length_eq
                have ifLength := first.1.length_eq
                simp at replaceLength ifLength
                omega
        · rw [semicolon, typeAt_semicolon]
      simp [none_after, typed]
  · have all : ∀ p ∈ replacing ++ (types ++ guard), Spaced p := by
      intro p h
      rcases List.mem_append.mp h with h | h
      exacts [replaceParts p h, parts p h]
    obtain ⟨n, read, dropped⟩ := readKeywords_spelled tail lower_orReplace spells all
    rw [List.append_assoc]
    unfold afterCreate
    rw [orReplace_eq_readKeywords, read]
    simp [typeAt_drop_readings, dropped, typed]

theorem keyword_spelled {kw u : String} (spelled : Spelled kw u) (rest : List Char) :
    keyword kw.toList (u.toList ++ rest) = some rest := by
  have reads : ∀ {ls cs : List Char}, List.Forall₂ (fun l c => c = l ∨ c = l.toUpper) ls cs →
      keyword ls (cs ++ rest) = some rest := by
    intro ls cs cased
    induction cased with
    | nil => rfl
    | @cons l c ls cs same _ ih =>
      have matched : letterMatches l c = true := by
        rcases same with rfl | rfl <;> simp [letterMatches]
      simp [keyword, matched, ih]
  exact reads spelled

theorem keyword_eq_some {kw cs rest : List Char} (read : keyword kw cs = some rest) :
    ∃ a, cs = a ++ rest ∧ List.Forall₂ (fun l c => letterMatches l c = true) kw a := by
  induction kw generalizing cs with
  | nil => exact ⟨[], by simpa [keyword] using read, .nil⟩
  | cons l kw ih =>
    cases cs with
    | nil => simp [keyword] at read
    | cons c cs =>
      simp only [keyword] at read
      split_ifs at read with matched
      obtain ⟨a, rfl, each⟩ := ih read
      exact ⟨c :: a, rfl, .cons matched each⟩

/-- A header at the front of a text: `create` in either case, white space, then what
`afterCreate` reads, with no word character just before. -/
theorem matchAt_written {prev : Option Char} (edge : ∀ c ∈ prev, isWord c = false)
    {create white : String} {R : List Char} (spelled : Spelled "create" create)
    (white_ne : white ≠ "") (blank : ∀ c ∈ white.toList, isBlank c = true)
    (stop : ∀ c ∈ R.head?, isBlank c = false) :
    matchAt prev (create.toList ++ white.toList ++ R)
      (readings (create.toList ++ white.toList ++ R)) = afterCreate R (readings R) := by
  have notWord : prev.any isWord = false := by
    cases prev with
    | none => rfl
    | some c => simpa using edge c rfl
  have six : create.toList.length = 6 := by simpa using spelled.length_eq.symm
  obtain ⟨taken, _⟩ := takeWhile_append_stop blank stop
  have length_ne : white.toList.length ≠ 0 := by simpa [String.toList_eq_nil_iff] using white_ne
  simp only [matchAt, notWord, Bool.false_eq_true, if_false, List.append_assoc,
    keyword_spelled spelled, taken]
  rw [if_neg length_ne, List.drop_left,
    show "create".length + white.toList.length = (create.toList ++ white.toList).length by
      simp [six]; rfl,
    ← List.append_assoc, drop_readings _ _ (by simp), List.drop_left]

theorem search_found {prev : Option Char} {cs : List Char} {found : Parts} (cs_ne : cs ≠ [])
    (matched : matchAt prev cs (readings cs) = some found) :
    search prev cs (readings cs) = some found := by
  obtain ⟨c, cs, rfl⟩ := List.exists_cons_of_ne_nil cs_ne
  simp [search, matched]

/-- Where no `create` starts, the search moves on. -/
theorem search_skip {P Y : List Char}
    (nothing : ∀ pre suf, P = pre ++ suf → suf ≠ [] → keyword "create".toList (suf ++ Y) = none) :
    ∀ prev, search prev (P ++ Y) (readings (P ++ Y)) = search (P.getLast?.or prev) Y (readings Y) := by
  induction P with
  | nil => intro prev; rfl
  | cons c P ih =>
    intro prev
    have absent : matchAt prev (c :: (P ++ Y)) (readings (c :: (P ++ Y))) = none := by
      have here : keyword "create".toList (c :: (P ++ Y)) = none :=
        nothing [] (c :: P) rfl (by simp)
      unfold matchAt
      rw [here]
      split <;> rfl
    rw [List.cons_append, search, absent, tail_readings,
      ih (fun pre suf same => nothing (c :: pre) suf (by simp [same])) (some c)]
    cases last : P.getLast? <;> simp [List.getLast?_cons, last]

/-! ## Reading a written header back -/

/-- Word characters, at least one. -/
def WordChars (s : String) : Prop := s ≠ "" ∧ ∀ c ∈ s.toList, isWord c = true

instance (s : String) : Decidable (WordChars s) := inferInstanceAs (Decidable (_ ∧ _))

/-- Text that may stand before a header: it holds no `create` in either case and does not end
with a word character. -/
def Plain (p : String) : Prop :=
  (∀ x y z : String, p = x ++ y ++ z → ¬ Spelled "create" y) ∧
    ∀ c ∈ p.toList.getLast?, isWord c = false

/-- How a header's name `n` meets the text `rest` after it: a qualified name `s.x` followed by
nothing or by a character that is not a word character, or a bare name followed by spaces or
tabs and a semicolon. -/
def NameEnds (n rest : String) : Prop :=
  (∃ s x, n = s ++ "." ++ x ∧ WordChars s ∧ WordChars x ∧
    ∀ c ∈ rest.toList.head?, isWord c = false) ∨
  (WordChars n ∧ ∃ b more, rest = b ++ ";" ++ more ∧ ∀ c ∈ b.toList, c = ' ' ∨ c = '\t')

/-- An object header as written: `create` and white space, then words each followed by a gap
(`or replace` or none, the type words, `if not exists` or none), then the name. -/
structure Written where
  create : String
  white : String
  orReplace : List (String × String)
  typeWords : List (String × String)
  ifNotExists : List (String × String)
  name : String

namespace Written

/-- The text of a written header. -/
def text (h : Written) : String :=
  h.create ++ h.white ++ wordsText (h.orReplace ++ h.typeWords ++ h.ifNotExists) ++ h.name

/-- The type a written header declares: its words upper-cased, one space between them. -/
def objectType (h : Written) : String := " ".intercalate (h.typeWords.map fun p => p.1.toUpper)

/-- A header written by the rules: keywords in either case, and one or more type words of
letters that neither begin with `or replace` nor end with `if not exists`. -/
structure Valid (h : Written) : Prop where
  create : Spelled "create" h.create
  white : h.white ≠ "" ∧ ∀ c ∈ h.white.toList, isBlank c = true
  orReplace : h.orReplace = [] ∨ SpellsKeywords ["or", "replace"] h.orReplace
  typeWords : h.typeWords ≠ [] ∧ ∀ p ∈ h.typeWords, Spaced p
  notOrReplace : ¬ SpellsKeywords ["or", "replace"] (h.typeWords.take 2)
  notIfNotExists :
    ¬ SpellsKeywords ["if", "not", "exists"] (h.typeWords.drop (h.typeWords.length - 3))
  ifNotExists : h.ifNotExists = [] ∨ SpellsKeywords ["if", "not", "exists"] h.ifNotExists

end Written

/-- Keywords spelled with their gaps are words of letters with their gaps. -/
theorem spaced_of_optional {kws : List String} {ws : List (String × String)}
    (lower : ∀ kw ∈ kws, ∀ l ∈ kw.toList, l.isLower = true) (nonempty : ∀ kw ∈ kws, kw ≠ "")
    (given : ws = [] ∨ SpellsKeywords kws ws) : ∀ p ∈ ws, Spaced p := by
  rcases given with rfl | spells
  · simp
  · unfold SpellsKeywords at spells
    induction spells with
    | nil => simp
    | @cons kw p kws ws head _ ih =>
      intro q mem
      rcases List.mem_cons.mp mem with rfl | mem
      · exact ⟨head.1.letterWord (lower kw (by simp)) (nonempty kw (by simp)), head.2⟩
      · exact ih (fun k h => lower k (by simp [h])) (fun k h => nonempty k (by simp [h])) q mem

theorem afterType_semicolon {name : List Char → Option (List Char)} (stops : Stops name)
    {b more : List Char} (gap : ∀ c ∈ b, isSpaceTab c = true) :
    afterType name (b ++ ';' :: more) = none := by
  have semicolon : isSpaceTab ';' = false := by decide
  cases b with
  | nil => exact afterType_of_head (by simp [semicolon])
  | cons c b =>
    rw [afterType_gap (by simp) gap (by simp [semicolon]), ifNotExists_eq_readKeywords,
      readKeywords_semicolon lower_ifNotExists (by simp), stops.semicolon]
    rfl

/-- The name and what follows it are a tail that the walk along the header's words can end in. -/
theorem NameEnds.tail {n rest : String} (ends : NameEnds n rest) :
    Tail (n.toList ++ rest.toList) := by
  rcases ends with ⟨s, x, rfl, ⟨s_ne, sWord⟩, -, -⟩ | ⟨⟨n_ne, nWord⟩, b, more, rfl, gap⟩
  · have chars : (s ++ "." ++ x).toList ++ rest.toList =
        s.toList ++ '.' :: (x.toList ++ rest.toList) := by simp
    rw [chars]
    refine ⟨fun d h => ?_, fun lower read => ?_⟩
    · rw [List.head?_append_of_ne_nil _ (toList_ne_nil s_ne)] at h
      exact sWord d (List.mem_of_mem_head? h)
    · rw [keywordBlanks_stop lower sWord (by decide) (by decide)] at read
      cases read
  · have chars : n.toList ++ (b ++ ";" ++ more).toList =
        n.toList ++ b.toList ++ ';' :: more.toList := by simp
    rw [chars]
    refine ⟨fun d h => ?_, fun lower read => ?_⟩
    · rw [List.append_assoc, List.head?_append_of_ne_nil _ (toList_ne_nil n_ne)] at h
      exact nWord d (List.mem_of_mem_head? h)
    · have spaced : ∀ c ∈ b.toList, isSpaceTab c = true := fun c h => isSpaceTab_iff.mpr (gap c h)
      cases bs : b.toList with
      | nil =>
        rw [bs, List.append_nil, keywordBlanks_stop lower nWord (by decide) (by decide)] at read
        cases read
      | cons d ds =>
        rw [bs] at read spaced
        have length := keywordBlanks_gap lower (fun c h => isSpaceTab_of_isWord (nWord c h))
          (by simp) spaced (by simp; decide) read
        exact ⟨more.toList, by rw [length, ← List.length_append, List.drop_left]⟩

/-- The walk along a written header's words finds its type words and its name, with the
qualified reading where the name is qualified and the bare one where it is bare. -/
theorem typeAt_written {h : Written} {rest : String} (valid : h.Valid)
    (ends : NameEnds h.name rest) :
    typeAt (readings ((wordsText (h.typeWords ++ h.ifNotExists)).toList ++
      (h.name.toList ++ rest.toList))) = some (typeChars h.typeWords, h.name.toList) := by
  have tail := ends.tail
  have guardParts := spaced_of_optional lower_ifNotExists (by simp) valid.ifNotExists
  rw [typeAt_readings]
  rcases ends with ⟨s, x, same, ⟨s_ne, sWord⟩, ⟨x_ne, xWord⟩, stop⟩ |
    ⟨⟨n_ne, nWord⟩, b, more, rfl, gap⟩
  · have named : qualifiedName (h.name.toList ++ rest.toList) = some h.name.toList := by
      rw [same]
      simpa using qualifiedName_qualified (toList_ne_nil s_ne) sWord (toList_ne_nil x_ne) xWord stop
    rw [typeFrom_types tail stops_qualifiedName named valid.ifNotExists guardParts valid.typeWords.1
      valid.typeWords.2 valid.notIfNotExists]
    rfl
  · have spaced : ∀ c ∈ b.toList, isSpaceTab c = true := fun c h => isSpaceTab_iff.mpr (gap c h)
    have chars : h.name.toList ++ (b ++ ";" ++ more).toList =
        h.name.toList ++ b.toList ++ ';' :: more.toList := by simp
    have unqualified : qualifiedName (h.name.toList ++ (b ++ ";" ++ more).toList) = none := by
      rw [chars]
      exact qualifiedName_bare nWord spaced
    have noType : typeFrom qualifiedName (h.name.toList ++ (b ++ ";" ++ more).toList) = none := by
      rw [chars, List.append_assoc]
      exact typeFrom_words_none nWord (afterType_semicolon stops_qualifiedName spaced)
        (by rw [typeFrom_gap spaced, typeFrom_semicolon]; rfl)
    have named : bareName (h.name.toList ++ (b ++ ";" ++ more).toList) = some h.name.toList := by
      rw [chars]
      exact bareName_bare (toList_ne_nil n_ne) nWord spaced
    have allParts : ∀ p ∈ h.typeWords ++ h.ifNotExists, Spaced p := by
      intro p mem
      rcases List.mem_append.mp mem with mem | mem
      exacts [valid.typeWords.2 p mem, guardParts p mem]
    rw [typeFrom_stream_none tail stops_qualifiedName unqualified noType allParts,
      typeFrom_types tail stops_bareName named valid.ifNotExists guardParts valid.typeWords.1
        valid.typeWords.2 valid.notIfNotExists]
    rfl


/-- No `create` starts inside text that may stand before a header, even where the `create`
would run on past its end. -/
theorem Plain.no_create {p : String} (plain : Plain p) (Y : List Char) :
    ∀ pre suf, p.toList = pre ++ suf → suf ≠ [] → keyword "create".toList (suf ++ Y) = none := by
  intro pre suf split suf_ne
  cases read : keyword "create".toList (suf ++ Y) with
  | none => rfl
  | some r =>
    exfalso
    obtain ⟨a, same, matched⟩ := keyword_eq_some read
    -- `create` has no letter that a non-ASCII character folds to
    have plainLetters : ∀ l ∈ "create".toList, l ≠ 's' ∧ l ≠ 'k' := by simp
    have spelled : Spelled "create" (String.ofList a) := by
      simpa [Spelled] using ((List.forall₂_and_left _ _).mpr ⟨plainLetters, matched⟩).imp
        fun l c ⟨⟨ns, nk⟩, m⟩ => by simpa [letterMatches, ns, nk] using m
    have letters := (spelled.letterWord (by simp) (by simp)).2
    rw [String.toList_ofList] at letters
    rcases List.append_eq_append_iff.mp same with ⟨a', rfl, _⟩ | ⟨c', rfl, _⟩
    · -- the `create` would cover the last character of `p`, which is no word character
      obtain ⟨d, last⟩ := Option.isSome_iff_exists.mp (List.getLast?_isSome.mpr suf_ne)
      have ends : p.toList.getLast? = some d := by
        rw [split, List.getLast?_append_of_ne_nil _ suf_ne, last]
      have word := isWord_of_isAlpha (letters d (List.mem_append_left _
        (List.mem_of_getLast? last)))
      simp [plain.2 d ends] at word
    · exact plain.1 (String.ofList pre) (String.ofList a) (String.ofList c')
        (by apply String.toList_injective; simp [split]) spelled

theorem trim_of_ends {s : String} (first : ∀ c ∈ s.toList.head?, isBlank c = false)
    (last : ∀ c ∈ s.toList.getLast?, isBlank c = false) : trim s = s := by
  rw [trim, trimChars_of_ends first last, String.ofList_toList]

/-- The type a header's words make, as `detect` normalizes it. -/
theorem normalizeType_typeChars {types : List (String × String)} (types_ne : types ≠ [])
    (parts : ∀ p ∈ types, Spaced p) :
    normalizeType (trim (String.ofList (typeChars types))) =
      " ".intercalate (types.map fun p => p.1.toUpper) := by
  obtain ⟨first, last⟩ := typeChars_ends parts
  rw [trim_of_ends (by simpa using fun c h => isBlank_of_isAlpha (first c h))
    (by simpa using fun c h => isBlank_of_isAlpha (last c h)), normalizeType,
    words_typeChars parts types_ne, List.map_map]
  congr 1
  exact List.map_congr_left fun p mem => toUpper_of_letters (parts p mem).1.2

theorem NameEnds.name_ends {n rest : String} (ends : NameEnds n rest) :
    n ≠ "" ∧ (∀ c ∈ n.toList.head?, isWord c = true) ∧
      ∀ c ∈ n.toList.getLast?, isWord c = true := by
  rcases ends with ⟨s, x, rfl, ⟨s_ne, sWord⟩, ⟨x_ne, xWord⟩, -⟩ | ⟨⟨n_ne, nWord⟩, -⟩
  · refine ⟨by simp [s_ne], fun c h => sWord c ?_, fun c h => xWord c ?_⟩
    · rw [String.toList_append, String.toList_append, List.append_assoc,
        List.head?_append_of_ne_nil _ (toList_ne_nil s_ne)] at h
      exact List.mem_of_mem_head? h
    · rw [String.toList_append, List.getLast?_append_of_ne_nil _ (toList_ne_nil x_ne)] at h
      exact List.mem_of_mem_getLast? h
  · exact ⟨n_ne, fun c h => nWord c (List.mem_of_mem_head? h),
      fun c h => nWord c (List.mem_of_mem_getLast? h)⟩

theorem Written.objectType_ne {h : Written} (valid : h.Valid) : h.objectType ≠ "" := by
  obtain ⟨p, ws, same⟩ := List.exists_cons_of_ne_nil valid.typeWords.1
  have word_ne : p.1.toUpper ≠ "" := by
    simpa [String.toUpper] using (valid.typeWords.2 p (by simp [same])).1.1
  rw [Written.objectType, same, List.map_cons]
  cases ws with
  | nil => simpa using word_ne
  | cons q ws => simp [String.intercalate_cons_of_ne_nil, word_ne]

/-- A header written by the rules, after text that holds no `create` and before text that ends its
name, is detected with its type words upper-cased and joined by single spaces, and its name. -/
theorem detect_written {p rest : String} {h : Written} (plain : Plain p) (valid : h.Valid)
    (ends : NameEnds h.name rest) :
    Engine.postgres.detect (p ++ h.text ++ rest) = some ⟨h.objectType, h.name⟩ := by
  have tail := ends.tail
  have replaceParts := spaced_of_optional lower_orReplace (by simp) valid.orReplace
  have guardParts := spaced_of_optional lower_ifNotExists (by simp) valid.ifNotExists
  have allParts : ∀ q ∈ h.orReplace ++ h.typeWords ++ h.ifNotExists, Spaced q := by
    intro q mem
    simp only [List.mem_append] at mem
    rcases mem with (mem | mem) | mem
    exacts [replaceParts q mem, valid.typeWords.2 q mem, guardParts q mem]
  have created := afterCreate_written tail valid.orReplace replaceParts valid.typeWords.1
    valid.typeWords.2 valid.notOrReplace valid.ifNotExists guardParts (typeAt_written valid ends)
  have stop := fun c mem => isBlank_of_isWord (head_stream tail allParts c mem)
  have create_ne : h.create.toList ≠ [] := by
    have six := valid.create.length_eq
    simp at six
    exact List.ne_nil_of_length_pos (by omega)
  have text : (p ++ h.text ++ rest).toList = p.toList ++ (h.create.toList ++ h.white.toList ++
      ((wordsText (h.orReplace ++ h.typeWords ++ h.ifNotExists)).toList ++
        (h.name.toList ++ rest.toList))) := by
    simp [Written.text]
  have searched : search none (p ++ h.text ++ rest).toList (readings (p ++ h.text ++ rest).toList) =
      some (typeChars h.typeWords, h.name.toList) := by
    rw [text, search_skip (plain.no_create _) none, Option.or_none]
    exact search_found (by simp [create_ne])
      (by rw [matchAt_written plain.2 valid.create valid.white.1 valid.white.2 stop]; exact created)
  obtain ⟨name_ne, first, last⟩ := ends.name_ends
  simp only [readings] at searched
  simp only [Engine.detect, detect, searched, normalizeType_typeChars valid.typeWords.1 valid.typeWords.2, String.ofList_toList,
    trim_of_ends (fun c h => isBlank_of_isWord (first c h)) (fun c h => isBlank_of_isWord (last c h))]
  have named := And.intro (Written.objectType_ne valid) name_ne
  rw [Written.objectType] at named
  rw [if_neg (by simpa using named)]
  rfl


/-- `Create or REPLACE external  Table if NOT exists util.t`, on a new line after a semicolon. -/
def sampleHeader : Written where
  create := "Create"
  white := "\n "
  orReplace := [("or", " "), ("REPLACE", "\t")]
  typeWords := [("external", "  "), ("Table", " ")]
  ifNotExists := [("if", " "), ("NOT", " "), ("exists", " ")]
  name := "util.t"

theorem sampleHeader_detected :
    Plain ";" ∧ sampleHeader.Valid ∧ NameEnds sampleHeader.name " (id INT);" ∧
      Engine.postgres.detect (";" ++ sampleHeader.text ++ " (id INT);") =
        some ⟨"EXTERNAL TABLE", "util.t"⟩ := by
  have plain : Plain ";" := by
    refine ⟨fun x y z same spelled => ?_, by simp; decide⟩
    have lengths := congrArg (fun s : String => s.toList.length) same
    have six := spelled.length_eq
    simp at lengths six
    omega
  have valid : sampleHeader.Valid := by
    constructor
    case create => simp [sampleHeader, Spelled]
    case white => simp [sampleHeader]; decide
    case orReplace => simp [sampleHeader, SpellsKeywords, Spelled, Gap]
    case typeWords => simp [sampleHeader, Spaced, LetterWord, Gap]
    case notOrReplace => simp [sampleHeader, SpellsKeywords, Spelled]
    case notIfNotExists => simp [sampleHeader, SpellsKeywords]
    case ifNotExists => simp [sampleHeader, SpellsKeywords, Spelled, Gap]
  have ends : NameEnds sampleHeader.name " (id INT);" := by
    refine .inl ⟨"util", "t", rfl, ?_, ?_, ?_⟩ <;> simp [WordChars] <;> decide
  have type : sampleHeader.objectType = "EXTERNAL TABLE" := by cbv
  exact ⟨plain, valid, ends, type ▸ detect_written plain valid ends⟩

end Header

end Migrator
