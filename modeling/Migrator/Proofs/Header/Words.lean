import Mathlib
import Migrator.Proofs.Header.Readers

/-!
Headers as words and gaps. A written header is keywords and type words, each a word of ASCII
letters followed by spaces or tabs, and then a tail: the name and what follows it. Along such
words `or replace` and `if not exists` are read only where words spell them
(`readKeywords_stream`), and the walk of `typeFrom` ends after the last type word
(`typeFrom_types`), or reads nothing where the name reader reads nothing in the tail
(`typeFrom_stream_none`).
-/
namespace Migrator

open Text

namespace Header

/-! ## Headers as written -/

/-- `s` is the keyword `kw`, given in lower case, with each letter written in either case. -/
def Spelled (kw s : String) : Prop :=
  List.Forall₂ (fun l c => c = l ∨ c = l.toUpper) kw.toList s.toList

/-- A word of ASCII letters. -/
def LetterWord (u : String) : Prop := u ≠ "" ∧ ∀ c ∈ u.toList, c.isAlpha = true

/-- A run of spaces and tabs. -/
def Gap (g : String) : Prop := g ≠ "" ∧ ∀ c ∈ g.toList, c = ' ' ∨ c = '\t'

/-- A word of letters and the gap after it. -/
def Spaced (p : String × String) : Prop := LetterWord p.1 ∧ Gap p.2

/-- Words spelling the keywords `kws` in order, each with its gap. -/
def SpellsKeywords (kws : List String) (ws : List (String × String)) : Prop :=
  List.Forall₂ (fun kw p => Spelled kw p.1 ∧ Gap p.2) kws ws

instance (kw s : String) : Decidable (Spelled kw s) :=
  inferInstanceAs (Decidable (List.Forall₂ _ _ _))

instance (u : String) : Decidable (LetterWord u) := inferInstanceAs (Decidable (_ ∧ _))

instance (g : String) : Decidable (Gap g) := inferInstanceAs (Decidable (_ ∧ _))

instance (p : String × String) : Decidable (Spaced p) := inferInstanceAs (Decidable (_ ∧ _))

instance (kws : List String) (ws : List (String × String)) : Decidable (SpellsKeywords kws ws) :=
  inferInstanceAs (Decidable (List.Forall₂ _ _ _))

/-- Words, each followed by its gap. -/
def wordsText (ws : List (String × String)) : String := String.join (ws.map fun p => p.1 ++ p.2)

@[simp] theorem toList_wordsText_nil : (wordsText []).toList = [] := rfl

theorem toList_wordsText_cons (p : String × String) (ws : List (String × String)) :
    (wordsText (p :: ws)).toList = p.1.toList ++ p.2.toList ++ (wordsText ws).toList := by
  simp [wordsText]

theorem toList_ne_nil {s : String} (ne : s ≠ "") : s.toList ≠ [] :=
  fun empty => ne (String.toList_eq_nil_iff.mp empty)

theorem LetterWord.chars {u : String} (word : LetterWord u) :
    u.toList ≠ [] ∧ ∀ c ∈ u.toList, c.isAlpha = true :=
  ⟨toList_ne_nil word.1, word.2⟩

theorem Gap.chars {g : String} (gap : Gap g) :
    g.toList ≠ [] ∧ ∀ c ∈ g.toList, isSpaceTab c = true :=
  ⟨toList_ne_nil gap.1, fun c h => isSpaceTab_iff.mpr (gap.2 c h)⟩

/-- A keyword spelled in either case is a word of letters. -/
theorem Spelled.letterWord {kw u : String} (lower : ∀ l ∈ kw.toList, l.isLower = true)
    (kw_ne : kw ≠ "") (spelled : Spelled kw u) : LetterWord u := by
  refine ⟨fun empty => kw_ne ?_, ?_⟩
  · subst empty
    simpa [String.toList_eq_nil_iff] using spelled.length_eq
  · have letters : ∀ {ls cs : List Char}, (∀ l ∈ ls, l.isLower = true) →
        List.Forall₂ (fun l c => c = l ∨ c = l.toUpper) ls cs → ∀ c ∈ cs, c.isAlpha = true := by
      intro ls cs low cased
      induction cased with
      | nil => simp
      | @cons l c ls cs same _ ih =>
        intro x mem
        rcases List.mem_cons.mp mem with rfl | mem
        · exact isAlpha_of_cased (low l (by simp)) same
        · exact ih (fun l h => low l (by simp [h])) x mem
    exact letters lower spelled


/-! ## Walking along the words of a header -/

/-- Reads the keywords `kws` in order, each followed by blanks, and gives the length read. -/
def readKeywords : List String → List Char → Option Nat
  | [], _ => some 0
  | kw :: kws, cs =>
    (keywordBlanks kw.toList cs).bind fun n => (readKeywords kws (cs.drop n)).map (n + ·)

theorem orReplace_eq_readKeywords (cs : List Char) :
    orReplace cs = readKeywords ["or", "replace"] cs := by
  simp only [orReplace, readKeywords]
  cases keywordBlanks "or".toList cs with
  | none => rfl
  | some n =>
    simp only [Option.bind_some]
    cases keywordBlanks "replace".toList (cs.drop n) with
    | none => rfl
    | some m => rfl

theorem ifNotExists_eq_readKeywords (cs : List Char) :
    ifNotExists cs = readKeywords ["if", "not", "exists"] cs := by
  simp only [ifNotExists, readKeywords]
  cases keywordBlanks "if".toList cs with
  | none => rfl
  | some n =>
    simp only [Option.bind_some]
    cases keywordBlanks "not".toList (cs.drop n) with
    | none => rfl
    | some m =>
      simp only [Option.bind_some, List.drop_drop, Option.map_map]
      cases keywordBlanks "exists".toList (cs.drop (n + m)) with
      | none => rfl
      | some k =>
        simp only [Option.map_some, Option.bind_some, Function.comp_apply]
        congr 1
        omega

theorem drop_stream {z : List Char} (p : String × String) (ws : List (String × String)) :
    ((wordsText (p :: ws)).toList ++ z).drop (p.1.toList.length + p.2.toList.length) =
      (wordsText ws).toList ++ z := by
  rw [toList_wordsText_cons, List.append_assoc (p.1.toList ++ p.2.toList),
    List.drop_left' (by simp)]

theorem readKeywords_semicolon {kws : List String}
    (lower : ∀ kw ∈ kws, ∀ l ∈ kw.toList, l.isLower = true) (kws_ne : kws ≠ [])
    (more : List Char) : readKeywords kws (';' :: more) = none := by
  obtain ⟨kw, kws, rfl⟩ := List.exists_cons_of_ne_nil kws_ne
  have stop : keywordBlanks kw.toList (';' :: more) = none :=
    keywordBlanks_stop (lower kw (by simp)) (v := []) (by simp) (by decide) (by decide)
  simp [readKeywords, stop]

/-- What may follow the words of a header: it starts with a word character, and a keyword read
there with the blanks after it leaves a semicolon. -/
structure Tail (z : List Char) : Prop where
  head : ∀ c ∈ z.head?, isWord c = true
  keyword : ∀ {kw : List Char} {n : Nat}, (∀ l ∈ kw, l.isLower = true) →
    keywordBlanks kw z = some n → ∃ more, z.drop n = ';' :: more

section Stream

variable {z : List Char} (tail : Tail z)
include tail

theorem head_stream {ws : List (String × String)} (parts : ∀ p ∈ ws, Spaced p) :
    ∀ c ∈ ((wordsText ws).toList ++ z).head?, isWord c = true := by
  cases ws with
  | nil => simpa [wordsText] using tail.head
  | cons p ws =>
    obtain ⟨u_ne, letters⟩ := (parts p (by simp)).1.chars
    obtain ⟨c, u, same⟩ := List.exists_cons_of_ne_nil u_ne
    rw [toList_wordsText_cons, same]
    simpa using isWord_of_isAlpha (letters c (by simp [same]))

theorem keywordBlanks_stream {kw : String} (lower : ∀ l ∈ kw.toList, l.isLower = true)
    {p : String × String} {ws : List (String × String)} (parts : ∀ q ∈ p :: ws, Spaced q) :
    keywordBlanks kw.toList ((wordsText (p :: ws)).toList ++ z) =
      if Spelled kw p.1 then some (p.1.toList.length + p.2.toList.length) else none := by
  obtain ⟨⟨_, letters⟩, gap_ne, gap⟩ :=
    And.intro (parts p (by simp)).1.chars (parts p (by simp)).2.chars
  have next : ∀ c ∈ ((wordsText ws).toList ++ z).head?, isWord c = true :=
    head_stream tail (fun q h => parts q (by simp [h]))
  rw [toList_wordsText_cons, List.append_assoc,
    keywordBlanks_word lower letters gap_ne gap (fun c h => isSpaceTab_of_isWord (next c h))]
  rfl

theorem name_stream {name : List Char → Option (List Char)} (stops : Stops name)
    {p : String × String} {ws : List (String × String)} (parts : ∀ q ∈ p :: ws, Spaced q) :
    name ((wordsText (p :: ws)).toList ++ z) = none := by
  obtain ⟨⟨_, letters⟩, gap_ne, gap⟩ :=
    And.intro (parts p (by simp)).1.chars (parts p (by simp)).2.chars
  rw [toList_wordsText_cons, List.append_assoc]
  exact stops.word (fun c h => isWord_of_isAlpha (letters c h)) gap_ne gap
    (head_stream tail (fun q h => parts q (by simp [h])))

/-- Keywords read along words and what follows them: either they are the first words, spelled,
and reading stops after them, or the words run out one keyword early and the last keyword is read
in the tail, before its semicolon. -/
theorem readKeywords_stream {kws : List String}
    (lower : ∀ kw ∈ kws, ∀ l ∈ kw.toList, l.isLower = true) :
    ∀ {ws : List (String × String)} {n : Nat}, (∀ p ∈ ws, Spaced p) →
      readKeywords kws ((wordsText ws).toList ++ z) = some n →
      (∃ ws₁ ws₂, ws = ws₁ ++ ws₂ ∧ SpellsKeywords kws ws₁ ∧
        ((wordsText ws).toList ++ z).drop n = (wordsText ws₂).toList ++ z) ∨
      (ws.length + 1 = kws.length ∧ ∃ more, ((wordsText ws).toList ++ z).drop n = ';' :: more) := by
  induction kws with
  | nil =>
    intro ws n _ read
    obtain rfl : 0 = n := by simpa [readKeywords] using read
    exact .inl ⟨[], ws, rfl, .nil, by simp⟩
  | cons kw kws ih =>
    intro ws n parts read
    obtain ⟨n₁, first, rest⟩ := Option.bind_eq_some_iff.mp read
    obtain ⟨n₂, later, rfl⟩ := Option.map_eq_some_iff.mp rest
    cases ws with
    | nil =>
      obtain ⟨more, semicolon⟩ := tail.keyword (lower kw (by simp)) (by simpa [wordsText] using first)
      cases kws with
      | nil =>
        obtain rfl : 0 = n₂ := by simpa [readKeywords] using later
        exact .inr ⟨rfl, more, by simpa [wordsText] using semicolon⟩
      | cons kw' kws =>
        rw [show (wordsText []).toList ++ z = z by simp [wordsText], semicolon,
          readKeywords_semicolon (fun k h => lower k (by simp [h])) (by simp)] at later
        cases later
    | cons p ws =>
      rw [keywordBlanks_stream tail (lower kw (by simp)) parts] at first
      split_ifs at first with spelled
      cases first
      rw [drop_stream] at later
      rcases ih (fun k h => lower k (by simp [h])) (fun q h => parts q (by simp [h])) later with
        ⟨ws₁, ws₂, rfl, spells, dropped⟩ | ⟨lengths, more, semicolon⟩
      · refine .inl ⟨p :: ws₁, ws₂, rfl, .cons ⟨spelled, (parts p (by simp)).2⟩ spells, ?_⟩
        rw [← List.drop_drop, drop_stream, dropped]
      · refine .inr ⟨by simpa using lengths, more, ?_⟩
        rw [← List.drop_drop, drop_stream, semicolon]

/-- Words that spell the keywords are read as such. -/
theorem readKeywords_spelled {kws : List String}
    (lower : ∀ kw ∈ kws, ∀ l ∈ kw.toList, l.isLower = true) :
    ∀ {ws₁ ws₂ : List (String × String)}, SpellsKeywords kws ws₁ → (∀ p ∈ ws₁ ++ ws₂, Spaced p) →
      ∃ n, readKeywords kws ((wordsText (ws₁ ++ ws₂)).toList ++ z) = some n ∧
        ((wordsText (ws₁ ++ ws₂)).toList ++ z).drop n = (wordsText ws₂).toList ++ z := by
  induction kws with
  | nil =>
    intro ws₁ ws₂ spells _
    cases spells
    exact ⟨0, rfl, by simp⟩
  | cons kw kws ih =>
    intro ws₁ ws₂ spells parts
    cases spells with
    | @cons _ p _ ws₁ head spells =>
      obtain ⟨n, read, dropped⟩ := @ih (fun k h => lower k (by simp [h])) ws₁ ws₂ spells
        (fun q h => parts q (by simp [h]))
      refine ⟨p.1.toList.length + p.2.toList.length + n, ?_, ?_⟩
      · rw [List.cons_append] at parts ⊢
        simp only [readKeywords, keywordBlanks_stream tail (lower kw (by simp)) parts, head.1,
          if_true, Option.bind_some, drop_stream, read, Option.map_some]
      · rw [List.cons_append, ← List.drop_drop, drop_stream, dropped]

end Stream


theorem lower_orReplace : ∀ kw ∈ ["or", "replace"], ∀ l ∈ kw.toList, l.isLower = true := by
  simp

theorem lower_ifNotExists :
    ∀ kw ∈ ["if", "not", "exists"], ∀ l ∈ kw.toList, l.isLower = true := by
  simp

/-- The characters of the type words with the gaps between them, the last gap left out. -/
def typeChars : List (String × String) → List Char
  | [] => []
  | [p] => p.1.toList
  | p :: ws => p.1.toList ++ p.2.toList ++ typeChars ws

theorem typeChars_single (p : String × String) : typeChars [p] = p.1.toList := rfl

theorem typeChars_cons_cons (p q : String × String) (ws : List (String × String)) :
    typeChars (p :: q :: ws) = p.1.toList ++ p.2.toList ++ typeChars (q :: ws) := rfl

theorem typeFrom_stream_cons {z : List Char} {name : List Char → Option (List Char)}
    {p : String × String} {ws : List (String × String)}
    (spaced : Spaced p) :
    typeFrom name ((wordsText (p :: ws)).toList ++ z) =
      ((afterType name (p.2.toList ++ ((wordsText ws).toList ++ z))).map
        fun found => (p.1.toList, found)).or
      ((typeFrom name ((wordsText ws).toList ++ z)).map
        fun t => (p.1.toList ++ p.2.toList ++ t.1, t.2)) := by
  obtain ⟨u_ne, letters⟩ := spaced.1.chars
  rw [toList_wordsText_cons, List.append_assoc, List.append_assoc, typeFrom_word u_ne letters,
    typeFrom_gap spaced.2.chars.2]
  simp [Option.map_map, Function.comp_def, List.append_assoc]

theorem ifNotExists_tail {z : List Char} (tail : Tail z) : ifNotExists z = none := by
  rw [ifNotExists_eq_readKeywords]
  cases read : readKeywords ["if", "not", "exists"] ((wordsText []).toList ++ z) with
  | none => simpa [wordsText] using read
  | some n =>
    rcases readKeywords_stream tail lower_ifNotExists (by simp) read with
      ⟨ws₁, ws₂, same, spells, _⟩ | ⟨lengths, _⟩
    · obtain ⟨rfl, rfl⟩ := List.append_eq_nil_iff.mp same.symm
      cases spells
    · simp at lengths

section Walk

variable {z : List Char} (tail : Tail z) {name : List Char → Option (List Char)}
  (stops : Stops name)
include tail stops

/-- After a type word and its gap, the name follows there exactly when the words left are none
or `if not exists`. -/
theorem afterType_stream {g : String} (gap : Gap g) {rest : List (String × String)}
    (parts : ∀ p ∈ rest, Spaced p) :
    afterType name (g.toList ++ ((wordsText rest).toList ++ z)) =
      if rest = [] ∨ SpellsKeywords ["if", "not", "exists"] rest then name z else none := by
  have next := head_stream tail parts
  rw [afterType_gap gap.chars.1 gap.chars.2 (fun c h => isSpaceTab_of_isWord (next c h))]
  cases rest with
  | nil => simp [wordsText, ifNotExists_tail tail]
  | cons p rest =>
    rw [name_stream tail stops parts, Option.or_none, ifNotExists_eq_readKeywords]
    cases read : readKeywords ["if", "not", "exists"] ((wordsText (p :: rest)).toList ++ z) with
    | none =>
      -- words spelling the keywords would have been read
      have unspelled : ¬ SpellsKeywords ["if", "not", "exists"] (p :: rest) := by
        intro spells
        obtain ⟨n, found, _⟩ := @readKeywords_spelled z tail _ lower_ifNotExists (p :: rest) []
          spells (by simpa using parts)
        simp only [List.append_nil] at found
        simp [read] at found
      simp [unspelled]
    | some n =>
      rcases readKeywords_stream tail lower_ifNotExists parts read with
        ⟨ws₁, ws₂, same, spells, dropped⟩ | ⟨lengths, more, semicolon⟩
      · have three : ws₁.length = 3 := spells.length_eq.symm
        rw [Option.bind_some, dropped, same]
        cases ws₂ with
        | nil => simp [spells]
        | cons q ws₂ =>
          have longer : ¬ SpellsKeywords ["if", "not", "exists"] (ws₁ ++ q :: ws₂) :=
            fun spells' => by simpa [three] using spells'.length_eq
          rw [name_stream tail stops (fun r h => parts r (by simp [same, h]))]
          simp [longer]
      · have shorter : ¬ SpellsKeywords ["if", "not", "exists"] (p :: rest) :=
          fun spells => by simpa [← lengths] using spells.length_eq
        simp [semicolon, stops.semicolon, shorter]

/-- A name reader that reads nothing in the tail reads no header along the words either. -/
theorem typeFrom_stream_none (absent : name z = none) (later : typeFrom name z = none) :
    ∀ {ws : List (String × String)}, (∀ p ∈ ws, Spaced p) →
      typeFrom name ((wordsText ws).toList ++ z) = none := by
  intro ws parts
  induction ws with
  | nil => simpa [wordsText] using later
  | cons p ws ih =>
    rw [typeFrom_stream_cons (parts p (by simp)),
      afterType_stream tail stops (parts p (by simp)).2 (fun q h => parts q (by simp [h])),
      ih (fun q h => parts q (by simp [h]))]
    split_ifs <;> simp [absent]

/-- The type is the type words: the walk passes every word before the last one, since the words
left after it are neither none nor `if not exists`, and stops at the last, where the guard or
the name follows. -/
theorem typeFrom_types {found : List Char} (named : name z = some found)
    {guard : List (String × String)} (guarded : guard = [] ∨ SpellsKeywords ["if", "not", "exists"] guard)
    (guardParts : ∀ p ∈ guard, Spaced p) :
    ∀ {types : List (String × String)}, types ≠ [] → (∀ p ∈ types, Spaced p) →
      ¬ SpellsKeywords ["if", "not", "exists"] (types.drop (types.length - 3)) →
      typeFrom name ((wordsText (types ++ guard)).toList ++ z) = some (typeChars types, found) := by
  intro types types_ne parts unguarded
  induction types with
  | nil => contradiction
  | cons p types ih =>
    have allParts : ∀ q ∈ types ++ guard, Spaced q := by
      intro q h
      rcases List.mem_append.mp h with h | h
      exacts [parts q (by simp [h]), guardParts q h]
    rw [List.cons_append, typeFrom_stream_cons (parts p (by simp)),
      afterType_stream tail stops (parts p (by simp)).2 allParts]
    by_cases last : types = []
    · subst last
      simp [guarded, named, typeChars]
    · -- the words left after `p` are more than the guard, so no name follows `p`
      have inner : ¬ (types ++ guard = [] ∨
          SpellsKeywords ["if", "not", "exists"] (types ++ guard)) := by
        rintro (empty | spells)
        · exact last (List.append_eq_nil_iff.mp empty).1
        · rcases guarded with rfl | guardSpells
          · have three := spells.length_eq
            simp only [List.append_nil, List.length_cons, List.length_nil] at three
            apply unguarded
            simpa [← three] using spells
          · have lengths := spells.length_eq
            have three := guardSpells.length_eq
            simp only [List.length_append, List.length_cons, List.length_nil] at lengths three
            exact last (List.eq_nil_of_length_eq_zero (by omega))
      have unguarded' : ¬ SpellsKeywords ["if", "not", "exists"]
          (types.drop (types.length - 3)) := by
        intro spells
        apply unguarded
        by_cases enough : 3 ≤ types.length
        · have : (p :: types).length - 3 = types.length - 3 + 1 := by simp; omega
          rwa [this, List.drop_succ_cons]
        · have := spells.length_eq
          simp at this
          omega
      rw [if_neg inner, ih last (fun q h => parts q (by simp [h])) unguarded']
      obtain ⟨q, types, rfl⟩ := List.exists_cons_of_ne_nil last
      simp [typeChars]

end Walk

section TypeText

variable {types : List (String × String)} (parts : ∀ p ∈ types, Spaced p)
include parts

theorem words_typeChars (types_ne : types ≠ []) :
    words (String.ofList (typeChars types)) = types.map Prod.fst := by
  induction types with
  | nil => contradiction
  | cons p types ih =>
    obtain ⟨u_ne, letters⟩ := (parts p (by simp)).1.chars
    have solid : ∀ c ∈ p.1.toList, isBlank c = false := fun c h => isBlank_of_isAlpha (letters c h)
    cases types with
    | nil =>
      have single : wordsFrom [] p.1.toList.reverse = [p.1] := by
        obtain ⟨c, u, same⟩ := List.exists_cons_of_ne_nil (List.reverse_ne_nil_iff.mpr u_ne)
        have read : wordsFrom [] (c :: u) = [String.ofList (c :: u).reverse] := rfl
        rw [same, read, ← same, List.reverse_reverse, String.ofList_toList]
      rw [typeChars_single, words, String.toList_ofList, ← List.append_nil p.1.toList,
        wordsFrom_solid solid, List.append_nil, single]
      rfl
    | cons q types =>
      obtain ⟨gap_ne, gap⟩ := (parts p (by simp)).2.chars
      have later := ih (fun r h => parts r (by simp [h])) (by simp)
      simp only [words, String.toList_ofList] at later
      rw [typeChars_cons_cons, words, String.toList_ofList, List.append_assoc,
        wordsFrom_solid solid, List.append_nil,
        wordsFrom_gap gap_ne (fun c h => isBlank_of_isSpaceTab (gap c h))
          (List.reverse_ne_nil_iff.mpr u_ne), later]
      simp

theorem typeChars_ends :
    (∀ c ∈ (typeChars types).head?, c.isAlpha = true) ∧
      ∀ c ∈ (typeChars types).getLast?, c.isAlpha = true := by
  induction types with
  | nil => simp [typeChars]
  | cons p types ih =>
    obtain ⟨u_ne, letters⟩ := (parts p (by simp)).1.chars
    have rest := ih (fun r h => parts r (by simp [h]))
    cases types with
    | nil =>
      refine ⟨fun c h => letters c (List.mem_of_mem_head? h),
        fun c h => letters c (List.mem_of_mem_getLast? h)⟩
    | cons q types =>
      refine ⟨fun c h => letters c ?_, fun c h => rest.2 c ?_⟩
      · rw [typeChars_cons_cons, List.append_assoc, List.head?_append_of_ne_nil _ u_ne] at h
        exact List.mem_of_mem_head? h
      · have later_ne : typeChars (q :: types) ≠ [] := by
          intro empty
          obtain ⟨v_ne, _⟩ := (parts q (by simp)).1.chars
          cases types <;> simp_all [typeChars_single, typeChars_cons_cons]
        rwa [typeChars_cons_cons, List.getLast?_append_of_ne_nil _ later_ne] at h

end TypeText

end Header

end Migrator
