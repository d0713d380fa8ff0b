import Mathlib
import Migrator.Source.Header

/-!
The readers of an object header on the pieces a header is made of. ASCII letters are word
characters and not blanks, and no blank is a word character; a keyword is read with the blanks
after it exactly when a word spells it; the two name readers stop at a semicolon and after a
word and a gap; and `typeFrom` reads a word of letters, or a gap, in front of what follows it.
The last lemmas say what trimming, splitting into words and upper-casing do to such text.
-/
namespace Migrator.Text

theorem floorIndex_some {α : Type} {xs : Array α} {key : α → Nat} {c : Nat} :
    ∀ {fuel lo hi i : Nat}, floorIndex xs key c fuel lo hi = some i →
      ∃ x, xs[i]? = some x ∧ key x ≤ c := by
  intro fuel
  induction fuel with
  | zero => intro lo hi i found; simp [floorIndex] at found
  | succ fuel ih =>
    intro lo hi i found
    simp only [floorIndex] at found
    split_ifs at found with inside
    split at found
    · simp at found
    · rename_i x entry
      split_ifs at found with below
      · exact ih found
      · cases later : floorIndex xs key c fuel ((lo + hi) / 2 + 1) hi with
        | some j => rw [later] at found; exact ih (by simpa using later.trans found)
        | none =>
          rw [later] at found
          obtain rfl : (lo + hi) / 2 = i := by simpa using found
          exact ⟨x, entry, by omega⟩

theorem RangeSet.mem_of_contains {s : RangeSet} {c : Char} (inside : s.contains c = true) :
    ∃ r ∈ s.ranges.toList, r.1 ≤ c.toNat ∧ c.toNat ≤ r.2 := by
  simp only [RangeSet.contains, RangeSet.containsNat, floorEntry?] at inside
  split at inside
  · rename_i lo hi entry
    obtain ⟨i, found, at_i⟩ := Option.bind_eq_some_iff.mp entry
    obtain ⟨x, at_i', below⟩ := floorIndex_some found
    rw [at_i] at at_i'
    cases at_i'
    exact ⟨(lo, hi), Array.mem_toList_iff.mpr (Array.mem_of_getElem? at_i), below,
      by simpa using inside⟩
  · simp at inside

end Migrator.Text

namespace Migrator

open Text

namespace Header

theorem toNat_lt_of_isAlpha {c : Char} (letter : c.isAlpha = true) : c.toNat < 128 := by
  simp only [Char.isAlpha, Char.isUpper, Char.isLower, Bool.or_eq_true, Bool.and_eq_true,
    decide_eq_true_eq] at letter
  have : c.toNat = c.val.toNat := rfl
  rcases letter with ⟨-, up⟩ | ⟨-, up⟩ <;> simp [UInt32.le_iff_toNat_le] at up <;> omega

/-- A fact decided for the 128 ASCII code points holds of every ASCII character. -/
theorem of_ascii {c : Char} (small : c.toNat < 128) {P : Char → Prop}
    (each : ∀ n, n < 128 → P (Char.ofNat n)) : P c := by
  simpa only [Char.ofNat_toNat] using each c.toNat small

/-- What the readers use of an ASCII character: letters are word characters, not blanks, and
upper-case to one character; no word character is a blank; a lower-case letter upper-cases to
a letter. -/
@[mk_iff] structure AsciiFacts (c : Char) : Prop where
  word : c.isAlpha = true → isWord c = true
  notBlank : c.isAlpha = true → isBlank c = false
  upper : c.isAlpha = true → upperChar c = [c.toUpper]
  wordNotBlank : isWord c = true → isBlank c = false
  upperAlpha : c.isLower = true → c.toUpper.isAlpha = true

instance : DecidablePred AsciiFacts := fun c => decidable_of_iff' _ (asciiFacts_iff c)

-- one evaluation for all of them: each kernel evaluation holds a thread of its own
theorem asciiFacts_all : ∀ n, n < 128 → AsciiFacts (Char.ofNat n) := by
  decide +kernel

theorem asciiFacts {c : Char} (small : c.toNat < 128) : AsciiFacts c :=
  of_ascii small asciiFacts_all

theorem isWord_of_isAlpha {c : Char} (letter : c.isAlpha = true) : isWord c = true :=
  (asciiFacts (toNat_lt_of_isAlpha letter)).word letter

theorem isBlank_of_isAlpha {c : Char} (letter : c.isAlpha = true) : isBlank c = false :=
  (asciiFacts (toNat_lt_of_isAlpha letter)).notBlank letter

theorem upperChar_of_isAlpha {c : Char} (letter : c.isAlpha = true) : upperChar c = [c.toUpper] :=
  (asciiFacts (toNat_lt_of_isAlpha letter)).upper letter

theorem isSpaceTab_iff {c : Char} : isSpaceTab c = true ↔ c = ' ' ∨ c = '\t' := by
  simp [isSpaceTab]

theorem isWord_of_isSpaceTab {c : Char} (gap : isSpaceTab c = true) : isWord c = false := by
  rcases isSpaceTab_iff.mp gap with rfl | rfl <;> decide

theorem isBlank_of_isSpaceTab {c : Char} (gap : isSpaceTab c = true) : isBlank c = true := by
  rcases isSpaceTab_iff.mp gap with rfl | rfl <;> decide

theorem isSpaceTab_of_isWord {c : Char} (word : isWord c = true) : isSpaceTab c = false := by
  cases gap : isSpaceTab c
  · rfl
  · simp [isWord_of_isSpaceTab gap] at word

theorem isSpaceTab_of_isAlpha {c : Char} (letter : c.isAlpha = true) : isSpaceTab c = false :=
  isSpaceTab_of_isWord (isWord_of_isAlpha letter)

/-- No blank code point is a word character. -/
theorem blankSet_not_word :
    ∀ r ∈ blankSet.ranges.toList, ∀ n ∈ List.range' r.1 (r.2 + 1 - r.1),
      isWord (Char.ofNat n) = false := by
  decide +kernel

theorem isBlank_of_isWord {c : Char} (word : isWord c = true) : isBlank c = false := by
  rcases Nat.lt_or_ge c.toNat 128 with small | large
  · exact (asciiFacts small).wordNotBlank word
  · cases blank : isBlank c
    · rfl
    · rw [isBlank_eq_contains] at blank
      obtain ⟨r, mem, lo, hi⟩ := RangeSet.mem_of_contains blank
      have := blankSet_not_word r mem c.toNat (List.mem_range'_1.mpr ⟨lo, by omega⟩)
      rw [Char.ofNat_toNat] at this
      simp [this] at word

/-- The long s and the Kelvin sign, which match the letters s and k, are word characters. -/
theorem longS_kelvin_word : isWord 'ſ' = true ∧ isWord '\u212A' = true := by
  decide +kernel

/-- A letter of a keyword matches only word characters. -/
theorem isWord_of_letterMatches {l c : Char} (lower : l.isLower = true)
    (matched : letterMatches l c = true) : isWord c = true := by
  have letter : l.isAlpha = true := by simp [Char.isAlpha, lower]
  have upper := (asciiFacts (toNat_lt_of_isAlpha letter)).upperAlpha lower
  simp only [letterMatches, Bool.or_eq_true, beq_iff_eq, Bool.and_eq_true] at matched
  rcases matched with ((rfl | rfl) | ⟨-, rfl⟩) | ⟨-, rfl⟩
  · exact isWord_of_isAlpha letter
  · exact isWord_of_isAlpha upper
  · exact longS_kelvin_word.1
  · exact longS_kelvin_word.2

theorem letterMatches_of_isAlpha {l c : Char} (letter : c.isAlpha = true) :
    letterMatches l c = true ↔ c = l ∨ c = l.toUpper := by
  have small := toNat_lt_of_isAlpha letter
  have long : c ≠ 'ſ' := fun same => by subst same; simp at small
  have kelvin : c ≠ 'K' := fun same => by subst same; simp at small
  simp [letterMatches, long, kelvin]


/-- A letter written in either case is an ASCII letter. -/
theorem isAlpha_of_cased {l c : Char} (lower : l.isLower = true) (same : c = l ∨ c = l.toUpper) :
    c.isAlpha = true := by
  have letter : l.isAlpha = true := by simp [Char.isAlpha, lower]
  rcases same with rfl | rfl
  exacts [letter, (asciiFacts (toNat_lt_of_isAlpha letter)).upperAlpha lower]

theorem letterMatches_of_not_word {l c : Char} (lower : l.isLower = true)
    (notWord : isWord c = false) : letterMatches l c = false := by
  cases matched : letterMatches l c
  · rfl
  · simp [isWord_of_letterMatches lower matched] at notWord

/-! ## The readers on the pieces of a header -/

theorem takeWhile_append_stop {p : Char → Bool} {xs ys : List Char} (all : ∀ x ∈ xs, p x = true)
    (stop : ∀ y ∈ ys.head?, p y = false) :
    (xs ++ ys).takeWhile p = xs ∧ (xs ++ ys).dropWhile p = ys := by
  rw [List.takeWhile_append_of_pos all, List.dropWhile_append_of_pos all]
  cases ys with
  | nil => simp
  | cons y ys => simp [stop y (by simp)]

theorem blanks_gap {g Y : List Char} (gap_ne : g ≠ []) (gap : ∀ c ∈ g, isSpaceTab c = true)
    (stop : ∀ c ∈ Y.head?, isSpaceTab c = false) : blanks (g ++ Y) = some Y := by
  obtain ⟨taken, dropped⟩ := takeWhile_append_stop gap stop
  simp [blanks, taken, dropped, gap_ne]

theorem blanks_of_head {cs : List Char} (stop : ∀ c ∈ cs.head?, isSpaceTab c = false) :
    blanks cs = none := by
  cases cs with
  | nil => rfl
  | cons c cs => simp [blanks, stop c (by simp)]

theorem keywordBlanks_nil (cs : List Char) :
    keywordBlanks [] cs = if (cs.takeWhile isSpaceTab).length = 0 then none
      else some (cs.takeWhile isSpaceTab).length := by
  simp [keywordBlanks, keyword]

theorem keywordBlanks_cons (l : Char) (kw : List Char) (c : Char) (cs : List Char) :
    keywordBlanks (l :: kw) (c :: cs) =
      if letterMatches l c then (keywordBlanks kw cs).map (· + 1) else none := by
  simp only [keywordBlanks, keyword]
  split
  · cases keyword kw cs with
    | none => rfl
    | some rest =>
      simp only [Option.bind_some, List.length_cons]
      split_ifs <;> simp; omega
  · rfl

section Keywords

variable {kw : List Char} (lower : ∀ l ∈ kw, l.isLower = true)
include lower

/-- A keyword and the blanks after it are read as long as they stand, whatever the keyword's
letters are. -/
theorem keywordBlanks_gap {v g Y : List Char} {n : Nat} (plain : ∀ c ∈ v, isSpaceTab c = false)
    (gap_ne : g ≠ []) (gap : ∀ c ∈ g, isSpaceTab c = true)
    (stop : ∀ c ∈ Y.head?, isSpaceTab c = false) (read : keywordBlanks kw (v ++ g ++ Y) = some n) :
    n = v.length + g.length := by
  induction v generalizing kw n with
  | nil =>
    obtain ⟨c, g', rfl⟩ := List.exists_cons_of_ne_nil gap_ne
    cases kw with
    | nil =>
      rw [List.nil_append, keywordBlanks_nil, (takeWhile_append_stop gap stop).1] at read
      simp_all
    | cons l kw =>
      have notWord := isWord_of_isSpaceTab (gap c (by simp))
      simp [keywordBlanks_cons, letterMatches_of_not_word (lower l (by simp)) notWord] at read
  | cons c v ih =>
    cases kw with
    | nil => simp [keywordBlanks_nil, plain c (by simp)] at read
    | cons l kw =>
      rw [List.cons_append, List.cons_append, keywordBlanks_cons] at read
      split_ifs at read
      obtain ⟨m, found, rfl⟩ := Option.map_eq_some_iff.mp read
      have := ih (fun l h => lower l (by simp [h])) (fun x h => plain x (by simp [h])) found
      simp; omega

/-- A word of ASCII letters followed by blanks reads as the keyword exactly when it spells it. -/
theorem keywordBlanks_word {u g Y : List Char} (letters : ∀ c ∈ u, c.isAlpha = true)
    (gap_ne : g ≠ []) (gap : ∀ c ∈ g, isSpaceTab c = true)
    (stop : ∀ c ∈ Y.head?, isSpaceTab c = false) :
    keywordBlanks kw (u ++ g ++ Y) =
      if List.Forall₂ (fun l c => c = l ∨ c = l.toUpper) kw u then some (u.length + g.length)
      else none := by
  induction u generalizing kw with
  | nil =>
    obtain ⟨c, g', rfl⟩ := List.exists_cons_of_ne_nil gap_ne
    cases kw with
    | nil =>
      rw [List.nil_append, keywordBlanks_nil, (takeWhile_append_stop gap stop).1]
      simp
    | cons l kw =>
      have notWord := isWord_of_isSpaceTab (gap c (by simp))
      simp [keywordBlanks_cons, letterMatches_of_not_word (lower l (by simp)) notWord]
  | cons c u ih =>
    cases kw with
    | nil => simp [keywordBlanks_nil, isSpaceTab_of_isAlpha (letters c (by simp))]
    | cons l kw =>
      rw [List.cons_append, List.cons_append, keywordBlanks_cons,
        ih (fun l h => lower l (by simp [h])) (fun x h => letters x (by simp [h]))]
      simp only [List.forall₂_cons]
      by_cases matched : c = l ∨ c = l.toUpper
      · simp only [(letterMatches_of_isAlpha (letters c (by simp))).mpr matched, matched,
          true_and, if_true]
        split_ifs <;> simp [Nat.add_right_comm]
      · simp [(letterMatches_of_isAlpha (letters c (by simp))).not.mpr matched, matched]

/-- No keyword is read across a character that is neither a word character nor a blank. -/
theorem keywordBlanks_stop {v more : List Char} {c : Char} (word : ∀ x ∈ v, isWord x = true)
    (notWord : isWord c = false) (notGap : isSpaceTab c = false) :
    keywordBlanks kw (v ++ c :: more) = none := by
  induction v generalizing kw with
  | nil =>
    cases kw with
    | nil => simp [keywordBlanks_nil, notGap]
    | cons l kw => simp [keywordBlanks_cons, letterMatches_of_not_word (lower l (by simp)) notWord]
  | cons x v ih =>
    cases kw with
    | nil => simp [keywordBlanks_nil, isSpaceTab_of_isWord (word x (by simp))]
    | cons l kw =>
      rw [List.cons_append, keywordBlanks_cons, ih (fun l h => lower l (by simp [h]))
        (fun y h => word y (by simp [h]))]
      simp

end Keywords

theorem qualifiedName_semicolon (more : List Char) : qualifiedName (';' :: more) = none := by
  have : isWord ';' = false := by decide
  simp [qualifiedName, this]

theorem bareName_semicolon (more : List Char) : bareName (';' :: more) = none := by
  have notWord : isWord ';' = false := by decide
  have notGap : isSpaceTab ';' = false := by decide
  simp [bareName, notWord, notGap]


/-- What the walk along a header needs of a name reader: it reads nothing at a semicolon, nor at
word characters followed by spaces or tabs and then a word character. -/
structure Stops (name : List Char → Option (List Char)) : Prop where
  semicolon : ∀ more, name (';' :: more) = none
  word : ∀ {u g Y : List Char}, (∀ c ∈ u, isWord c = true) → g ≠ [] →
    (∀ c ∈ g, isSpaceTab c = true) → (∀ c ∈ Y.head?, isWord c = true) → name (u ++ g ++ Y) = none

theorem stops_qualifiedName : Stops qualifiedName where
  semicolon := qualifiedName_semicolon
  word := by
    intro u g Y word gap_ne gap _
    obtain ⟨c, g, rfl⟩ := List.exists_cons_of_ne_nil gap_ne
    have notWord := isWord_of_isSpaceTab (gap c (by simp))
    have notDot : c ≠ '.' := by rcases isSpaceTab_iff.mp (gap c (by simp)) with rfl | rfl <;> decide
    have dropped : (u ++ c :: (g ++ Y)).dropWhile isWord = c :: (g ++ Y) :=
      (takeWhile_append_stop word (by simp [notWord])).2
    rw [List.append_assoc, List.cons_append]
    simp [qualifiedName, dropped, notDot]

theorem stops_bareName : Stops bareName where
  semicolon := bareName_semicolon
  word := by
    intro u g Y word gap_ne gap next
    have notGap : ∀ c ∈ Y.head?, isSpaceTab c = false := fun c h => isSpaceTab_of_isWord (next c h)
    have notWord : ∀ c ∈ (g ++ Y).head?, isWord c = false := by
      obtain ⟨c, g, rfl⟩ := List.exists_cons_of_ne_nil gap_ne
      simp [isWord_of_isSpaceTab (gap c (by simp))]
    rw [List.append_assoc]
    simp only [bareName, (takeWhile_append_stop word notWord).2,
      (takeWhile_append_stop gap notGap).2]
    cases Y with
    | nil => rfl
    | cons y Y =>
      have : y ≠ ';' := fun same => by subst same; simp at next; exact absurd next (by decide)
      simp [this]

theorem qualifiedName_qualified {s x rest : List Char} (s_ne : s ≠ [])
    (sWord : ∀ c ∈ s, isWord c = true) (x_ne : x ≠ []) (xWord : ∀ c ∈ x, isWord c = true)
    (stop : ∀ c ∈ rest.head?, isWord c = false) :
    qualifiedName (s ++ '.' :: (x ++ rest)) = some (s ++ '.' :: x) := by
  have dot : isWord '.' = false := by decide
  obtain ⟨taken, dropped⟩ : (s ++ '.' :: (x ++ rest)).takeWhile isWord = s ∧
      (s ++ '.' :: (x ++ rest)).dropWhile isWord = '.' :: (x ++ rest) :=
    takeWhile_append_stop sWord (by simp [dot])
  simp [qualifiedName, taken, dropped, (takeWhile_append_stop xWord stop).1, s_ne, x_ne]

theorem bareName_bare {n b more : List Char} (n_ne : n ≠ []) (word : ∀ c ∈ n, isWord c = true)
    (gap : ∀ c ∈ b, isSpaceTab c = true) : bareName (n ++ b ++ ';' :: more) = some n := by
  have semicolon : isSpaceTab ';' = false := by decide
  have head : ∀ c ∈ (b ++ ';' :: more).head?, isWord c = false := by
    cases b with
    | nil => simp; decide
    | cons c b => simpa using isWord_of_isSpaceTab (gap c (by simp))
  have semi : (b ++ ';' :: more).dropWhile isSpaceTab = ';' :: more :=
    (takeWhile_append_stop gap (by simp [semicolon])).2
  rw [List.append_assoc]
  simp [bareName, (takeWhile_append_stop word head).1, (takeWhile_append_stop word head).2, semi,
    n_ne]

theorem qualifiedName_bare {n b more : List Char} (word : ∀ c ∈ n, isWord c = true)
    (gap : ∀ c ∈ b, isSpaceTab c = true) : qualifiedName (n ++ b ++ ';' :: more) = none := by
  have head : ∀ c ∈ (b ++ ';' :: more).head?, isWord c = false ∧ c ≠ '.' := by
    cases b with
    | nil => simp; decide
    | cons c b =>
      rcases isSpaceTab_iff.mp (gap c (by simp)) with rfl | rfl <;> simp <;> decide
  rw [List.append_assoc]
  simp only [qualifiedName, (takeWhile_append_stop word (fun c h => (head c h).1)).2]
  cases b with
  | nil => rfl
  | cons c b => simp [(head c (by simp)).2]

/-! ## The type words -/

section TypeWords

variable {name : List Char → Option (List Char)}

theorem typeFrom_stop {c : Char} (notGap : isSpaceTab c = false)
    (notLetter : isTypeLetter c = false) (rest : List Char) : typeFrom name (c :: rest) = none := by
  simp [typeFrom, typeStep, notGap, notLetter]

theorem typeFrom_semicolon (more : List Char) : typeFrom name (';' :: more) = none :=
  typeFrom_stop (by decide) (by decide) more

/-- Spaces and tabs join the type that follows them. -/
theorem typeFrom_gap {g R : List Char} (gap : ∀ c ∈ g, isSpaceTab c = true) :
    typeFrom name (g ++ R) = (typeFrom name R).map fun t => (g ++ t.1, t.2) := by
  induction g with
  | nil => simp
  | cons c g ih =>
    simp only [List.cons_append, typeFrom, typeStep, gap c (by simp), if_true,
      ih (fun x h => gap x (by simp [h])), Option.map_map]
    rfl

theorem afterType_of_head {cs : List Char} (stop : ∀ c ∈ cs.head?, isSpaceTab c = false) :
    afterType name cs = none := by
  simp [afterType, blanks_of_head stop]

theorem afterType_gap {g Y : List Char} (gap_ne : g ≠ []) (gap : ∀ c ∈ g, isSpaceTab c = true)
    (stop : ∀ c ∈ Y.head?, isSpaceTab c = false) :
    afterType name (g ++ Y) = ((ifNotExists Y).bind fun n => name (Y.drop n)).or (name Y) := by
  simp [afterType, blanks_gap gap_ne gap stop]

/-- A word of letters ends the type where the name follows it, and otherwise joins the type
read after it. -/
theorem typeFrom_word {u R : List Char} (u_ne : u ≠ []) (letters : ∀ c ∈ u, c.isAlpha = true) :
    typeFrom name (u ++ R) = ((afterType name R).map fun found => (u, found)).or
      ((typeFrom name R).map fun t => (u ++ t.1, t.2)) := by
  induction u with
  | nil => contradiction
  | cons c u ih =>
    have letter := letters c (by simp)
    have typeLetter : isTypeLetter c = true := by simp [isTypeLetter, letter]
    simp only [List.cons_append, typeFrom, typeStep, isSpaceTab_of_isAlpha letter, typeLetter]
    by_cases last : u = []
    · subst last
      cases after : afterType name R <;> simp [after]
    · have inner : afterType name (u ++ R) = none := by
        obtain ⟨d, u, rfl⟩ := List.exists_cons_of_ne_nil last
        exact afterType_of_head (by simp [isSpaceTab_of_isAlpha (letters d (by simp))])
      rw [inner, ih last (fun x h => letters x (by simp [h]))]
      cases afterType name R <;> simp [Option.map_map, Function.comp_def]

/-- Word characters read no type when what follows them reads none. -/
theorem typeFrom_words_none {v R : List Char} (word : ∀ c ∈ v, isWord c = true)
    (after : afterType name R = none) (later : typeFrom name R = none) :
    typeFrom name (v ++ R) = none := by
  induction v with
  | nil => exact later
  | cons c v ih =>
    have inner : afterType name (v ++ R) = none := by
      cases v with
      | nil => exact after
      | cons d v => exact afterType_of_head (by simp [isSpaceTab_of_isWord (word d (by simp))])
    simp only [List.cons_append, typeFrom, typeStep, isSpaceTab_of_isWord (word c (by simp)),
      ih (fun x h => word x (by simp [h])), inner]
    split_ifs <;> simp

end TypeWords

/-! ## Trimming, words and upper case -/

theorem dropWhile_of_head {p : Char → Bool} {cs : List Char}
    (stop : ∀ c ∈ cs.head?, p c = false) : cs.dropWhile p = cs := by
  cases cs with
  | nil => rfl
  | cons c cs => simp [stop c (by simp)]

/-- Text that starts and ends with characters that are not white space is its own trim. -/
theorem trimChars_of_ends {cs : List Char} (first : ∀ c ∈ cs.head?, isBlank c = false)
    (last : ∀ c ∈ cs.getLast?, isBlank c = false) : trimChars cs = cs := by
  rw [trimChars, dropWhile_of_head first, dropWhile_of_head (by simpa using last),
    List.reverse_reverse]

theorem wordsFrom_solid {u R acc : List Char} (solid : ∀ c ∈ u, isBlank c = false) :
    wordsFrom (u ++ R) acc = wordsFrom R (u.reverse ++ acc) := by
  induction u generalizing acc with
  | nil => rfl
  | cons c u ih => simp [wordsFrom, solid c (by simp), ih (fun x h => solid x (by simp [h]))]

theorem wordsFrom_blanks {g R : List Char} (blank : ∀ c ∈ g, isBlank c = true) :
    wordsFrom (g ++ R) [] = wordsFrom R [] := by
  induction g with
  | nil => rfl
  | cons c g ih => simp [wordsFrom, blank c (by simp), ih (fun x h => blank x (by simp [h]))]

/-- A run of white space ends the word being read. -/
theorem wordsFrom_gap {g R acc : List Char} (g_ne : g ≠ []) (blank : ∀ c ∈ g, isBlank c = true)
    (acc_ne : acc ≠ []) : wordsFrom (g ++ R) acc = String.ofList acc.reverse :: wordsFrom R [] := by
  obtain ⟨c, g, rfl⟩ := List.exists_cons_of_ne_nil g_ne
  have rest := wordsFrom_blanks (R := R) (g := g) (fun x h => blank x (by simp [h]))
  simp [wordsFrom, blank c (by simp), acc_ne, rest]

/-- Upper-casing a word of ASCII letters is upper-casing each letter. -/
theorem toUpper_of_letters {u : String} (letters : ∀ c ∈ u.toList, c.isAlpha = true) :
    Text.toUpper u = u.toUpper := by
  have each : ∀ cs : List Char, (∀ c ∈ cs, c.isAlpha = true) →
      cs.flatMap upperChar = cs.map Char.toUpper := by
    intro cs letters
    induction cs with
    | nil => rfl
    | cons c cs ih =>
      simp [upperChar_of_isAlpha (letters c (by simp)), ih (fun x h => letters x (by simp [h]))]
  apply String.toList_injective
  simp [Text.toUpper, String.toUpper, each _ letters]

end Header

end Migrator
