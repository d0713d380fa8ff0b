import Migrator.Text.Ranges

/-!
White space as Unicode defines it (the `White_Space` property, 25 code points), and the text
operations built on it: trimming both ends and splitting into the words between runs of blanks.
Core's `Char.isWhitespace` knows only ASCII blanks; the names here, line separators and no-break
spaces are blanks too.
-/
namespace Migrator.Text

/-- The `White_Space` code points of Unicode 17. -/
def blankSet : RangeSet := ⟨#[
  (0x9, 0xD), (0x20, 0x20), (0x85, 0x85), (0xA0, 0xA0), (0x1680, 0x1680), (0x2000, 0x200A),
  (0x2028, 0x2029), (0x202F, 0x202F), (0x205F, 0x205F), (0x3000, 0x3000)]⟩

/-- Whether a character is Unicode white space; in ASCII that is the space and the controls from
tab to carriage return. -/
def isBlank (c : Char) : Bool :=
  if c.toNat < 128 then c == ' ' || (9 ≤ c.toNat && c.toNat ≤ 13) else blankSet.contains c

/-- The ASCII shortcut agrees with the table, so `isBlank` is membership in `blankSet`. -/
theorem isBlank_eq_contains (c : Char) : isBlank c = blankSet.contains c := by
  have ascii : ∀ n, n < 128 → isBlank (Char.ofNat n) = blankSet.contains (Char.ofNat n) := by
    decide +kernel
  by_cases small : c.toNat < 128
  · simpa only [Char.ofNat_toNat] using ascii c.toNat small
  · simp [isBlank, small]

/-- Drops white space at both ends of a list of characters. -/
def trimChars (cs : List Char) : List Char :=
  ((cs.dropWhile isBlank).reverse.dropWhile isBlank).reverse

/-- Drops white space at both ends. -/
def trim (s : String) : String := String.ofList (trimChars s.toList)

/-- Words of `cs` after the current word `acc` (kept reversed), split at runs of white space. -/
def wordsFrom : List Char → List Char → List String
  | [], [] => []
  | [], acc => [String.ofList acc.reverse]
  | c :: rest, acc =>
    if isBlank c then
      if acc.isEmpty then wordsFrom rest [] else String.ofList acc.reverse :: wordsFrom rest []
    else wordsFrom rest (c :: acc)

/-- The non-empty words between runs of white space, in order. -/
def words (s : String) : List String := wordsFrom s.toList []

example : isBlank ' ' = true ∧ isBlank '\u00A0' = true ∧ isBlank '\u2028' = true ∧
    isBlank 'a' = false := by decide +kernel

end Migrator.Text
