import Migrator.Text.Upper
import Migrator.Text.Lower
import Migrator.Text.Cased

/-!
Full case conversion of text. Each character maps to one or more characters through the tables;
a capital sigma lowers to the final form `ς` when it ends a word (a cased letter before it,
none after it, case-ignorable characters skipped on both sides) and to `σ` otherwise.
-/
namespace Migrator.Text

/-- The image of one character under a mapping given by runs and a table of expansions. -/
def mapChar (runs : Array CaseRun) (special : Array (Nat × List Nat)) (c : Char) : List Char :=
  match floorEntry? special Prod.fst c.toNat with
  | some (k, cs) => if k = c.toNat then cs.map Char.ofNat else single
  | none => single
where
  /-- The image through the runs alone. -/
  single : List Char :=
    match CaseRun.apply? runs c.toNat with
    | some n => [Char.ofNat n]
    | none => [c]

/-- The upper case of one character. -/
def upperChar (c : Char) : List Char := mapChar upperRuns upperSpecial c

/-- The lower case of one character, without the sigma rule. -/
def lowerChar (c : Char) : List Char := mapChar lowerRuns lowerSpecial c

/-- Upper-cases text, character by character. -/
def toUpper (s : String) : String := String.ofList (s.toList.flatMap upperChar)

/-- Whether the first character that is not case-ignorable exists and has case. -/
def casedAfterIgnorable : List Char → Bool
  | [] => false
  | c :: rest => if isCaseIgnorable c then casedAfterIgnorable rest else isCased c

/-- Lowers `cs`, where `before` holds the characters already passed, nearest first. -/
def lowerFrom (before : List Char) : List Char → List Char
  | [] => []
  | c :: rest =>
    let image :=
      if c = 'Σ' then
        if casedAfterIgnorable before && !casedAfterIgnorable rest then ['ς'] else ['σ']
      else lowerChar c
    image ++ lowerFrom (c :: before) rest

/-- Lower-cases text, with the final-sigma rule. -/
def toLower (s : String) : String := String.ofList (lowerFrom [] s.toList)

end Migrator.Text
