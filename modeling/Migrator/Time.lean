/-!
Instants in UTC, read from RFC 3339 text with any offset and written back in UTC to the second
with a `Z`. An instant counts seconds from 1970-01-01T00:00:00Z on the proleptic Gregorian
calendar; a leap second (`:60`) is kept as a mark on the second before it. Fractions of a second
are read and dropped.
-/
namespace Migrator

/-- An instant, to the second. -/
structure Timestamp where
  /-- Seconds since 1970-01-01T00:00:00Z, leap seconds not counted. -/
  seconds : Int
  /-- Whether the instant is the leap second after `seconds`. -/
  leap : Bool := false
deriving DecidableEq, Repr

namespace Timestamp

/-- Days from 1970-01-01 to the given civil date. -/
def daysFromCivil (year : Int) (month day : Nat) : Int :=
  let y := if month ≤ 2 then year - 1 else year
  let era := y / 400
  let yoe := y - era * 400
  let m : Int := month
  let doy := (153 * (if m > 2 then m - 3 else m + 9) + 2) / 5 + day - 1
  let doe := yoe * 365 + yoe / 4 - yoe / 100 + doy
  era * 146097 + doe - 719468

/-- The civil date (year, month, day) of a count of days from 1970-01-01. -/
def civilFromDays (z : Int) : Int × Nat × Nat :=
  let z := z + 719468
  let era := z / 146097
  let doe := z - era * 146097
  let yoe := (doe - doe / 1460 + doe / 36524 - doe / 146096) / 365
  let y := yoe + era * 400
  let doy := doe - (365 * yoe + yoe / 4 - yoe / 100)
  let mp := (5 * doy + 2) / 153
  let d := doy - (153 * mp + 2) / 5 + 1
  let m := if mp < 10 then mp + 3 else mp - 9
  ((if m ≤ 2 then y + 1 else y), m.toNat, d.toNat)

/-- Whether a year of the Gregorian calendar has 29 February. -/
def isLeapYear (y : Int) : Bool := (y % 4 == 0 && y % 100 != 0) || y % 400 == 0

/-- The number of days in a month. -/
def daysInMonth (y : Int) (m : Nat) : Nat :=
  match m with
  | 2 => if isLeapYear y then 29 else 28
  | 4 | 6 | 9 | 11 => 30
  | _ => 31

/-- A natural number written with at least `width` digits. -/
def padded (width n : Nat) : String :=
  let s := toString n
  String.ofList (List.replicate (width - s.length) '0') ++ s

/-- A year as four digits, or signed with at least four when outside 0 to 9999. -/
def yearText (y : Int) : String :=
  if 0 ≤ y ∧ y ≤ 9999 then padded 4 y.toNat
  else if y < 0 then "-" ++ padded 4 y.natAbs else "+" ++ padded 4 y.toNat

/-- The instant in UTC, to the second: `YYYY-MM-DDTHH:MM:SSZ`. -/
def toText (t : Timestamp) : String :=
  let days := t.seconds / 86400
  let secs := (t.seconds % 86400).toNat
  let (y, m, d) := civilFromDays days
  let second := secs % 60 + (if t.leap then 1 else 0)
  yearText y ++ "-" ++ padded 2 m ++ "-" ++ padded 2 d ++ "T" ++ padded 2 (secs / 3600) ++ ":" ++
    padded 2 (secs / 60 % 60) ++ ":" ++ padded 2 second ++ "Z"

/-- The value of a run of decimal digits. -/
def digitsValue (cs : List Char) : Option Nat :=
  if cs.isEmpty || !cs.all Char.isDigit then none
  else some (cs.foldl (fun n c => 10 * n + (c.toNat - 48)) 0)

/-- Reads exactly `n` digits from the front of `cs`. -/
def takeDigits (n : Nat) (cs : List Char) : Option (Nat × List Char) :=
  (digitsValue (cs.take n)).bind fun v => if (cs.take n).length = n then some (v, cs.drop n) else none

/-- Expects the character `c` at the front of `cs`. -/
def expect (c : Char) : List Char → Option (List Char)
  | d :: rest => if c = d then some rest else none
  | [] => none

/-- The offset from UTC in seconds, from `Z` or `±HH:MM`, which must end the text. -/
def readOffset : List Char → Option Int
  | ['Z'] | ['z'] => some 0
  | sign :: rest => do
    let (h, rest) ← takeDigits 2 rest
    let rest ← expect ':' rest
    let (m, rest) ← takeDigits 2 rest
    if !rest.isEmpty || h > 23 || m > 59 then none
    else if sign = '+' then some (h * 3600 + m * 60)
    else if sign = '-' then some (-(h * 3600 + m * 60 : Int))
    else none
  | [] => none

/-- Reads an RFC 3339 date and time with an offset, such as `2024-03-01T00:30:00.5+05:30`. -/
def ofRfc3339? (s : String) : Option Timestamp := do
  let cs := s.toList
  let (y, cs) ← takeDigits 4 cs
  let cs ← expect '-' cs
  let (mo, cs) ← takeDigits 2 cs
  let cs ← expect '-' cs
  let (d, cs) ← takeDigits 2 cs
  let cs ← match cs with
    | c :: rest => if c = 'T' ∨ c = 't' ∨ c = ' ' then some rest else none
    | [] => none
  let (h, cs) ← takeDigits 2 cs
  let cs ← expect ':' cs
  let (mi, cs) ← takeDigits 2 cs
  let cs ← expect ':' cs
  let (se, cs) ← takeDigits 2 cs
  let cs ← match cs with
    | '.' :: rest =>
      let frac := rest.takeWhile Char.isDigit
      if frac.isEmpty then none else some (rest.drop frac.length)
    | _ => some cs
  let offset ← readOffset cs
  if mo < 1 ∨ mo > 12 ∨ d < 1 ∨ d > daysInMonth y mo ∨ h > 23 ∨ mi > 59 ∨ se > 60 then none
  else
    let second := if se = 60 then 59 else se
    let wall := daysFromCivil y mo d * 86400 + (h * 3600 + mi * 60 + second : Nat)
    some { seconds := wall - offset, leap := se = 60 }

example : (ofRfc3339? "2024-03-01T00:30:00+05:30").map toText = some "2024-02-29T19:00:00Z" := by
  decide

end Timestamp

end Migrator
