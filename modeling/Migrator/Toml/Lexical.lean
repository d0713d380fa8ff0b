/-!
The lexical layer of TOML 1.0: blanks, comments and line ends, the four kinds of string, and
the forms of integers, floats, booleans and date-times. Multi-line strings turn each line break
into a line feed; a line that ends in a backslash joins the next non-blank character.
-/
namespace Migrator.Toml

/-- Spaces and tabs, the only blanks inside a line. -/
def isSpaceOrTab (c : Char) : Bool := c == ' ' || c == '\t'

/-- What a comment may hold: a tab, printable ASCII, or any non-ASCII character. -/
def isCommentChar (c : Char) : Bool :=
  c == '\t' || (0x20 ≤ c.toNat && c.toNat ≤ 0x7E) || 0x80 ≤ c.toNat

/-- Characters a basic string holds as they are (not a quote, backslash or control). -/
def isBasicChar (c : Char) : Bool :=
  c == '\t' || (0x20 ≤ c.toNat && c != '"' && c != '\\' && c.toNat != 0x7F)

/-- Characters a literal string holds (not an apostrophe or control). -/
def isLiteralChar (c : Char) : Bool :=
  c == '\t' || (0x20 ≤ c.toNat && c != '\'' && c.toNat != 0x7F)

/-- Characters of a bare key. -/
def isBareKeyChar (c : Char) : Bool :=
  c.isAlphanum || c == '_' || c == '-'

/-- The rest after a line break at the front: `\n` or `\r\n`. -/
def afterNewline? : List Char → Option (List Char)
  | '\n' :: rest => some rest
  | '\r' :: '\n' :: rest => some rest
  | _ => none

/-- Skips a comment, if one starts here, up to its line break. -/
def skipComment : List Char → List Char
  | '#' :: rest => rest.dropWhile isCommentChar
  | cs => cs

/-- The end of a line after an item: blanks, an optional comment, then a line break or the end
of the document. Returns the next line. -/
def lineEnd? (cs : List Char) : Option (List Char) :=
  match skipComment (cs.dropWhile isSpaceOrTab) with
  | [] => some []
  | rest => afterNewline? rest

/-- The value of a hexadecimal digit. -/
def hexDigit? (c : Char) : Option Nat :=
  if c.isDigit then some (c.toNat - 48)
  else if 'a' ≤ c ∧ c ≤ 'f' then some (c.toNat - 87)
  else if 'A' ≤ c ∧ c ≤ 'F' then some (c.toNat - 55)
  else none

/-- The character of a `\u` or `\U` escape's digits, when they name a Unicode scalar value. -/
def codePoint? (digits : List Char) : Option Char := do
  let n ← digits.foldlM (fun acc c => (hexDigit? c).map (acc * 16 + ·)) 0
  if n < 0xD800 ∨ (0xDFFF < n ∧ n < 0x110000) then some (Char.ofNat n) else none

/-- The character a one-letter escape stands for. -/
def simpleEscape? : Char → Option Char
  | 'b' => some '\x08'
  | 't' => some '\t'
  | 'n' => some '\n'
  | 'f' => some '\x0c'
  | 'r' => some '\r'
  | '"' => some '"'
  | '\\' => some '\\'
  | _ => none

/-- A basic string after its opening quote: its text and the rest after the closing quote. -/
def basicString (acc : List Char) : List Char → Option (String × List Char)
  | [] => none
  | '"' :: rest => some (String.ofList acc.reverse, rest)
  | '\\' :: 'u' :: a :: b :: c :: d :: rest =>
    (codePoint? [a, b, c, d]).bind fun ch => basicString (ch :: acc) rest
  | '\\' :: 'U' :: a :: b :: c :: d :: e :: f :: g :: h :: rest =>
    (codePoint? [a, b, c, d, e, f, g, h]).bind fun ch => basicString (ch :: acc) rest
  | '\\' :: e :: rest => (simpleEscape? e).bind fun ch => basicString (ch :: acc) rest
  | c :: rest => if isBasicChar c then basicString (c :: acc) rest else none

/-- A literal string after its opening apostrophe. -/
def literalString (acc : List Char) : List Char → Option (String × List Char)
  | [] => none
  | '\'' :: rest => some (String.ofList acc.reverse, rest)
  | c :: rest => if isLiteralChar c then literalString (c :: acc) rest else none

/-- Where a multi-line basic string stands: in its text, after a backslash that so far is
followed only by blanks (a line break must come), or trimming blanks and line breaks after
such a backslash. -/
inductive LineEscape where
  | none
  | pending
  | trimming
deriving DecidableEq

/-- A multi-line basic string after its opening quotes and the line break that may follow
them. The first run of three or more quotes closes it; up to two quotes of that run before the
last three belong to the text. -/
def multiBasicString (acc : List Char) (mode : LineEscape) (cs : List Char) :
    Option (String × List Char) :=
  match mode, cs with
  | _, [] => none
  | .pending, ' ' :: rest => multiBasicString acc .pending rest
  | .pending, '\t' :: rest => multiBasicString acc .pending rest
  | .pending, '\n' :: rest => multiBasicString acc .trimming rest
  | .pending, '\r' :: '\n' :: rest => multiBasicString acc .trimming rest
  | .pending, _ => none
  | .trimming, ' ' :: rest => multiBasicString acc .trimming rest
  | .trimming, '\t' :: rest => multiBasicString acc .trimming rest
  | .trimming, '\n' :: rest => multiBasicString acc .trimming rest
  | .trimming, '\r' :: '\n' :: rest => multiBasicString acc .trimming rest
  | .trimming, c :: rest => multiBasicString acc .none (c :: rest)
  | .none, '"' :: '"' :: '"' :: '"' :: '"' :: rest =>
    some (String.ofList (acc.reverse ++ ['"', '"']), rest)
  | .none, '"' :: '"' :: '"' :: '"' :: rest => some (String.ofList (acc.reverse ++ ['"']), rest)
  | .none, '"' :: '"' :: '"' :: rest => some (String.ofList acc.reverse, rest)
  | .none, '\\' :: 'u' :: a :: b :: c :: d :: rest =>
    (codePoint? [a, b, c, d]).bind fun ch => multiBasicString (ch :: acc) .none rest
  | .none, '\\' :: 'U' :: a :: b :: c :: d :: e :: f :: g :: h :: rest =>
    (codePoint? [a, b, c, d, e, f, g, h]).bind fun ch => multiBasicString (ch :: acc) .none rest
  | .none, '\\' :: e :: rest =>
    if isSpaceOrTab e || e == '\n' || e == '\r' then multiBasicString acc .pending (e :: rest)
    else (simpleEscape? e).bind fun ch => multiBasicString (ch :: acc) .none rest
  | .none, '\r' :: '\n' :: rest => multiBasicString ('\n' :: acc) .none rest
  | .none, c :: rest =>
    if c == '\n' || isBasicChar c || c == '"' then multiBasicString (c :: acc) .none rest
    else none
termination_by (cs.length, match mode with | .trimming => 1 | _ => 0)

/-- A multi-line literal string after its opening apostrophes and the line break that may
follow them; closed as a multi-line basic string is. -/
def multiLiteralString (acc : List Char) : List Char → Option (String × List Char)
  | [] => none
  | '\'' :: '\'' :: '\'' :: '\'' :: '\'' :: rest =>
    some (String.ofList (acc.reverse ++ ['\'', '\'']), rest)
  | '\'' :: '\'' :: '\'' :: '\'' :: rest => some (String.ofList (acc.reverse ++ ['\'']), rest)
  | '\'' :: '\'' :: '\'' :: rest => some (String.ofList acc.reverse, rest)
  | '\r' :: '\n' :: rest => multiLiteralString ('\n' :: acc) rest
  | c :: rest =>
    if c == '\n' || isLiteralChar c || c == '\'' then multiLiteralString (c :: acc) rest
    else none

/-- Drops the line break that may follow the opening delimiter of a multi-line string. -/
def dropOpeningNewline (cs : List Char) : List Char := (afterNewline? cs).getD cs

/-! ### Numbers, booleans and date-times -/

/-- Whether the rest of a digit run is digits, each underscore between two digits. -/
def digitsAfter (p : Char → Bool) : List Char → Bool
  | [] => true
  | '_' :: c :: rest => p c && digitsAfter p rest
  | c :: rest => p c && digitsAfter p rest

/-- A non-empty run of digits with single underscores between them. -/
def isDigitRun (p : Char → Bool) : List Char → Bool
  | [] => false
  | c :: rest => p c && digitsAfter p rest

/-- The value of a digit run in a base, underscores skipped. -/
def runValue (base : Nat) (cs : List Char) : Nat :=
  cs.foldl (fun acc c => if c == '_' then acc else acc * base + ((hexDigit? c).getD 0)) 0

/-- An unsigned decimal integer: `0`, or digits without a leading zero. -/
def isUnsignedDecimal : List Char → Bool
  | ['0'] => true
  | c :: rest => c != '0' && isDigitRun Char.isDigit (c :: rest)
  | [] => false

/-- The largest value of a signed 64-bit integer. -/
def int64Max : Nat := Nat.pow 2 63 - 1

/-- A decimal integer with an optional sign, within the signed 64-bit range. -/
def isDecimalInteger (cs : List Char) : Bool :=
  match cs with
  | '-' :: rest => isUnsignedDecimal rest && runValue 10 rest ≤ int64Max + 1
  | '+' :: rest => isUnsignedDecimal rest && runValue 10 rest ≤ int64Max
  | _ => isUnsignedDecimal cs && runValue 10 cs ≤ int64Max

/-- A hexadecimal, octal or binary integer, without sign, within the signed 64-bit range. -/
def isPrefixedInteger : List Char → Bool
  | '0' :: 'x' :: rest => isDigitRun (fun c => (hexDigit? c).isSome) rest && runValue 16 rest ≤ int64Max
  | '0' :: 'o' :: rest => isDigitRun (fun c => '0' ≤ c ∧ c ≤ '7') rest && runValue 8 rest ≤ int64Max
  | '0' :: 'b' :: rest => isDigitRun (fun c => c == '0' || c == '1') rest && runValue 2 rest ≤ int64Max
  | _ => false

/-- Digits or underscores. -/
def isDigitOrUnderscore (c : Char) : Bool := c.isDigit || c == '_'

/-- An exponent after its `e`: an optional sign, then digits. -/
def isExponent : List Char → Bool
  | '+' :: rest => isDigitRun Char.isDigit rest
  | '-' :: rest => isDigitRun Char.isDigit rest
  | cs => isDigitRun Char.isDigit cs

/-- The part of a float after its integer part: a fraction, an exponent, or both. -/
def isFloatTail : List Char → Bool
  | '.' :: rest =>
    let (fraction, after) := rest.span isDigitOrUnderscore
    isDigitRun Char.isDigit fraction &&
      (match after with
        | [] => true
        | 'e' :: e => isExponent e
        | 'E' :: e => isExponent e
        | _ => false)
  | 'e' :: e => isExponent e
  | 'E' :: e => isExponent e
  | _ => false

/-- A float without sign: `inf`, `nan`, or an integer part followed by a fraction or exponent. -/
def isUnsignedFloat (cs : List Char) : Bool :=
  cs == ['i', 'n', 'f'] || cs == ['n', 'a', 'n'] ||
    (let (whole, tail) := cs.span isDigitOrUnderscore
     isUnsignedDecimal whole && isFloatTail tail)

/-- The value of the digits of a run, underscores skipped, and how many digits it has. -/
def digitValue (cs : List Char) : Nat × Nat :=
  cs.foldl (fun (v, n) c => if c.isDigit then (10 * v + (c.toNat - 48), n + 1) else (v, n)) (0, 0)

/-- Whether an unsigned decimal float is so large that it rounds to infinity as a double, that is,
whether it is at least `2^1024 - 2^970`. Its value is the digits of the integer part and the
fraction times ten to the exponent less the fraction's length; a value of at least `10^309` is
too large and one below `10^308` is not, and between them the bound is compared exactly. -/
def overflowsDouble (cs : List Char) : Bool :=
  let (whole, tail) := cs.span isDigitOrUnderscore
  let (fraction, expPart) := match tail with
    | '.' :: rest => rest.span isDigitOrUnderscore
    | _ => ([], tail)
  let exponent : Int := match expPart with
    | _ :: '-' :: ds => -((digitValue ds).1 : Int)
    | _ :: '+' :: ds => (digitValue ds).1
    | _ :: ds => (digitValue ds).1
    | [] => 0
  let mantissa := (digitValue (whole ++ fraction)).1
  let scale : Int := exponent - (digitValue fraction).2
  let digits : Int := (Nat.toDigits 10 mantissa).length
  let limit := Nat.pow 2 1024 - Nat.pow 2 970
  if mantissa == 0 then false
  else if digits - 1 + scale ≥ 309 then true
  else if digits + scale ≤ 308 then false
  else if scale ≥ 0 then decide (limit ≤ mantissa * Nat.pow 10 scale.toNat)
  else decide (limit * Nat.pow 10 (-scale).toNat ≤ mantissa)

/-- A float with an optional sign. A positive one that rounds to infinity is refused; a negative
one is not. -/
def isFloat : List Char → Bool
  | '+' :: rest => isUnsignedFloat rest && !overflowsDouble rest
  | '-' :: rest => isUnsignedFloat rest
  | cs => isUnsignedFloat cs && !overflowsDouble cs

/-- The value of two decimal digits. -/
def twoDigits? (a b : Char) : Option Nat :=
  if a.isDigit ∧ b.isDigit then some ((a.toNat - 48) * 10 + (b.toNat - 48)) else none

/-- Whether a year is a leap year of the Gregorian calendar. -/
def isLeap (year : Nat) : Bool := year % 4 == 0 && (year % 100 != 0 || year % 400 == 0)

/-- The number of days of a month. -/
def monthDays (year month : Nat) : Nat :=
  if month == 2 then (if isLeap year then 29 else 28)
  else if month == 4 || month == 6 || month == 9 || month == 11 then 30
  else 31

/-- A calendar date `YYYY-MM-DD` at the front; the rest after it. -/
def fullDate? : List Char → Option (List Char)
  | y1 :: y2 :: y3 :: y4 :: '-' :: m1 :: m2 :: '-' :: d1 :: d2 :: rest => do
    let hi ← twoDigits? y1 y2
    let lo ← twoDigits? y3 y4
    let month ← twoDigits? m1 m2
    let day ← twoDigits? d1 d2
    if 1 ≤ month ∧ month ≤ 12 ∧ 1 ≤ day ∧ day ≤ monthDays (hi * 100 + lo) month then some rest
    else none
  | _ => none

/-- A time `HH:MM:SS` with an optional fraction of a second at the front; the rest after it. -/
def partialTime? : List Char → Option (List Char)
  | h1 :: h2 :: ':' :: m1 :: m2 :: ':' :: s1 :: s2 :: rest => do
    let hour ← twoDigits? h1 h2
    let minute ← twoDigits? m1 m2
    let second ← twoDigits? s1 s2
    if hour ≤ 23 ∧ minute ≤ 59 ∧ second ≤ 60 then
      match rest with
      | '.' :: fraction =>
        let digits := fraction.takeWhile Char.isDigit
        if digits.isEmpty then none else some (fraction.drop digits.length)
      | _ => some rest
    else none
  | _ => none

/-- Whether `cs` is exactly a time offset: `Z` or `±HH:MM`. -/
def isOffset : List Char → Bool
  | ['Z'] => true
  | ['z'] => true
  | [sign, h1, h2, ':', m1, m2] =>
    (sign == '+' || sign == '-') &&
      (match twoDigits? h1 h2, twoDigits? m1 m2 with
        | some h, some m => h ≤ 23 && m ≤ 59
        | _, _ => false)
  | _ => false

/-- Whether `cs` is exactly a time, optionally with an offset when `zoned`. -/
def isTime (zoned : Bool) (cs : List Char) : Bool :=
  match partialTime? cs with
  | some [] => true
  | some rest => zoned && isOffset rest
  | none => false

/-- Whether `cs` is exactly a date-time, a date or a time of day. -/
def isDateTime (cs : List Char) : Bool :=
  match fullDate? cs with
  | some [] => true
  | some (t :: rest) => (t == 'T' || t == 't') && isTime true rest
  | none => isTime false cs

/-- Characters that can continue a number, boolean or date-time. -/
def isScalarChar (c : Char) : Bool :=
  c.isAlphanum || c == '_' || c == '+' || c == '-' || c == '.' || c == ':'

/-- Whether a run of scalar characters is an integer, float, boolean or date-time. -/
def isScalar (cs : List Char) : Bool :=
  cs == "true".toList || cs == "false".toList || isDecimalInteger cs || isPrefixedInteger cs ||
    isFloat cs || isDateTime cs

/-- A number, boolean or date-time at the front. A date followed by a space and a time is one
date-time. -/
def scalar? (cs : List Char) : Option (List Char) :=
  let (token, rest) := cs.span isScalarChar
  if !isScalar token then none
  else
    match fullDate? token, rest with
    | some [], ' ' :: more =>
      let (time, after) := more.span isScalarChar
      if isTime true time then some after else some rest
    | _, _ => some rest

end Migrator.Toml
