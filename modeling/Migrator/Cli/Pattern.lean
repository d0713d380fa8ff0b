import Migrator.Text.Alnum
import Migrator.Text.Blank

/-!
Which field values a log filter directive accepts. A value `true` or `false`, or one that reads
as a number, is taken as such; any other value is a pattern, compiled to a deterministic
automaton over UTF-8 text, and a pattern that does not compile makes the whole directive fail.

The pattern syntax is the usual one of alternatives, groups, repetitions, bracketed classes
and escapes. A pattern fails to compile when

* it is malformed: an unclosed or unopened group, an unclosed class, a repetition with nothing
  to repeat, an unknown escape or flag, a backreference, a look-around group, an empty or
  repeated group name, a reversed range, an assertion inside a class;
* it counts a repetition with braces: a field value ends at `}` or `,`, so the closing brace of
  `a{2}` can never be part of it, and an open brace outside a class is always an error;
* it tests a Unicode word boundary (`\b`, `\B`, `\<`, `\>` in Unicode mode), which the automaton
  cannot do;
* outside Unicode mode (`(?-u)`) it could match bytes that are not UTF-8: `.`, a negated class,
  `\D`, `\S`, `\W`, `\B`, or a byte `\x80` to `\xFF`; or it asks for Unicode there: a `\p` class,
  a non-ASCII character in a class, or a non-ASCII character without case.
-/
namespace Migrator.Cli.Pattern

/-- The flags in force at a point of a pattern: Unicode mode (`u`, on at the start), case
insensitivity (`i`) and extended mode (`x`, where blanks and `#` comments are skipped). -/
structure Flags where
  unicode : Bool
  caseless : Bool
  extended : Bool
deriving DecidableEq, Repr

/-- The flags a pattern starts with. -/
def Flags.initial : Flags := ⟨true, false, false⟩

/-- Turns one flag letter on or off; the letters `m`, `s`, `U` and `R` change nothing that
decides whether a pattern compiles. -/
def Flags.set (f : Flags) (c : Char) (on : Bool) : Flags :=
  if c == 'u' then { f with unicode := on }
  else if c == 'i' then { f with caseless := on }
  else if c == 'x' then { f with extended := on }
  else f

mutual

/-- Drops blanks and `#` comments, each comment up to and including its line break. -/
def dropBlanks : List Char → List Char
  | [] => []
  | c :: rest =>
    if Text.isBlank c then dropBlanks rest
    else if c == '#' then dropComment rest
    else c :: rest

/-- Drops the rest of a comment, then what `dropBlanks` drops. -/
def dropComment : List Char → List Char
  | [] => []
  | c :: rest => if c == '\n' then dropBlanks rest else dropComment rest

end

/-- What the reader skips before reading on: blanks and comments in extended mode, nothing
otherwise. -/
def Flags.gap (f : Flags) (cs : List Char) : List Char :=
  if f.extended then dropBlanks cs else cs

/-- The character after the current one, looking past blanks in extended mode. Past a `#` the
first character that is not blank is the answer, even inside the comment; with none, it is the
very next character. -/
def Flags.peek (f : Flags) (cs : List Char) : Option Char :=
  let rec go (inComment : Bool) : List Char → Option Char
    | [] => cs.head?
    | c :: rest =>
      if Text.isBlank c then go inComment rest
      else if !inComment && c == '#' then go true rest
      else some c
  if f.extended then go false cs else cs.head?

/-- What an escape stands for. -/
inductive Escape where
  /-- A character; `byte` when written `\xHH`, which outside Unicode mode is a byte. -/
  | literal (c : Char) (byte : Bool)
  /-- `\d`, `\s` or `\w`, or negated, `\D`, `\S` or `\W`. -/
  | perl (negated : Bool)
  /-- A Unicode class `\pX` or `\PX` with a known one-letter name. -/
  | unicode
  /-- `\A` or `\z` (`word` false), or a word boundary `\b`, `\<`, `\>` (`word` true). -/
  | assertion (word : Bool)
deriving DecidableEq, Repr

/-- The value of a hexadecimal digit. -/
def hexValue (c : Char) : Option Nat :=
  if '0' ≤ c ∧ c ≤ '9' then some (c.toNat - 48)
  else if 'a' ≤ c ∧ c ≤ 'f' then some (c.toNat - 87)
  else if 'A' ≤ c ∧ c ≤ 'F' then some (c.toNat - 55)
  else none

/-- Reads `n` hexadecimal digits, skipping what the flags skip after each one. -/
def readHex (f : Flags) : Nat → Nat → List Char → Option (Nat × List Char)
  | 0, acc, cs => some (acc, cs)
  | _ + 1, _, [] => none
  | n + 1, acc, c :: rest => do
    let v ← hexValue c
    readHex f n (16 * acc + v) (f.gap rest)

/-- Whether a number is a Unicode scalar value, a code point that is not a surrogate. -/
def isScalar (n : Nat) : Bool := n < 0xD800 || (0xDFFF < n && n ≤ 0x10FFFF)

/-- Characters that stand for themselves after a backslash: the pattern's own operators and
every ASCII character that is not a letter, a digit, `<` or `>`. -/
def isEscapable (c : Char) : Bool :=
  c.toNat < 128 && !c.isAlphanum && c != '<' && c != '>'

/-- Reads an escape after its backslash. A backreference, an escape with braces (none can close
inside a field value), an unknown letter or a non-ASCII character after the backslash, and a
one-letter class name that is not a general category (`C`, `L`, `M`, `N`, `P`, `S`, `Z` in any
case) are errors. -/
def readEscape (f : Flags) : List Char → Option (Escape × List Char)
  | [] => none
  | c :: rest =>
    if c.isDigit then none
    else if c == 'x' || c == 'u' || c == 'U' then
      match f.gap rest with
      | '{' :: _ => none
      | cs => do
        let (n, rest) ← readHex f (if c == 'x' then 2 else if c == 'u' then 4 else 8) 0 cs
        if isScalar n then some (.literal (Char.ofNat n) (c == 'x'), rest) else none
    else if c == 'p' || c == 'P' then
      match f.gap rest with
      | [] | '{' :: _ | '\\' :: _ => none
      | name :: rest =>
        if "clmnpsz".toList.contains name.toLower then some (.unicode, f.gap rest) else none
    else if c == 'd' || c == 's' || c == 'w' then some (.perl false, rest)
    else if c == 'D' || c == 'S' || c == 'W' then some (.perl true, rest)
    else if isEscapable c then some (.literal c false, rest)
    else if c == 'a' then some (.literal '\x07' false, rest)
    else if c == 'f' then some (.literal '\x0C' false, rest)
    else if c == 't' then some (.literal '\t' false, rest)
    else if c == 'n' then some (.literal '\n' false, rest)
    else if c == 'r' then some (.literal '\r' false, rest)
    else if c == 'v' then some (.literal '\x0B' false, rest)
    else if c == 'A' || c == 'z' then some (.assertion false, rest)
    else if c == 'b' then
      match rest with
      | '{' :: _ => none
      | _ => some (.assertion true, rest)
    else if c == '<' || c == '>' then some (.assertion true, rest)
    else none

/-- Whether an escape may stand outside a class under the flags: a word boundary only outside
Unicode mode, and outside it no byte above `\x7F`, no negated Perl class, no Unicode class, and
no non-ASCII character without case. `\B` never compiles and does not get this far. -/
def Escape.fitsOutside (f : Flags) : Escape → Bool
  | .literal c byte =>
    f.unicode || c.toNat < 128 || (!byte && !f.caseless)
  | .perl negated => f.unicode || !negated
  | .unicode => f.unicode
  | .assertion word => !word || !f.unicode

/-- Whether an escape may stand in a class under the flags: no assertion, and outside Unicode
mode only ASCII characters and non-negated Perl classes. -/
def Escape.fitsInClass (f : Flags) : Escape → Bool
  | .literal c _ => f.unicode || c.toNat < 128
  | .perl negated => f.unicode || !negated
  | .unicode => f.unicode
  | .assertion _ => false

/-- One item of a class or one end of a range: an escape or a character standing for itself. -/
def readClassItem (f : Flags) : List Char → Option (Escape × List Char)
  | [] => none
  | '\\' :: rest => readEscape f rest
  | c :: rest => some (.literal c false, rest)

/-- The names of the ASCII classes written `[:name:]` inside a class. -/
def asciiClassNames : List String :=
  ["alnum", "alpha", "ascii", "blank", "cntrl", "digit", "graph", "lower", "print", "punct",
    "space", "upper", "word", "xdigit"]

/-- Reads an ASCII class `[:name:]` or `[:^name:]` after its `[`, answering whether it is
negated and the rest; none when the text is not one, and the `[` then opens a nested class. -/
def readAsciiClass (cs : List Char) : Option (Bool × List Char) :=
  match cs with
  | ':' :: rest =>
    let (negated, rest) := match rest with
      | '^' :: more => (true, more)
      | more => (false, more)
    let (name, after) := rest.span (· != ':')
    match after with
    | ':' :: ']' :: more =>
      if asciiClassNames.contains (String.ofList name) then some (negated, more) else none
    | _ => none
  | _ => none

/-- Reads an item or a range `a-b` of a class. A `-` right before `]` or another `-` stands for
itself; the ends of a range must be characters, in order. -/
def readRange (f : Flags) (cs : List Char) : Option (List Char) := do
  let (first, rest) ← readClassItem f cs
  let rest := f.gap rest
  match rest with
  | [] => none
  | '-' :: after =>
    if f.peek after == some ']' || f.peek after == some '-' then
      if first.fitsInClass f then some rest else none
    else
      match f.gap after with
      | [] => none
      | more => do
        let (last, rest) ← readClassItem f more
        match first, last with
        | .literal a _, .literal b _ =>
          if a ≤ b && first.fitsInClass f && last.fitsInClass f then some rest else none
        | _, _ => none
  | _ => if first.fitsInClass f then some rest else none

/-- Drops the `-` signs that open a class, with what the flags skip after each, and answers
whether there was one. -/
def dropDashes (f : Flags) : Nat → List Char → Bool × List Char
  | 0, cs => (false, cs)
  | n + 1, '-' :: rest => (true, (dropDashes f n (f.gap rest)).2)
  | _, cs => (false, cs)

/-- Reads the opening of a class after its `[`: an optional `^`, then `-` signs and, when there
is none, a `]`, all standing for themselves. Outside Unicode mode a negated class matches bytes
that are not UTF-8, so it is an error. -/
def openClass (f : Flags) (cs : List Char) : Option (List Char) :=
  match f.gap cs with
  | [] => none
  | c :: rest =>
    let (negated, cs) := if c == '^' then (true, f.gap rest) else (false, c :: rest)
    if negated && !f.unicode then none
    else
      match dropDashes f (cs.length + 1) cs with
      | (_, []) => none
      | (dashes, ']' :: rest) =>
        if dashes then some (']' :: rest)
        else
          match f.gap rest with
          | [] => none
          | more => some more
      | (_, more) => some more

/-- Reads the body of a class up to and including its `]`: items, ranges, ASCII classes, nested
classes and the operators `&&`, `--` and `~~`. -/
def readClass : Nat → Flags → List Char → Option (List Char)
  | 0, _, _ => none
  | fuel + 1, f, cs =>
    match f.gap cs with
    | [] => none
    | ']' :: rest => some rest
    | '[' :: rest =>
      match readAsciiClass rest with
      | some (negated, more) => if negated && !f.unicode then none else readClass fuel f more
      | none => do
        let more ← readClass fuel f (← openClass f rest)
        readClass fuel f more
    | '&' :: '&' :: rest | '-' :: '-' :: rest | '~' :: '~' :: rest => readClass fuel f rest
    | more => do readClass fuel f (← readRange f more)

/-- Whether a character may start a group name: `_` or a letter (outside ASCII, any letter or
number). -/
def isNameStart (c : Char) : Bool :=
  c == '_' || c.isAlpha || (128 ≤ c.toNat && Text.isAlphanumeric c)

/-- Whether a character may continue a group name. -/
def isNameChar (c : Char) : Bool :=
  c == '_' || c == '.' || c == '[' || c == ']' || Text.isAlphanumeric c

/-- Reads a group name up to its `>`: not empty, and not one named before. -/
def readName (names : List String) (cs : List Char) : Option (List String × List Char) :=
  let (name, rest) := cs.span (· != '>')
  match name, rest with
  | c :: more, '>' :: after =>
    let text := String.ofList name
    if isNameStart c && more.all isNameChar && !names.contains text then
      some (names ++ [text], after)
    else none
  | _, _ => none

/-- Reads the flags of `(?flags)` or `(?flags:` up to the `)` or `:`, which it answers with the
flags it leaves and the rest. No flag may come twice, nor `-`; the letters after `-` turn flags
off; the last item may not be `-`, and `(?)` is empty. -/
def readFlags (f : Flags) (seen : List Char) (on : Bool) : List Char → Option (Flags × Char × List Char)
  | [] => none
  | c :: rest =>
    if c == ':' || c == ')' then
      if seen.head? == some '-' || (c == ')' && seen.isEmpty) then none else some (f, c, rest)
    else if seen.contains c then none
    else if c == '-' then readFlags f (c :: seen) false rest
    else if "imsUuxR".toList.contains c then readFlags (f.set c on) (c :: seen) on rest
    else none

/-- What an opening parenthesis begins: flags for the rest of the enclosing group, or a group
read with its own flags. -/
inductive Opening where
  | setFlags (f : Flags)
  | group (f : Flags)

/-- Reads what follows an opening parenthesis: a look-around is an error; `?P<name>` or
`?<name>` names a group; `?flags)` sets flags and `?flags:` opens a group with them. -/
def readOpening (f : Flags) (names : List String) :
    List Char → Option (Opening × List String × List Char)
  | '?' :: '=' :: _ | '?' :: '!' :: _ | '?' :: '<' :: '=' :: _ | '?' :: '<' :: '!' :: _ => none
  | '?' :: 'P' :: '<' :: rest | '?' :: '<' :: rest => do
    let (names, rest) ← readName names rest
    some (.group f, names, rest)
  | '?' :: rest => do
    let (g, stop, rest) ← readFlags f [] true rest
    some (if stop == ')' then .setFlags g else .group g, names, rest)
  | cs => some (.group f, names, cs)

/-- The last item read in the current alternative, which decides whether a repetition may
follow: none yet, a flag setting `(?flags)`, or anything else. -/
inductive Last where
  | none
  | flags
  | item
deriving DecidableEq, Repr

/-- Reads the items of a group up to its `)` (consumed), or of the whole pattern up to its end
when `nested` is false; answers the group names so far and the rest. -/
def readItems : Nat → Flags → Bool → List String → Last → List Char →
    Option (List String × List Char)
  | 0, _, _, _, _, _ => none
  | fuel + 1, f, nested, names, last, cs =>
    match f.gap cs with
    | [] => if nested then none else some (names, [])
    | ')' :: rest => if nested then some (names, rest) else none
    | '|' :: rest => readItems fuel f nested names .none rest
    | '(' :: rest => do
      match ← readOpening f names (f.gap rest) with
      | (.setFlags g, names, rest) => readItems fuel g nested names .flags rest
      | (.group g, names, rest) =>
        let (names, rest) ← readItems fuel g true names .none rest
        readItems fuel f nested names .item rest
    | '[' :: rest => do
      let rest ← readClass fuel f (← openClass f rest)
      readItems fuel f nested names .item rest
    | '\\' :: rest =>
      match rest with
      | 'B' :: _ => none
      | _ => do
        let (e, rest) ← readEscape f rest
        if e.fitsOutside f then readItems fuel f nested names .item rest else none
    | c :: rest =>
      if c == '?' || c == '*' || c == '+' then
        if last == .item then
          readItems fuel f nested names .item (match rest with
            | '?' :: more => more
            | more => more)
        else none
      else if c == '{' then none
      else if c == '.' then
        if f.unicode then readItems fuel f nested names .item rest else none
      else if c == '^' || c == '$' || f.unicode || c.toNat < 128 || !f.caseless then
        readItems fuel f nested names .item rest
      else none

/-- Whether a pattern compiles. -/
def compiles (s : String) : Bool :=
  (readItems (s.length + 1) Flags.initial false [] .none s.toList).isSome

/-- Whether a text reads as a floating point number: an optional sign, then `inf`, `infinity` or
`nan` in any ASCII case, or digits with an optional point and exponent and at least one digit
before the exponent. Integers are among these. -/
def isNumber (s : String) : Bool :=
  let cs := match s.toList with
    | '+' :: rest | '-' :: rest => rest
    | rest => rest
  let word := String.ofList (cs.map Char.toLower)
  if word == "inf" || word == "infinity" || word == "nan" then true
  else
    let (whole, rest) := cs.span Char.isDigit
    let (fraction, rest) := match rest with
      | '.' :: more => more.span Char.isDigit
      | more => ([], more)
    let exponent := match rest with
      | [] => true
      | e :: more =>
        let digits := match more with
          | '+' :: ds | '-' :: ds => ds
          | ds => ds
        (e == 'e' || e == 'E') && !digits.isEmpty && digits.all Char.isDigit
    (!whole.isEmpty || !fraction.isEmpty) && exponent

/-- Whether a directive accepts a field value: a boolean, a number, or a pattern that
compiles. -/
def acceptsValue (s : String) : Bool :=
  s == "true" || s == "false" || isNumber s || compiles s

end Migrator.Cli.Pattern
