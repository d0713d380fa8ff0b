import Migrator.Text.Blank
import Migrator.Text.Word
import Migrator.Text.Case

/-!
The object header of a SQL source file: the first `CREATE [OR REPLACE] <type> [IF NOT EXISTS]
<name>` in the text, where the type is one or more words of letters and the name is either
qualified (`schema.object`) or bare and followed by `;`. Keywords match in any case (the long s
`ſ` counts as `s`, the Kelvin sign as `k`); `CREATE` must start a word; it is followed by any
white space, while the parts after it are separated by spaces or tabs only, so they share a line.

Where several readings fit, the earliest `CREATE` wins; there, `OR REPLACE` is taken as such
before it is read as type words, the qualified form is tried before the bare one, and the type
with the fewest words wins.
-/
namespace Migrator

/-- A detected header: the type keyword, upper-cased with single spaces, and the name. -/
structure Header where
  objectType : String
  name : String
deriving DecidableEq, Repr

namespace Header

open Migrator.Text

/-- Letters of a type word: ASCII letters, and the two characters that fold to ASCII letters. -/
def isTypeLetter (c : Char) : Bool := c.isAlpha || c == 'ſ' || c == '\u212A'

/-- Spaces and tabs, the separators inside a header. -/
def isSpaceTab (c : Char) : Bool := c == ' ' || c == '\t'

/-- Whether `c` is the lower-case ASCII letter `l` in any case, or a character folding to it. -/
def letterMatches (l c : Char) : Bool :=
  c == l || c == l.toUpper || (l == 's' && c == 'ſ') || (l == 'k' && c == '\u212A')

/-- Reads the keyword `w` (lower case) at the front of `cs`, in any case. -/
def keyword : List Char → List Char → Option (List Char)
  | [], cs => some cs
  | _ :: _, [] => none
  | l :: w, c :: cs => if letterMatches l c then keyword w cs else none

/-- Reads a non-empty run of spaces and tabs. -/
def blanks (cs : List Char) : Option (List Char) :=
  if (cs.takeWhile isSpaceTab).isEmpty then none else some (cs.dropWhile isSpaceTab)

/-- The length of the keyword `kw` and the spaces and tabs after it at the front of `cs`, if
both are there. -/
def keywordBlanks (kw : List Char) (cs : List Char) : Option Nat :=
  (keyword kw cs).bind fun rest =>
    let gap := (rest.takeWhile isSpaceTab).length
    if gap = 0 then none else some (kw.length + gap)

/-- The length of `or replace` and the blanks after it at the front of `cs`. -/
def orReplace (cs : List Char) : Option Nat :=
  (keywordBlanks "or".toList cs).bind fun n =>
    (keywordBlanks "replace".toList (cs.drop n)).map (n + ·)

/-- The length of `if not exists` and the blanks after it at the front of `cs`. -/
def ifNotExists (cs : List Char) : Option Nat :=
  (keywordBlanks "if".toList cs).bind fun n =>
    (keywordBlanks "not".toList (cs.drop n)).bind fun m =>
      (keywordBlanks "exists".toList (cs.drop (n + m))).map (n + m + ·)

/-- A qualified name `a.b` of word characters at the front of `cs`; nothing may follow. -/
def qualifiedName (cs : List Char) : Option (List Char) :=
  let first := cs.takeWhile isWord
  match cs.dropWhile isWord with
  | '.' :: rest =>
    let second := rest.takeWhile isWord
    if first.isEmpty || second.isEmpty then none else some (first ++ '.' :: second)
  | _ => none

/-- A bare name of word characters at the front of `cs`, then blanks and a semicolon. -/
def bareName (cs : List Char) : Option (List Char) :=
  let name := cs.takeWhile isWord
  match (cs.dropWhile isWord).dropWhile isSpaceTab with
  | ';' :: _ => if name.isEmpty then none else some name
  | _ => none

/-- What follows the type: blanks, then the name read by `name`, after an optional
`if not exists`, which is taken as such first. -/
def afterType (name : List Char → Option (List Char)) (cs : List Char) : Option (List Char) :=
  (blanks cs).bind fun rest =>
    ((ifNotExists rest).bind fun n => name (rest.drop n)).or (name rest)

/-- What a header reads: the characters of its type and of its name. -/
abbrev Parts := List Char × List Char

/-- The type and name starting at `c`, where `rest` follows `c` and `later` is what starts at
`rest`. A letter followed by the name ends the type there, so the type keeps the fewest words;
any other letter, and a space or tab, joins the type that follows. -/
def typeStep (name : List Char → Option (List Char)) (c : Char) (rest : List Char)
    (later : Option Parts) : Option Parts :=
  let joined := later.map fun (type, found) => (c :: type, found)
  if isSpaceTab c then joined
  else if isTypeLetter c then
    match afterType name rest with
    | some found => some ([c], found)
    | none => joined
  else none

/-- The type words at the front of `cs` and the name after them, the type with the fewest
words; `cs` starts where a type may start, after white space. -/
def typeFrom (name : List Char → Option (List Char)) : List Char → Option Parts
  | [] => none
  | c :: rest => typeStep name c rest (typeFrom name rest)

/-- `typeFrom name` at every suffix of `cs`, longest first, the empty one last. Each is computed from the next, so
the type words are read once for the whole text rather than once for every header start. -/
def typeTable (name : List Char → Option (List Char)) : List Char → List (Option Parts)
  | [] => [none]
  | c :: rest =>
    let later := typeTable name rest
    typeStep name c rest (later.headD none) :: later

theorem headD_typeTable (name : List Char → Option (List Char)) (cs : List Char) :
    (typeTable name cs).headD none = typeFrom name cs := by
  induction cs with
  | nil => rfl
  | cons c rest ih => simp only [typeTable, List.headD_cons, ih, typeFrom]

/-- The table holds `typeFrom name` of each suffix, longest first. -/
theorem typeTable_cons (name : List Char → Option (List Char)) (c : Char) (rest : List Char) :
    typeTable name (c :: rest) = typeFrom name (c :: rest) :: typeTable name rest := by
  simp only [typeTable, headD_typeTable, typeFrom]

/-- The header where a type starts, given the readings from that place on, qualified and bare:
the qualified form first. -/
def typeAt : List (Option Parts × Option Parts) → Option Parts
  | [] => none
  | (qualified, bare) :: _ => qualified.or bare

/-- The type and name after `create` and its white space: with `or replace` read as such
first, then without. -/
def afterCreate (cs : List Char) (places : List (Option Parts × Option Parts)) : Option Parts :=
  match orReplace cs with
  | some n => (typeAt (places.drop n)).or (typeAt places)
  | none => typeAt places

/-- A header starting at the front of `cs`, where `prev` is the character before it and
`places` holds the readings of `cs` and of each of its suffixes. -/
def matchAt (prev : Option Char) (cs : List Char) (places : List (Option Parts × Option Parts)) :
    Option Parts :=
  if prev.any isWord then none
  else match keyword "create".toList cs with
    | none => none
    | some rest =>
      let white := (rest.takeWhile isBlank).length
      if white = 0 then none
      else afterCreate (rest.drop white) (places.drop ("create".length + white))

/-- The first header in `cs`, trying each start in order; `places` runs along `cs`. -/
def search (prev : Option Char) : List Char → List (Option Parts × Option Parts) → Option Parts
  | [], _ => none
  | c :: rest, places =>
    match matchAt prev (c :: rest) places with
    | some found => some found
    | none => search (some c) rest places.tail

/-- A type keyword upper-cased, its words joined by single spaces. -/
def normalizeType (keyword : String) : String :=
  " ".intercalate ((words keyword).map toUpper)

/-- The first object header of a SQL text, if any. -/
def detect (sql : String) : Option Header :=
  let cs := sql.toList
  match search none cs ((typeTable qualifiedName cs).zip (typeTable bareName cs)) with
  | none => none
  | some (type, name) =>
    let objectType := normalizeType (trim (String.ofList type))
    let name := trim (String.ofList name)
    if objectType.isEmpty || name.isEmpty then none else some ⟨objectType, name⟩

end Header

end Migrator
