import Migrator.Command

/-!
Finding a command again in an artifact. A block opens with the begin marker of a name and type
(trailing spaces or tabs allowed, then a line break, `\r\n` or `\n`) and closes at the first
end marker of the same name and type that stands at the end of a line (optionally preceded by a
line break that is not part of the body, optionally followed by spaces, tabs and a `\r`). The
body is the text between, as short as possible; the first begin marker that has a closing one
wins. Markers match literally and in their case.
-/
namespace Migrator.Block

/-- Whether `marker` is a prefix of `cs`; if so, what follows it. -/
def afterPrefix : List Char → List Char → Option (List Char)
  | [], cs => some cs
  | _ :: _, [] => none
  | m :: ms, c :: cs => if m = c then afterPrefix ms cs else none

/-- Spaces and tabs. -/
def isSpaceTab (c : Char) : Bool := c == ' ' || c == '\t'

/-- Whether `cs` is at the end of a line: the end of the text, or a line feed, after an optional
carriage return. -/
def atLineEnd : List Char → Bool
  | [] => true
  | '\n' :: _ => true
  | ['\r'] => true
  | '\r' :: '\n' :: _ => true
  | _ => false

/-- Whether the end marker, after spaces and tabs, ends its line at the front of `cs`. -/
def closesHere (endMarker : List Char) (cs : List Char) : Bool :=
  match afterPrefix endMarker cs with
  | some rest => atLineEnd (rest.dropWhile isSpaceTab)
  | none => false

/-- Whether a body may end at the front of `cs`: an optional `\r`, an optional `\n`, then a
closing end marker. -/
def bodyEnds (endMarker : List Char) (cs : List Char) : Bool :=
  closesHere endMarker cs ||
    (match cs with
      | '\r' :: '\n' :: rest => closesHere endMarker rest
      | _ => false) ||
    (match cs with
      | '\r' :: rest => closesHere endMarker rest
      | _ => false) ||
    (match cs with
      | '\n' :: rest => closesHere endMarker rest
      | _ => false)

/-- The shortest body starting at `c`, where `rest` follows `c` and `later` is the shortest
body starting at `rest`: empty when a closing end marker follows at once, else `c` before the
later one. -/
def bodyStep (endMarker : List Char) (c : Char) (rest : List Char) (later : Option (List Char)) :
    Option (List Char) :=
  if bodyEnds endMarker (c :: rest) then some [] else later.map (c :: ·)

/-- The shortest body at the front of `cs` that a closing end marker follows. -/
def bodyFrom (endMarker : List Char) : List Char → Option (List Char)
  | [] => if bodyEnds endMarker [] then some [] else none
  | c :: rest => bodyStep endMarker c rest (bodyFrom endMarker rest)

/-- `bodyFrom endMarker` at every suffix of `cs`, longest first, the empty one last. Each is
computed from the next, so the text after the begin markers is read once, not once for each. -/
def bodyTable (endMarker : List Char) : List Char → List (Option (List Char))
  | [] => [bodyFrom endMarker []]
  | c :: rest =>
    let later := bodyTable endMarker rest
    bodyStep endMarker c rest (later.headD none) :: later

theorem headD_bodyTable (endMarker cs : List Char) :
    (bodyTable endMarker cs).headD none = bodyFrom endMarker cs := by
  induction cs with
  | nil => rfl
  | cons c rest ih => simp only [bodyTable, List.headD_cons, ih, bodyFrom]

/-- The table holds `bodyFrom endMarker` of each suffix, longest first. -/
theorem bodyTable_cons (endMarker : List Char) (c : Char) (rest : List Char) :
    bodyTable endMarker (c :: rest) = bodyFrom endMarker (c :: rest) :: bodyTable endMarker rest := by
  simp only [bodyTable, headD_bodyTable, bodyFrom]

/-- The length of what follows the begin marker up to the body: spaces or tabs, then `\r\n`
or `\n`. -/
def beginLineLength (cs : List Char) : Option Nat :=
  let blanks := (cs.takeWhile isSpaceTab).length
  match cs.drop blanks with
  | '\r' :: '\n' :: _ => some (blanks + 2)
  | '\n' :: _ => some (blanks + 1)
  | _ => none

/-- The body of a block that starts at the front of `cs`, where `bodies` holds the shortest
bodies of `cs` and of each of its suffixes. -/
def blockAt (beginMarker : List Char) (cs : List Char) (bodies : List (Option (List Char))) :
    Option (List Char) :=
  match afterPrefix beginMarker cs with
  | some rest =>
    (beginLineLength rest).bind fun n => (bodies.drop (beginMarker.length + n)).headD none
  | none => none

/-- The body of the first block in `cs`, trying each start in order; `bodies` runs along `cs`. -/
def first (beginMarker : List Char) : List Char → List (Option (List Char)) → Option (List Char)
  | [], _ => none
  | c :: rest, bodies =>
    match blockAt beginMarker (c :: rest) bodies with
    | some body => some body
    | none => first beginMarker rest bodies.tail

/-- The body of the first block of the command `name`/`objectType` in `content`. -/
def find? (content name objectType tag : String) : Option String :=
  let c : Command := { name, objectType, sql := "" }
  let cs := content.toList
  (first (c.beginMarker tag).toList cs (bodyTable (c.endMarker tag).toList cs)).map String.ofList

end Migrator.Block
