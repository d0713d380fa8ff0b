import Migrator.Text.Utf8

/-!
Paths as the operating system keeps them: raw bytes, components split at `/`. Joining follows
the usual rule (an absolute path replaces the base; a separator is added only between two
non-empty parts that lack one), components skip empty parts and inner `.`, and two paths compare
component by component. A path is shown by decoding its bytes, each ill-formed piece replaced.
-/
namespace Migrator

/-- A file-system path: the bytes of its text. -/
structure Path where
  bytes : List UInt8
deriving DecidableEq, Inhabited, Repr

namespace Path

/-- The byte of the separator `/`. -/
def sep : UInt8 := 47

/-- The byte of `.`. -/
def dot : UInt8 := 46

/-- The path spelled by a text. -/
def ofString (s : String) : Path := ⟨s.toUTF8.toList⟩

/-- The empty path. -/
def empty : Path := ⟨[]⟩

/-- Whether the path starts at the root. -/
def isAbsolute (p : Path) : Bool := p.bytes.head? == some sep

/-- `p` followed by `q`: `q` itself when absolute or when `p` is empty, with one separator
added when `p` does not already end in one. -/
def join (p q : Path) : Path :=
  if q.isAbsolute || p.bytes.isEmpty then q
  else if p.bytes.getLast? == some sep then ⟨p.bytes ++ q.bytes⟩
  else ⟨p.bytes ++ sep :: q.bytes⟩

/-- `p` followed by the path spelled by `s`. -/
def push (p : Path) (s : String) : Path := p.join (ofString s)

/-- The text shown for a path. -/
def display (p : Path) : String := Text.Utf8.decodeLossy p.bytes

/-- The text of a path, when its bytes are well-formed UTF-8. -/
def toText? (p : Path) : Option String := Text.Utf8.decode? p.bytes

/-- One component of a path. The order of the constructors is the order of components. -/
inductive Component where
  | root
  | current
  | parent
  | normal (name : List UInt8)
deriving DecidableEq, Repr

/-- The parts of a byte list between separators, empty parts included. -/
def splitSep (bytes : List UInt8) : List (List UInt8) := bytes.splitOn sep

/-- Whether the path opens with a `.` component that counts (no root, `.` alone or `./`). -/
def leadingCurrent (p : Path) : Bool :=
  match p.bytes with
  | [b] => b == dot
  | b :: c :: _ => b == dot && c == sep
  | [] => false

/-- The component that one part between separators stands for, if any. -/
def Component.ofPart (part : List UInt8) : Option Component :=
  if part.isEmpty || part == [dot] then none
  else if part == [dot, dot] then some .parent
  else some (.normal part)

/-- The components of a path: the root, a leading `.`, then every part but empty and `.` ones. -/
def components (p : Path) : List Component :=
  let head := if p.isAbsolute then [Component.root]
    else if p.leadingCurrent then [Component.current] else []
  head ++ (splitSep p.bytes).filterMap Component.ofPart

/-- The rank of a component's kind, in the order root, current, parent, normal. -/
def Component.rank : Component → Nat
  | .root => 0
  | .current => 1
  | .parent => 2
  | .normal _ => 3

/-- Lexicographic order of byte strings. -/
def bytesLt : List UInt8 → List UInt8 → Bool
  | [], [] => false
  | [], _ :: _ => true
  | _ :: _, [] => false
  | a :: as, b :: bs => a < b || (a == b && bytesLt as bs)

/-- Order of components: by kind, then names by their bytes. -/
def Component.lt : Component → Component → Bool
  | .normal a, .normal b => bytesLt a b
  | a, b => a.rank < b.rank

/-- Lexicographic order of component lists. -/
def componentsLt : List Component → List Component → Bool
  | [], [] => false
  | [], _ :: _ => true
  | _ :: _, [] => false
  | a :: as, b :: bs => a.lt b || (a == b && componentsLt as bs)

/-- Paths in component order. -/
def lt (p q : Path) : Bool := componentsLt p.components q.components

/-- The length of the prefix before the body: the root `/` or a leading `.`. -/
def headLength (p : Path) : Nat := if p.isAbsolute || p.leadingCurrent then 1 else 0

/-- Drops trailing parts of `body` that are empty or `.`, with their separators. -/
def trimBody (body : List UInt8) : List UInt8 :=
  let parts := ((splitSep body).reverse.dropWhile fun part => part.isEmpty || part == [dot]).reverse
  List.intercalate [sep] parts

/-- The path without its last component, when that is a name, `.` or `..`: its text up to the
separator before that component, with trailing separators and `.` parts dropped. The root alone
and the empty path have no parent. -/
def parent (p : Path) : Option Path :=
  let n := p.headLength
  let head := p.bytes.take n
  let body := trimBody (p.bytes.drop n)
  if body.isEmpty then
    -- Only the head is left: `.` has the empty path as parent, the root has none.
    if p.leadingCurrent && !p.isAbsolute then some empty else none
  else
    let parts := splitSep body
    let rest := parts.dropLast
    some ⟨head ++ trimBody (List.intercalate [sep] rest)⟩

/-- The last component when it is a name. -/
def fileName (p : Path) : Option (List UInt8) :=
  match p.components.getLast? with
  | some (.normal name) => some name
  | _ => none

end Path

end Migrator
