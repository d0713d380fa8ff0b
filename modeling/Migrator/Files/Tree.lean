import Migrator.Error

/-!
A file tree: every entry at a location, a location being the list of names from the root. Names
are byte strings, since file names need not be UTF-8. The root is always a directory and is not
stored. An entry is a file with its bytes, a directory, or a symbolic link with its target.
-/
namespace Migrator.Files

/-- One name in a directory. -/
abbrev Name := List UInt8

/-- A place in the tree: names from the root. -/
abbrev Location := List Name

/-- What a location holds. -/
inductive Entry where
  | file (bytes : List UInt8)
  | dir
  | link (target : List UInt8)
deriving DecidableEq, Repr, Inhabited

/-- Whether an entry is a regular file. -/
def Entry.isFile : Entry → Bool
  | .file _ => true
  | _ => false

/-- The entries of a tree, by location. -/
structure Tree where
  entries : List (Location × Entry) := []
deriving Repr, Inhabited

namespace Tree

/-- The entry at a location; the root is a directory. -/
def get? (t : Tree) (loc : Location) : Option Entry :=
  if loc.isEmpty then some .dir else t.entries.lookup loc

/-- Puts an entry at a location, replacing what was there. -/
def set (t : Tree) (loc : Location) (e : Entry) : Tree :=
  ⟨go t.entries⟩
where
  go : List (Location × Entry) → List (Location × Entry)
    | [] => [(loc, e)]
    | (l, old) :: rest => if l == loc then (loc, e) :: rest else (l, old) :: go rest

/-- Removes the entry at a location. -/
def erase (t : Tree) (loc : Location) : Tree :=
  ⟨t.entries.filter fun (l, _) => l != loc⟩

/-- Removes a location and everything below it. -/
def eraseBelow (t : Tree) (loc : Location) : Tree :=
  ⟨t.entries.filter fun (l, _) => !loc.isPrefixOf l⟩

/-- The names directly inside a directory. -/
def children (t : Tree) (loc : Location) : List Name :=
  t.entries.filterMap fun (l, _) =>
    if l.length == loc.length + 1 && loc.isPrefixOf l then l.getLast? else none

end Tree

end Migrator.Files
