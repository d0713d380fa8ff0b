/-!
Values of a TOML document as this program reads them. Texts, arrays and tables keep their
content; integers, floats, booleans and dates are only checked for form, since no setting and
no manifest field can hold one.
-/
namespace Migrator.Toml

/-- A TOML value. Table entries keep the order they were written in. -/
inductive Value where
  | text (s : String)
  /-- An integer, float, boolean or date-time. -/
  | scalar
  | array (items : List Value)
  | table (entries : List (String × Value))
deriving Repr, Inhabited

namespace Value

/-- The text, when the value is one. -/
def asText? : Value → Option String
  | .text s => some s
  | _ => none

end Value

/-- A table as a document builds it: entries, and whether it was only implied by a longer
header (`implicit`) or made by a dotted key (`dotted`). -/
inductive Node where
  /-- A value written after `=`; an inline table is one too, and cannot be extended. -/
  | value (v : Value)
  | table (implicit dotted : Bool) (entries : List (String × Node))
  /-- An array of tables, each element a table's entries, in order. -/
  | tables (elements : List (List (String × Node)))
deriving Repr, Inhabited

mutual

/-- The value a node stands for. -/
def Node.toValue : Node → Value
  | .value v => v
  | .table _ _ entries => .table (Node.entriesToValue entries)
  | .tables elements => .array (Node.elementsToValue elements)

/-- The values of a table's entries. -/
def Node.entriesToValue : List (String × Node) → List (String × Value)
  | [] => []
  | (k, n) :: rest => (k, n.toValue) :: Node.entriesToValue rest

/-- The tables of an array of tables. -/
def Node.elementsToValue : List (List (String × Node)) → List Value
  | [] => []
  | es :: rest => .table (Node.entriesToValue es) :: Node.elementsToValue rest

end

/-- Replaces the entry of `key`, or adds it at the end. -/
def setEntry {α : Type} (key : String) (a : α) : List (String × α) → List (String × α)
  | [] => [(key, a)]
  | (k, b) :: rest => if k = key then (key, a) :: rest else (k, b) :: setEntry key a rest

/-- Removes the entry of `key`. -/
def removeEntry {α : Type} (key : String) : List (String × α) → List (String × α)
  | [] => []
  | (k, b) :: rest => if k = key then rest else (k, b) :: removeEntry key rest

end Migrator.Toml
