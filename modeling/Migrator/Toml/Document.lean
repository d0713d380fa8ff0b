import Migrator.Toml.Value
import Migrator.Toml.Lexical

/-!
Reading a TOML document into a table, with the TOML 1.0 rules on defining tables: a key is
defined once; a `[table]` header may name a table once, and only one that so far was implied by a
longer header; dotted keys extend only tables they made themselves; a header may add sub-tables
under tables made by dotted keys; inline tables and other values cannot be extended, except that
dotted keys inside one inline table may go through a table written earlier in it.

Key-value lines gather in the open section, which joins the document when the next header or the
end arrives; a header that names a table implied before takes over that table's entries.
-/
namespace Migrator.Toml

/-- Entries of a table under construction. -/
abbrev Entries := List (String × Node)

/-- A key at the front: simple keys, blanks around each, joined by dots. -/
def readKey : Nat → List Char → Option (List String × List Char)
  | 0, _ => none
  | fuel + 1, cs => do
    let cs := cs.dropWhile isSpaceOrTab
    let (part, rest) ← match cs with
      | '"' :: rest => basicString [] rest
      | '\'' :: rest => literalString [] rest
      | _ =>
        let (bare, rest) := cs.span isBareKeyChar
        if bare.isEmpty then none else some (String.ofList bare, rest)
    match rest.dropWhile isSpaceOrTab with
    | '.' :: more => do
      let (parts, after) ← readKey fuel more
      some (part :: parts, after)
    | after => some ([part], after)

/-- Blanks, comments and line breaks between the items of an array. -/
def arrayGap (inComment : Bool) : List Char → List Char
  | [] => []
  | '\n' :: rest => arrayGap false rest
  | '\r' :: '\n' :: rest => arrayGap false rest
  | c :: rest =>
    if inComment then (if isCommentChar c then arrayGap true rest else c :: rest)
    else if isSpaceOrTab c then arrayGap false rest
    else if c == '#' then arrayGap true rest
    else c :: rest

/-- Places `value` under `key` at the end of the dotted `path` inside an inline table. Tables
made by the path are dotted; a table written as a value may be gone through. The target must be
dotted exactly when the path is not empty, and must not hold the key yet. -/
def placeInline (key : String) (value : Node) (nested : Bool) :
    List String → Bool → Entries → Option Entries
  | [], dotted, es =>
    if dotted != nested || (es.lookup key).isSome then none else some (es ++ [(key, value)])
  | k :: rest, _, es =>
    match es.lookup k with
    | none => do
      let sub ← placeInline key value nested rest true []
      some (es ++ [(k, .table true true sub)])
    | some (.table i d sub) => do
      let sub ← placeInline key value nested rest d sub
      some (setEntry k (.table i d sub) es)
    | some (.value (.table vs)) => do
      let sub ← placeInline key value nested rest false (vs.map fun (a, v) => (a, .value v))
      some (setEntry k (.table false false sub) es)
    | some _ => none

/-- Places `value` under `key` at the end of the dotted `path` inside a section. The path may
go through tables made by dotted keys or only implied, and into the last table of an array of
tables; the target must be dotted exactly when the path is not empty. -/
def placeInSection (key : String) (value : Node) (nested : Bool) :
    List String → Bool → Entries → Option Entries
  | [], dotted, es =>
    if dotted != nested || (es.lookup key).isSome then none else some (es ++ [(key, value)])
  | k :: rest, _, es =>
    match es.lookup k with
    | none => do
      let sub ← placeInSection key value nested rest true []
      some (es ++ [(k, .table true true sub)])
    | some (.table i d sub) =>
      if !i then none
      else do
        let sub ← placeInSection key value nested rest d sub
        some (setEntry k (.table i d sub) es)
    | some (.tables ts) =>
      match ts.getLast? with
      | some last => do
        let last ← placeInSection key value nested rest false last
        some (setEntry k (.tables (ts.dropLast ++ [last])) es)
      | none => none
    | some (.value _) => none

/-- Applies `f` to the table a header path leads to: missing tables are made, implied; an array
of tables leads into its last table; a value blocks the way. -/
def atHeader {β : Type} (f : Entries → Option (Entries × β)) :
    List String → Entries → Option (Entries × β)
  | [], es => f es
  | k :: rest, es =>
    match es.lookup k with
    | none => do
      let (sub, b) ← atHeader f rest []
      some (es ++ [(k, .table true false sub)], b)
    | some (.table i d sub) => do
      let (sub, b) ← atHeader f rest sub
      some (setEntry k (.table i d sub) es, b)
    | some (.tables ts) =>
      match ts.getLast? with
      | some last => do
        let (last, b) ← atHeader f rest last
        some (setEntry k (.tables (ts.dropLast ++ [last])) es, b)
      | none => none
    | some (.value _) => none

/-- A document being read: the tables joined so far, and the open section with its header path
(empty for the lines before the first header) and whether it is an element of an array of
tables. -/
structure Builder where
  root : Entries := []
  current : Entries := []
  path : List String := []
  isArray : Bool := false

namespace Builder

/-- Joins the open section to the document. -/
def close (b : Builder) : Option Entries :=
  match b.path.reverse with
  | [] => some b.current
  | last :: parent =>
    if b.isArray then
      (atHeader (fun es => match es.lookup last with
        | none => some (es ++ [(last, .tables [b.current])], ())
        | some (.tables ts) => some (setEntry last (.tables (ts ++ [b.current])) es, ())
        | some _ => none) parent.reverse b.root).map Prod.fst
    else
      (atHeader (fun es => match es.lookup last with
        | none => some (es ++ [(last, .table false false b.current)], ())
        | some (.table true _ _) => some (setEntry last (.table false false b.current) es, ())
        | some _ => none) parent.reverse b.root).map Prod.fst

/-- Opens the section of a `[table]` header. A table only implied so far hands over its entries;
any other existing entry of that name is an error. -/
def openTable (b : Builder) (path : List String) : Option Builder := do
  let root ← b.close
  match path.reverse with
  | [] => none
  | last :: parent =>
    let (root, taken) ← atHeader (fun es => match es.lookup last with
      | none => some (es, [])
      | some (.table true false sub) => some (removeEntry last es, sub)
      | some _ => none) parent.reverse root
    some { root, current := taken, path, isArray := false }

/-- Opens the section of a `[[array]]` header: a new table at the end of that array of tables. -/
def openArray (b : Builder) (path : List String) : Option Builder := do
  let root ← b.close
  match path.reverse with
  | [] => none
  | last :: parent =>
    let (root, _) ← atHeader (fun es => match es.lookup last with
      | none => some (es ++ [(last, .tables [])], ())
      | some (.tables _) => some (es, ())
      | some _ => none) parent.reverse root
    some { root, current := [], path, isArray := true }

/-- Adds a key-value line to the open section. -/
def addValue (b : Builder) (path : List String) (key : String) (v : Value) : Option Builder := do
  let current ← placeInSection key (.value v) (!path.isEmpty) path false b.current
  some { b with current }

end Builder

mutual

/-- A value at the front. -/
def readValue : Nat → List Char → Option (Value × List Char)
  | 0, _ => none
  | fuel + 1, cs =>
    match cs with
    | '"' :: '"' :: '"' :: rest =>
      (multiBasicString [] .none (dropOpeningNewline rest)).map fun (s, r) => (.text s, r)
    | '"' :: rest => (basicString [] rest).map fun (s, r) => (.text s, r)
    | '\'' :: '\'' :: '\'' :: rest =>
      (multiLiteralString [] (dropOpeningNewline rest)).map fun (s, r) => (.text s, r)
    | '\'' :: rest => (literalString [] rest).map fun (s, r) => (.text s, r)
    | '[' :: rest => readArray fuel [] (arrayGap false rest)
    | '{' :: rest =>
      match rest.dropWhile isSpaceOrTab with
      | '}' :: after => some (.table [], after)
      | more => readInline fuel [] more
    | _ => (scalar? cs).map fun r => (.scalar, r)

/-- The items of an array after its opening bracket (and after each comma). -/
def readArray : Nat → List Value → List Char → Option (Value × List Char)
  | 0, _, _ => none
  | fuel + 1, acc, cs =>
    match cs with
    | ']' :: rest => some (.array acc.reverse, rest)
    | _ => do
      let (v, rest) ← readValue fuel cs
      match arrayGap false rest with
      | ',' :: more => readArray fuel (v :: acc) (arrayGap false more)
      | ']' :: more => some (.array (v :: acc).reverse, more)
      | _ => none

/-- The key-value pairs of an inline table after its opening brace (and after each comma). -/
def readInline : Nat → Entries → List Char → Option (Value × List Char)
  | 0, _, _ => none
  | fuel + 1, acc, cs => do
    let (keys, rest) ← readKey (fuel + 1) cs
    let (path, key) ← match keys.reverse with
      | k :: parent => some (parent.reverse, k)
      | [] => none
    let rest ← match rest with
      | '=' :: r => some (r.dropWhile isSpaceOrTab)
      | _ => none
    let (v, rest) ← readValue fuel rest
    let acc ← placeInline key (.value v) (!path.isEmpty) path false acc
    match rest.dropWhile isSpaceOrTab with
    | ',' :: more => readInline fuel acc more
    | '}' :: more => some (.table (Node.entriesToValue acc), more)
    | _ => none

end

/-- The lines of a document, from the start of a line. The fuel stays above the length of what
is left, so it also bounds the keys and values read on the way. -/
def readLines : Nat → Builder → List Char → Option Builder
  | 0, _, _ => none
  | fuel + 1, b, cs =>
    match cs.dropWhile isSpaceOrTab with
    | [] => some b
    | '[' :: '[' :: rest => do
      let (path, rest) ← readKey (fuel + 1) rest
      let rest ← match rest with
        | ']' :: ']' :: r => some r
        | _ => none
      let b ← b.openArray path
      readLines fuel b (← lineEnd? rest)
    | '[' :: rest => do
      let (path, rest) ← readKey (fuel + 1) rest
      let rest ← match rest with
        | ']' :: r => some r
        | _ => none
      let b ← b.openTable path
      readLines fuel b (← lineEnd? rest)
    | line =>
      match afterNewline? (skipComment line) with
      | some next => readLines fuel b next
      | none =>
        if (skipComment line).isEmpty then some b
        else do
          let (keys, rest) ← readKey (fuel + 1) line
          let (path, key) ← match keys.reverse with
            | k :: parent => some (parent.reverse, k)
            | [] => none
          let rest ← match rest with
            | '=' :: r => some (r.dropWhile isSpaceOrTab)
            | _ => none
          let (v, rest) ← readValue (fuel + 1) rest
          let b ← b.addValue path key v
          readLines fuel b (← lineEnd? rest)

/-- Reads a TOML document (a leading byte order mark is skipped) into its root table, or
`none` when it is not valid TOML 1.0. -/
def parse (text : String) : Option (List (String × Value)) := do
  let cs := match text.toList with
    | '\uFEFF' :: rest => rest
    | cs => cs
  let b ← readLines (cs.length + 1) {} cs
  let root ← b.close
  some (Node.entriesToValue root)

end Migrator.Toml
