import Migrator.Error
import Migrator.Source.Header

/-!
The object index: source files by object name, in buckets by normalised type keyword (`TABLE`,
`EXTERNAL TABLE`, …), buckets in byte order of their keys and entries in insertion order. A
bucket holds a name once, compared without regard to ASCII case; the first file to define it is
kept. Lookup ignores ASCII case too, across all buckets, and narrows to the bucket of the asked
type only when the name is in several.
-/
namespace Migrator

/-- One indexed object: its name as found and the file that defines it. -/
structure IndexEntry where
  name : String
  file : Path
deriving DecidableEq, Repr

/-- Whether two texts are equal when ASCII letters are compared without case. -/
def eqIgnoreAsciiCase (a b : String) : Bool := a.toList.map Char.toLower == b.toList.map Char.toLower

/-- Entries in buckets keyed by normalised type, keys ascending. -/
structure ObjectIndex where
  buckets : List (String × List IndexEntry) := []
deriving DecidableEq, Repr

namespace ObjectIndex

/-- The entries under a key. -/
def entriesAt (idx : ObjectIndex) (key : String) : List IndexEntry :=
  (idx.buckets.lookup key).getD []

/-- Replaces or adds the bucket `key`, keeping keys in ascending order. -/
def setBucket (key : String) (entries : List IndexEntry) :
    List (String × List IndexEntry) → List (String × List IndexEntry)
  | [] => [(key, entries)]
  | (k, es) :: rest =>
    if key < k then (key, entries) :: (k, es) :: rest
    else if key = k then (key, entries) :: rest
    else (k, es) :: setBucket key entries rest

/-- Adds `entry` to the bucket of `objectType`, unless the bucket holds its name already; then
the index is unchanged and the file kept is returned. -/
def insert (idx : ObjectIndex) (objectType : String) (entry : IndexEntry) :
    ObjectIndex × Option Path :=
  let key := Header.normalizeType objectType
  let bucket := idx.entriesAt key
  match bucket.find? (fun e => eqIgnoreAsciiCase e.name entry.name) with
  | some existing => ({ buckets := setBucket key bucket idx.buckets }, some existing.file)
  | none => ({ buckets := setBucket key (bucket ++ [entry]) idx.buckets }, none)

/-- The entries of the bucket of a type. -/
def bucket (idx : ObjectIndex) (objectType : String) : List IndexEntry :=
  idx.entriesAt (Header.normalizeType objectType)

/-- The number of entries. -/
def size (idx : ObjectIndex) : Nat := (idx.buckets.map fun (_, es) => es.length).foldr (· + ·) 0

/-- Whether the index holds no entry. -/
def isEmpty (idx : ObjectIndex) : Bool := idx.size == 0

/-- Every entry with its bucket key, buckets in order. -/
def flattened (idx : ObjectIndex) : List (String × IndexEntry) :=
  idx.buckets.flatMap fun (k, es) => es.map fun e => (k, e)

/-- The file defining `name` (without regard to ASCII case); when several buckets hold it, the
one in the bucket of `objectType`. -/
def lookup (idx : ObjectIndex) (name objectType : String) : Except Error Path :=
  let hits := idx.flattened.filter fun (_, e) => eqIgnoreAsciiCase e.name name
  match hits with
  | [] => .error (.resolution ("Object '" ++ name ++ "' not found in SQL sources"))
  | [(_, only)] => .ok only.file
  | _ =>
    let key := Header.normalizeType objectType
    match hits.filter (fun (k, _) => k == key) with
    | [(_, only)] => .ok only.file
    | _ =>
      .error (.resolution ("Object '" ++ name ++ "' is ambiguous: defined in " ++
        ", ".intercalate (hits.map fun (k, e) => e.file.display ++ " (" ++ k ++ ")")))

end ObjectIndex

end Migrator
