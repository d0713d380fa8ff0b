import Migrator.Error

/-!
The build manifest: for each version, the actions that make its up script and its down script.
Versions are ordered as text, byte by byte, so callers keep them of one width (`0001`, `0002`).
A version can be built only when both of its lists are non-empty.
-/
namespace Migrator

/-- Which script of a version: applying it or undoing it. -/
inductive Direction where
  | up
  | down
deriving DecidableEq, Repr, Inhabited

/-- The name of a direction, as in file names and messages. -/
def Direction.name : Direction → String
  | .up => "up"
  | .down => "down"

/-- What an action does with its object. -/
inductive Action where
  /-- Creates the object from its SQL source file (a schema is created by name). -/
  | create
  /-- Drops the object by name. -/
  | drop
  /-- Runs the SQL file at `location`, relative to the project root unless absolute. -/
  | execute (location : Path)
  /-- Restores the object's previous definition from earlier up scripts. -/
  | rollback
deriving DecidableEq, Repr

/-- The keyword of an action. -/
def Action.keyword : Action → String
  | .create => "create"
  | .drop => "drop"
  | .execute _ => "execute"
  | .rollback => "rollback"

/-- One entry of a script: the object's name (or a free label), its type as written, and the
action. -/
structure ActionEntry where
  name : String
  objectType : String
  action : Action
deriving DecidableEq, Repr

/-- The two action lists of a version. -/
structure BuildSpec where
  up : List ActionEntry := []
  down : List ActionEntry := []
deriving DecidableEq, Repr

/-- The actions of one direction. -/
def BuildSpec.actions (spec : BuildSpec) : Direction → List ActionEntry
  | .up => spec.up
  | .down => spec.down

/-- A manifest: versions with their specs, in ascending order of version, each once. -/
structure Manifest where
  entries : List (String × BuildSpec) := []
deriving DecidableEq, Repr

namespace Manifest

/-- The versions, in ascending order. -/
def versions (m : Manifest) : List String := m.entries.map Prod.fst

/-- The spec of a version. -/
def spec? (m : Manifest) (version : String) : Option BuildSpec := m.entries.lookup version

/-- Whether the manifest has a version. -/
def contains (m : Manifest) (version : String) : Bool := m.versions.contains version

/-- Inserts a version into an ordered list of entries, keeping the order; an existing version
keeps its place and takes the new spec. -/
def insertEntry (version : String) (spec : BuildSpec) :
    List (String × BuildSpec) → List (String × BuildSpec)
  | [] => [(version, spec)]
  | (v, s) :: rest =>
    if version < v then (version, spec) :: (v, s) :: rest
    else if version = v then (version, spec) :: rest
    else (v, s) :: insertEntry version spec rest

/-- The manifest of a list of versions and specs, ordered by version. -/
def ofList (entries : List (String × BuildSpec)) : Manifest :=
  ⟨entries.foldl (fun acc (v, s) => insertEntry v s acc) []⟩

end Manifest

/-- Fails unless both action lists of `version` are non-empty, the up list checked first. -/
def requireComplete (version : String) (spec : BuildSpec) : Except Error Unit :=
  if spec.up.isEmpty then .error (.config ("Manifest version " ++ version ++ " has no up actions"))
  else if spec.down.isEmpty then
    .error (.config ("Manifest version " ++ version ++ " has no down actions"))
  else .ok ()

end Migrator
