import Migrator.Manifest.Basic

/-!
The artifact chain: which versions already have their generated scripts, `<version>_up.sql` and
`<version>_down.sql`, in the migration directory, and which versions a build must generate next.
A chain is sound when the built versions are exactly the manifest's versions below the first
unbuilt one, and every version has both scripts or neither. `selectTargets` checks this and
returns the unbuilt versions up to an optional target.
-/
namespace Migrator

/-- The file name of a version's script in one direction: `<version>_<direction>.sql`. -/
def artifactFileName (version : String) (direction : Direction) : String :=
  version ++ "_" ++ direction.name ++ ".sql"

/-- Inserts into an ascending list of distinct texts. -/
def insertSorted (x : String) : List String → List String
  | [] => [x]
  | y :: ys => if x < y then x :: y :: ys else if x = y then y :: ys else y :: insertSorted x ys

/-- The distinct texts of a list, in ascending order. -/
def sortedSet (xs : List String) : List String := xs.foldl (fun acc x => insertSorted x acc) []

/-- Versions that have scripts on disk, each direction in ascending order without repeats. -/
structure ChainState where
  up : List String := []
  down : List String := []
deriving DecidableEq, Repr

namespace ChainState

/-- The state with the given versions, sorted and without repeats. -/
def ofLists (up down : List String) : ChainState := ⟨sortedSet up, sortedSet down⟩

/-- A version counts as built once its up script exists. -/
def isBuilt (s : ChainState) (version : String) : Bool := s.up.contains version

/-- The versions that have only one of their two scripts, in ascending order. -/
def unpaired (s : ChainState) : List String :=
  sortedSet (s.up.filter (fun v => !s.down.contains v) ++ s.down.filter (fun v => !s.up.contains v))

/-- The first manifest version without an up script. -/
def nextUnbuilt (m : Manifest) (s : ChainState) : Option String :=
  m.versions.find? fun v => !s.isBuilt v

/-- A target must be a manifest version. -/
def checkTarget (m : Manifest) : Option String → Except Error Unit
  | some t =>
    if m.contains t then pure ()
    else throw (.config ("Target version " ++ t ++ " is not in the manifest"))
  | none => pure ()

/-- No up script may lie beyond the first unbuilt version. -/
def checkNoLaterUp (m : Manifest) (s : ChainState) : Except Error Unit :=
  match nextUnbuilt m s with
  | some n =>
    match s.up.find? (fun v => n < v) with
    | some later =>
      throw (.chainIntegrity ("Artifact " ++ artifactFileName later .up ++
        " exists but earlier version " ++ n ++
        " has not been built; delete the later artifacts or restore the missing ones"))
    | none => pure ()
  | none => pure ()

/-- Every script must belong to a manifest version. -/
def checkNoOrphan (m : Manifest) (s : ChainState) : Except Error Unit :=
  match (s.up ++ s.down).find? (fun v => !m.contains v) with
  | some orphan =>
    throw (.chainIntegrity ("Artifacts exist for version " ++ orphan ++
      ", which is not in the manifest"))
  | none => pure ()

/-- Every version must have both scripts or none; the smallest unpaired one is reported. -/
def checkPaired (s : ChainState) : Except Error Unit :=
  match s.unpaired.head? with
  | some v =>
    throw (.chainIntegrity ("Version " ++ v ++ " has only one of " ++ artifactFileName v .up ++
      " / " ++ artifactFileName v .down))
  | none => pure ()

/-- The manifest versions from `next` on, up to the target when there is one. -/
def pending (m : Manifest) (next target : Option String) : List String :=
  match next with
  | none => []
  | some n => m.versions.filter fun v => decide (n ≤ v) && target.all (fun t => decide (v ≤ t))

/-- The versions a build must generate, in ascending order, or why the chain forbids a build.
The four checks run in order, so the first that fails gives the error. -/
def selectTargets (m : Manifest) (s : ChainState) (target : Option String) :
    Except Error (List String) := do
  checkTarget m target
  checkNoLaterUp m s
  checkNoOrphan m s
  checkPaired s
  return pending m (nextUnbuilt m s) target

end ChainState

/-- Reads a script's file name `<version>_up.sql` or `<version>_down.sql`: the version is
everything before the last `_up.sql` or `_down.sql`, at least one character, with no line feed. -/
def artifactOfFileName (name : String) : Option (String × Direction) :=
  let cs := name.toList
  if cs.contains '\n' then none
  else
    let tryDir (d : Direction) : Option (String × Direction) :=
      let suffix := ("_" ++ d.name ++ ".sql").toList
      if suffix.isSuffixOf cs ∧ cs.length > suffix.length then
        some (String.ofList (cs.take (cs.length - suffix.length)), d)
      else none
    (tryDir .up).or (tryDir .down)

end Migrator
