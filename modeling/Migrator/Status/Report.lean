/-!
The status of a chain and its text report. The report lists each built version with the first
twelve bytes of its two digests (or `missing`), the pending versions, and the integrity problem
if there is one. Cutting a digest at byte twelve is only possible at a character boundary; a
digest with a longer character across that byte has no report.
-/
namespace Migrator

/-- A version with scripts on disk, and their digests. -/
structure BuiltVersion where
  version : String
  upDigest : Option String
  downDigest : Option String
deriving DecidableEq, Repr

/-- The state of a project's chain. -/
structure ChainStatus where
  manifestVersions : Nat
  built : List BuiltVersion
  pending : List String
  /-- The message of the integrity error, when the chain is broken. -/
  integrityError : Option String
deriving DecidableEq, Repr

namespace ChainStatus

/-- Whether the chain is sound. -/
def isHealthy (s : ChainStatus) : Bool := s.integrityError.isNone

/-- The version a build would generate first. -/
def nextTarget (s : ChainStatus) : Option String := s.pending.head?

end ChainStatus

/-- The first characters of `cs` making exactly `n` bytes, if a character boundary lies there. -/
def takeBytes : Nat → List Char → Option (List Char)
  | 0, _ => some []
  | _ + 1, [] => some []
  | n + 1, c :: rest =>
    let width := c.utf8Size
    if width ≤ n + 1 then (takeBytes (n + 1 - width) rest).map (c :: ·) else none

/-- A digest cut to its first twelve bytes, or `missing`; none when byte twelve falls inside a
character. -/
def shortDigest : Option String → Option String
  | none => some "missing"
  | some d => (takeBytes 12 d.toList).map String.ofList

/-- The report line of a built version. -/
def BuiltVersion.line (b : BuiltVersion) : Option String := do
  let up ← shortDigest b.upDigest
  let down ← shortDigest b.downDigest
  return "  " ++ b.version ++ "  up " ++ up ++ "  down " ++ down ++ "\n"

/-- The text report of a chain status. -/
def ChainStatus.report (s : ChainStatus) : Option String := do
  let lines ← s.built.mapM BuiltVersion.line
  let pending := if s.pending.isEmpty then "Pending: none\n"
    else "Pending: " ++ ", ".intercalate s.pending ++ "\n"
  let broken := match s.integrityError with
    | some e => "\nCHAIN BROKEN: " ++ e ++ "\n"
    | none => ""
  return "=== odyssey status ===\n" ++ "Manifest versions: " ++ toString s.manifestVersions ++ "\n" ++
    "Built: " ++ toString s.built.length ++ "\n" ++ String.join lines ++ pending ++ broken

end Migrator
