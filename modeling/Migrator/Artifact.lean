import Migrator.Command
import Migrator.Settings
import Migrator.Time
import Migrator.Digest.Sha256
import Migrator.Chain

/-!
Generated scripts. An artifact is the rendering of its commands, in order, followed by a footer
line with the marker tag, the build time in UTC, the tool version and the release.
-/
namespace Migrator

/-- The values of an artifact footer, fixed once per run. -/
structure Provenance where
  builtAt : Timestamp
  version : String
  release : String
deriving DecidableEq, Repr

namespace Provenance

/-- The provenance of a run at `builtAt` by the tool `tool`. -/
def ofTool (tool : ToolVersion) (builtAt : Timestamp) : Provenance :=
  ⟨builtAt, tool.version, tool.release⟩

/-- The footer line: `-- TAG - Build Time UTC: <time> - VERSION: <v> - RELEASE: <r>`. -/
def footer (p : Provenance) (tag : String) : String :=
  "-- " ++ tag ++ " - Build Time UTC: " ++ p.builtAt.toText ++ " - VERSION: " ++ p.version ++
    " - RELEASE: " ++ p.release ++ "\n"

end Provenance

/-- The text of an artifact: every command rendered, then the footer. -/
def artifactText (commands : List Command) (p : Provenance) (tag : String) : String :=
  String.join (commands.map (·.render tag)) ++ p.footer tag

/-- The path of a version's script in a directory. -/
def artifactPath (dir : Path) (version : String) (direction : Direction) : Path :=
  dir.push (artifactFileName version direction)

/-- What was written: the path, the number of commands and the digest of the file. -/
structure ArtifactSummary where
  path : Path
  commands : Nat
  digest : String
deriving DecidableEq, Repr

/-- The lowercase hexadecimal SHA-256 digest of bytes. -/
def hashBytes (bytes : List UInt8) : String := Sha256.hex (Sha256.digest bytes)

end Migrator
