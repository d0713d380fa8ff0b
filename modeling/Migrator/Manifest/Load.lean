import Migrator.Manifest.Read
import Migrator.Files.Host

/-!
Loading the manifest file. A file that cannot be read is a configuration error that names it;
errors in its content are prefixed with its path.
-/
namespace Migrator

/-- Reads and parses the manifest at `path`. -/
def loadManifest (path : Path) : HostM Manifest := do
  let text ← tryCatch (Host.readText path) fun e =>
    match e.cause? with
    | some f => throw (.config ("Cannot read manifest " ++ path.display ++ ": " ++ f.message))
    | none => throw e
  match Manifest.parse text with
  | .ok m => pure m
  | .error e => throw (e.prefixConfig (path.display ++ ": "))

end Migrator
