import Migrator.Settings.Read
import Migrator.Files.Host

/-!
Loading settings from a file. Relative paths in it resolve against the directory holding it, or
against the working directory for a file named without one. With no file named, `odyssey.toml`
in the working directory is read when it exists; otherwise the defaults are rooted at the
working directory.
-/
namespace Migrator

namespace Settings

/-- Reads settings from `path`, or from the default file when none is given. -/
def load (path : Option Path) : HostM Settings := do
  let path ← match path with
    | some p => pure p
    | none =>
      let p := Path.ofString defaultSettingsFile
      if !(← Host.pathExists p) then return Settings.new (← Host.currentDir)
      pure p
  let text ← tryCatch (Host.readText path) fun e =>
    match e.cause? with
    | some f => throw (.config ("Cannot read settings " ++ path.display ++ ": " ++ f.message))
    | none => throw e
  let base ← match path.parent with
    | some parent => if parent.bytes.isEmpty then Host.currentDir else pure parent
    | none => Host.currentDir
  match Settings.ofToml text base with
  | .ok s => pure s
  | .error e => throw (e.prefixConfig (path.display ++ ": "))

end Settings

end Migrator
