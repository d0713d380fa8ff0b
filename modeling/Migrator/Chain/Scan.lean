import Migrator.Chain
import Migrator.Files.Host

/-!
Reading the chain from the migration directory: every regular file (links followed) whose name,
read as UTF-8 with invalid bytes replaced, is `<version>_up.sql` or `<version>_down.sql`. A
missing directory is an empty chain.
-/
namespace Migrator

/-- The versions that have scripts in `dir`. -/
def scanArtifacts (dir : Path) : HostM ChainState := do
  if !(← Host.pathExists dir) then return {}
  let names ← Host.listDir dir
  let mut up : List String := []
  let mut down : List String := []
  for name in names do
    if ← Host.isFile (dir.join ⟨name⟩) then
      match artifactOfFileName (Text.Utf8.decodeLossy name) with
      | some (v, .up) => up := v :: up
      | some (v, .down) => down := v :: down
      | none => pure ()
  pure (ChainState.ofLists up down)

/-- The up scripts in `dir` of versions before `version`, the latest first. -/
def priorUpArtifacts (dir : Path) (version : String) : HostM (List Path) := do
  let state ← scanArtifacts dir
  pure ((state.up.filter (· < version)).reverse.map fun v => dir.push (artifactFileName v .up))

end Migrator
