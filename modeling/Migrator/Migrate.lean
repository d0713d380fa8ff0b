import Migrator.Manifest.Load
import Migrator.Chain.Scan
import Migrator.Artifact

/-!
Planning a migration: the scripts a migration would apply, in order; nothing is run. Up applies
the built versions in ascending order, up to the target when there is one. Down undoes built
versions above the target, newest first, or only the newest when there is no target. A broken
chain is refused.
-/
namespace Migrator

/-- The built versions, given in ascending order, that a migration in `direction` to `target`
walks, in the order it walks them. -/
def planVersions (built : List String) (direction : Direction) (target : Option String) :
    List String :=
  match direction, target with
  | .up, none => built
  | .up, some t => built.filter (· ≤ t)
  | .down, none => built.reverse.take 1
  | .down, some t => built.reverse.filter (· > t)

/-- The scripts a migration in `direction` to `target` applies, in order. -/
def planMigrationFiles (s : Settings) (direction : Direction) (target : Option String) :
    HostM (List Path) := do
  let m ← loadManifest s.manifest
  let state ← scanArtifacts s.migrationDir
  let _ ← Host.ofExcept (state.selectTargets m none)
  pure ((planVersions state.up direction target).map fun v => artifactPath s.migrationDir v direction)

end Migrator
