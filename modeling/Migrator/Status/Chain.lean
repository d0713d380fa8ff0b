import Migrator.Status.Report
import Migrator.Manifest.Load
import Migrator.Chain.Scan
import Migrator.Artifact.Write

/-!
The status of the chain: the manifest's size, every version with a script and the digests of its
two scripts (a missing one has none), the versions a build would generate, and why the chain is
broken when it is. A broken chain is reported, not raised.
-/
namespace Migrator

/-- The digest of a version's script, if it is a regular file. -/
def digestIfPresent (s : Settings) (version : String) (direction : Direction) :
    HostM (Option String) := do
  let path := artifactPath s.migrationDir version direction
  if ← Host.isFile path then pure (some (← hashFile path)) else pure none

/-- A version with scripts, and the digests of its two scripts. -/
def builtVersion (s : Settings) (version : String) : HostM BuiltVersion := do
  pure { version, upDigest := ← digestIfPresent s version .up,
         downDigest := ← digestIfPresent s version .down }

/-- The status of the chain of a project. -/
def chainStatus (s : Settings) : HostM ChainStatus := do
  let m ← loadManifest s.manifest
  let state ← scanArtifacts s.migrationDir
  let (pending, integrityError) := match state.selectTargets m none with
    | .ok p => (p, none)
    | .error e => ([], some e.message)
  let built ← (sortedSet (state.up ++ state.down)).mapM (builtVersion s)
  pure { manifestVersions := m.entries.length, built, pending, integrityError }

end Migrator
