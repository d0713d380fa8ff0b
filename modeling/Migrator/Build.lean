import Migrator.Manifest.Load
import Migrator.Chain.Scan
import Migrator.Compile
import Migrator.Artifact.Write

/-!
The build: from the manifest, the sources and the scripts already generated, generate the
scripts of every version not yet built, up to an optional target. The migration directory is
made if missing and locked for the whole run. The chain is checked first, then every target
version must have both action lists, then the sources are indexed; versions are generated in
order, each with both scripts written before the next version's rollbacks look at earlier
scripts. A version whose script already exists stops the build.
-/
namespace Migrator

/-- The scripts generated for one version. -/
structure GeneratedVersion where
  version : String
  up : ArtifactSummary
  down : ArtifactSummary
deriving DecidableEq, Repr

/-- The versions a build generated, in order. -/
structure BuildResult where
  generated : List GeneratedVersion := []
deriving DecidableEq, Repr

/-- The spec of a version of the manifest. -/
def specOf (m : Manifest) (version : String) : HostM BuildSpec :=
  match m.spec? version with
  | some spec => pure spec
  | none => throw (.config ("Version " ++ version ++ " is not in the manifest"))

/-- Writes one script and records it. -/
def writeScript (path : Path) (commands : List Command) (p : Provenance) (tag : String) :
    HostM ArtifactSummary := do
  let summary ← writeArtifact path commands p tag
  Host.emit (.artifactWritten summary.path summary.commands summary.digest)
  pure summary

/-- After the down script of a version failed, removes its up script, so that no version is
left with one script; if that fails too, the error says so. -/
def discardLoneUp (upPath : Path) (error : Error) : HostM Error := do
  let h ← get
  match Files.unlinkAt h.tree h.cwd upPath.bytes with
  | .ok t => set { h with tree := t }; pure error
  | .error .notFound => pure error
  | .error f =>
    pure (.chainIntegrity (error.message ++ "; " ++ upPath.display ++ " could not be removed (" ++
      f.message ++ "), delete it before rebuilding"))

/-- Compiles and writes both scripts of one version. -/
def buildVersion (s : Settings) (m : Manifest) (index : ObjectIndex) (version : String)
    (p : Provenance) : HostM GeneratedVersion := do
  let spec ← specOf m version
  let upPath := artifactPath s.migrationDir version .up
  let downPath := artifactPath s.migrationDir version .down
  for path in [upPath, downPath] do
    if ← Host.pathExists path then
      Host.emit (.artifactExists path)
      throw (.chainIntegrity ("Artifact " ++ path.display ++
        " already exists; delete it to regenerate version " ++ version))
  let prior ← priorUpArtifacts s.migrationDir version
  let ctx : CompileContext := { index, baseDir := s.baseDir, priorUp := prior, tag := s.markerTag }
  let up ← compileActions version .up spec.up ctx
  let down ← compileActions version .down spec.down ctx
  let up ← writeScript upPath up p s.markerTag
  let down ← tryCatch (writeScript downPath down p s.markerTag) fun e => do
    throw (← discardLoneUp upPath e)
  pure { version, up, down }

/-- Generates the targets in order, each version's scripts written before the next version is
compiled. -/
def buildVersions (s : Settings) (m : Manifest) (index : ObjectIndex) (targets : List String)
    (p : Provenance) : HostM BuildResult := do
  let mut generated : Array GeneratedVersion := #[]
  for v in targets do
    generated := generated.push (← buildVersion s m index v p)
  pure { generated := generated.toList }

/-- The build inside the lock: loads the manifest, checks the chain and the targets, indexes the
sources and generates. -/
def buildLocked (s : Settings) (target : Option String) (p : Provenance) (engine : Engine) :
    HostM BuildResult := do
  let m ← loadManifest s.manifest
  Host.emit (.manifestLoaded s.manifest m.entries.length)
  let state ← scanArtifacts s.migrationDir
  let targets ← Host.ofExcept (state.selectTargets m target)
  if targets.isEmpty then
    Host.emit .nothingToBuild
    return {}
  Host.emit (.targetsSelected targets)
  for v in targets do
    Host.ofExcept (requireComplete v (← specOf m v))
  let index ← indexSources s.sqlSrc engine
  buildVersions s m index targets p

/-- Runs a build with the given footer values. -/
def buildWithProvenance (s : Settings) (target : Option String) (p : Provenance) :
    HostM BuildResult := do
  let engine ← Host.ofExcept s.dialect.engine
  Host.createDirAll s.migrationDir
  Host.withLock s.migrationDir (buildLocked s target p engine)

/-- Runs a build and records a failure as an event before returning it. -/
def build (s : Settings) (target : Option String) (p : Provenance) : HostM BuildResult :=
  tryCatch (buildWithProvenance s target p) fun e => do
    Host.emit (Event.ofError e)
    throw e

end Migrator
