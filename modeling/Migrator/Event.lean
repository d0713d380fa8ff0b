import Migrator.Error

/-!
Build events. The pipeline never prints; it reports what happens as events, each with a level,
and the caller decides whether to keep them, print them as log lines, or both.
-/
namespace Migrator

/-- The importance of an event. -/
inductive Level where
  | debug
  | info
  | warn
  | error
deriving DecidableEq, Repr

/-- The name of a level, in capitals. -/
def Level.name : Level → String
  | .debug => "DEBUG"
  | .info => "INFO"
  | .warn => "WARN"
  | .error => "ERROR"

/-- The rank of a level, the least important lowest. -/
def Level.rank : Level → Nat
  | .debug => 1
  | .info => 2
  | .warn => 3
  | .error => 4

/-- Something that happened during a build or an indexing run. -/
inductive Event where
  /-- A source file has no object header and is skipped. -/
  | noObjectHeader (file : Path)
  /-- A source file defines an object already indexed from `kept`. -/
  | duplicateObject (objectType name : String) (kept ignored : Path)
  /-- The sources are indexed. -/
  | sourcesIndexed (files objects : Nat)
  /-- The manifest at `path` is read. -/
  | manifestLoaded (path : Path) (versions : Nat)
  /-- The versions to generate are chosen. -/
  | targetsSelected (versions : List String)
  /-- Every version of the manifest is built already. -/
  | nothingToBuild
  /-- One manifest entry is compiled. -/
  | commandCompiled (version direction name objectType : String)
  /-- A rollback found its previous definition in `source`. -/
  | rollbackResolved (name objectType : String) (source : Path)
  /-- A script to be generated exists already. -/
  | artifactExists (path : Path)
  /-- A script is written. -/
  | artifactWritten (path : Path) (commands : Nat) (digest : String)
  /-- The build failed. -/
  | failed (category : Category) (message : String)
deriving DecidableEq, Repr

namespace Event

/-- The level of an event. -/
def level : Event → Level
  | noObjectHeader .. | commandCompiled .. | rollbackResolved .. => .debug
  | sourcesIndexed .. | manifestLoaded .. | targetsSelected .. | nothingToBuild
  | artifactWritten .. => .info
  | duplicateObject .. | artifactExists .. => .warn
  | failed .. => .error

/-- The event that reports an error. -/
def ofError (e : Error) : Event := .failed e.category e.message

end Event

end Migrator
