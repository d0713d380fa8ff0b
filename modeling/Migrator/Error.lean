import Migrator.Path

/-!
What can go wrong, as causes. A failed file operation gives an `IoFault`; the library's own
errors are `Error`, each with one message, written by `Error.message`, and one of four coarse
categories for the event log.
-/
namespace Migrator

/-- Why an operation on the file tree failed. -/
inductive IoFault where
  /-- A component of the path does not exist. -/
  | notFound
  /-- Something already exists where a new entry was to be made. -/
  | alreadyExists
  /-- A directory stands where a file was needed. -/
  | isDirectory
  /-- A file stands where a directory was needed. -/
  | notDirectory
  /-- Resolving the path met too many symbolic links. -/
  | tooManyLinks
  /-- The directory to remove still has entries. -/
  | notEmpty
  /-- The bytes read are not UTF-8 text. -/
  | invalidText
  /-- The entity was not found, with no system error number. -/
  | missingEntity
deriving DecidableEq, Repr

namespace IoFault

/-- The message of a fault, as the system describes it. -/
def message : IoFault → String
  | notFound => "No such file or directory (os error 2)"
  | alreadyExists => "File exists (os error 17)"
  | isDirectory => "Is a directory (os error 21)"
  | notDirectory => "Not a directory (os error 20)"
  | tooManyLinks => "Too many levels of symbolic links (os error 40)"
  | notEmpty => "Directory not empty (os error 39)"
  | invalidText => "stream did not contain valid UTF-8"
  | missingEntity => "entity not found"

end IoFault

/-- Coarse classes of errors, as the event log reports them. -/
inductive Category where
  | config
  | resolution
  | io
  | chainIntegrity
deriving DecidableEq, Repr

/-- The name of a category. -/
def Category.name : Category → String
  | .config => "Config"
  | .resolution => "Resolution"
  | .io => "Io"
  | .chainIntegrity => "ChainIntegrity"

/-- An error of the library. -/
inductive Error where
  /-- Settings, manifest or command input that cannot be used. -/
  | config (message : String)
  /-- An action whose SQL cannot be found. -/
  | resolution (message : String)
  /-- A file operation on `path` failed. -/
  | io (path : Path) (fault : IoFault)
  /-- Generated artifacts that contradict the manifest or each other. -/
  | chainIntegrity (message : String)
  /-- Another build holds the lock of the migration directory `path`. -/
  | locked (path : Path)
deriving DecidableEq, Repr

namespace Error

/-- The message of an error. -/
def message : Error → String
  | config m => "Config error: " ++ m
  | resolution m => "Resolution error: " ++ m
  | io path fault => "IO error on " ++ path.display ++ ": " ++ fault.message
  | chainIntegrity m => "Chain integrity error: " ++ m
  | locked path => "Migration directory " ++ path.display ++ " is locked by another build"

/-- The category of an error; a held lock counts as a file-system error. -/
def category : Error → Category
  | config _ => .config
  | resolution _ => .resolution
  | io _ _ => .io
  | chainIntegrity _ => .chainIntegrity
  | locked _ => .io

/-- The underlying fault, for errors that have one. -/
def cause? : Error → Option IoFault
  | io _ fault => some fault
  | _ => none

/-- Prefixes the message of a configuration error; other errors pass unchanged. -/
def prefixConfig (pre : String) : Error → Error
  | config m => config (pre ++ m)
  | e => e

/-- Prefixes the message of a resolution error; other errors pass unchanged. -/
def prefixResolution (pre : String) : Error → Error
  | resolution m => resolution (pre ++ m)
  | e => e

end Error

end Migrator
