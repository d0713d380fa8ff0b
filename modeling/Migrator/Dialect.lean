import Migrator.Error
import Migrator.Source.Header

/-!
SQL dialects and their header detectors. A dialect is named in settings or on the command line;
its name is read trimmed and in any case. Only PostgreSQL has a detector; Greenplum is a
reserved name whose detector is refused rather than replaced by another.
-/
namespace Migrator

/-- A SQL dialect. -/
inductive Dialect where
  | postgres
  | greenplum
deriving DecidableEq, Repr, Inhabited

namespace Dialect

/-- The name of a dialect. -/
def name : Dialect → String
  | postgres => "postgres"
  | greenplum => "greenplum"

/-- Reads a dialect name: trimmed, lower-cased, `postgres` or `postgresql` or `greenplum`. -/
def parse (s : String) : Except Error Dialect :=
  let key := Text.toLower (Text.trim s)
  if key = "postgres" ∨ key = "postgresql" then .ok .postgres
  else if key = "greenplum" then .ok .greenplum
  else .error (.config ("Unknown SQL dialect '" ++ key ++ "'. Valid dialects: postgres"))

end Dialect

/-- A detector of object headers. -/
inductive Engine where
  | postgres
deriving DecidableEq, Repr

namespace Engine

/-- The name of an engine. -/
def name : Engine → String
  | postgres => "postgres"

/-- The first object header of a SQL text. -/
def detect : Engine → String → Option Header
  | postgres, sql => Header.detect sql

end Engine

/-- The detector of a dialect; a reserved dialect has none. -/
def Dialect.engine : Dialect → Except Error Engine
  | .postgres => .ok .postgres
  | .greenplum => .error (.config "SQL dialect 'greenplum' is reserved but not implemented")

end Migrator
