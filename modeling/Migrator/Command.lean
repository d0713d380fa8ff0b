/-!
Compiled commands: the SQL text of one manifest entry, written between a begin and an end marker
line that carry the marker tag, the entry's name and its type, exactly as the manifest gives them.
-/
namespace Migrator

/-- The SQL of one manifest entry, with the name and type that mark it. -/
structure Command where
  name : String
  objectType : String
  sql : String
deriving DecidableEq, Repr

namespace Command

/-- The line that opens a command: `-- TAG BEGIN |name|type`. -/
def beginMarker (c : Command) (tag : String) : String :=
  "-- " ++ tag ++ " BEGIN |" ++ c.name ++ "|" ++ c.objectType

/-- The line that closes a command: `-- TAG END |name|type`. -/
def endMarker (c : Command) (tag : String) : String :=
  "-- " ++ tag ++ " END |" ++ c.name ++ "|" ++ c.objectType

/-- A command as written in an artifact: a blank line, the begin marker, the SQL, the end
marker, each on a line of its own. -/
def render (c : Command) (tag : String) : String :=
  "\n" ++ c.beginMarker tag ++ "\n" ++ c.sql ++ "\n" ++ c.endMarker tag ++ "\n"

end Command

end Migrator
