import Migrator.Command.Block
import Migrator.Manifest.Basic
import Migrator.Sources
import Migrator.Text.Case

/-!
Compiling manifest actions into commands. A drop is written from the type and name; creating a
schema is written from the name in lower case; creating any other object reads the source file
the index finds for it; `execute` reads its file, relative to the project root; `rollback`
takes the object's block from the latest earlier up script that has one. An action whose SQL is
blank fails. Resolution errors name the version and direction.
-/
namespace Migrator

/-- What the actions of one version and direction share. -/
structure CompileContext where
  index : ObjectIndex
  /-- The root that relative `execute` locations resolve against. -/
  baseDir : Path
  /-- Up scripts of earlier versions, the latest first. -/
  priorUp : List Path
  tag : String

/-- The body of the first block of `name`/`objectType` in the file at `path`. -/
def matchInFile (path : Path) (name objectType tag : String) : HostM (Option String) := do
  pure (Block.find? (← Host.readText path) name objectType tag)

/-- The first block of `name`/`objectType` among `candidates`, with the file it came from. -/
def resolvePrevious (name objectType : String) (candidates : List Path) (tag : String) :
    HostM (String × Path) := do
  for c in candidates do
    if let some body ← matchInFile c name objectType tag then return (body, c)
  throw (.resolution ("No previous definition of " ++ name ++ " (" ++ objectType ++ ") in " ++
    toString candidates.length ++ " earlier up migration(s)"))

/-- Whether two texts are equal when ASCII letters are compared without case. -/
def eqAsciiCase (a b : String) : Bool := a.toList.map Char.toLower == b.toList.map Char.toLower

/-- The command of one action. -/
def compileAction (entry : ActionEntry) (ctx : CompileContext) : HostM Command := do
  let sql ← match entry.action with
    | .drop => pure ("DROP " ++ Text.toUpper entry.objectType ++ " " ++ entry.name ++ ";")
    | .create =>
      if eqAsciiCase entry.objectType "schema" then
        pure ("CREATE SCHEMA " ++ Text.toLower entry.name ++ ";")
      else
        match ctx.index.lookup entry.name entry.objectType with
        | .ok file => Host.readText file
        | .error e => throw e
    | .execute location => Host.readText (ctx.baseDir.join location)
    | .rollback => do
      let (body, source) ← resolvePrevious entry.name entry.objectType ctx.priorUp ctx.tag
      Host.emit (.rollbackResolved entry.name entry.objectType source)
      pure body
  if (Text.trim sql).isEmpty then
    throw (.resolution (entry.action.keyword ++ " of " ++ entry.name ++ " (" ++ entry.objectType ++
      ") produced no SQL"))
  pure { name := entry.name, objectType := entry.objectType, sql }

/-- The commands of one version and direction, in manifest order. -/
def compileActions (version : String) (direction : Direction) (entries : List ActionEntry)
    (ctx : CompileContext) : HostM (List Command) := do
  let mut commands : Array Command := #[]
  for entry in entries do
    let command ← tryCatch (compileAction entry ctx) fun e =>
      throw (e.prefixResolution ("version " ++ version ++ " " ++ direction.name ++ ": "))
    Host.emit (.commandCompiled version direction.name command.name command.objectType)
    commands := commands.push command
  pure commands.toList

end Migrator
