import Migrator.Files.Host
import Migrator.Files.Glob
import Migrator.Index
import Migrator.Dialect

/-!
The SQL source tree: its `.sql` files, and the object index built from them. Each file is
indexed under the first object header it holds; a file with none is skipped with a debug event,
and a name a bucket holds already keeps its first file, with a warning.
-/
namespace Migrator

/-- Every regular `.sql` file below `root` (hidden ones included, links followed), in path
order. -/
def findSqlFiles (root : Path) : HostM (List Path) := do
  if !(← Host.isDir root) then
    throw (.config ("SQL source directory not found: " ++ root.display))
  if root.toText?.isNone then
    throw (.config ("SQL source path is not valid UTF-8: " ++ root.display))
  let h ← get
  let found := (Files.globSql h.tree h.cwd root).filter fun p => Files.isFileAt h.tree h.cwd p.bytes
  pure (found.mergeSort fun a b => !(b.lt a))

/-- Indexes every source file below `root` by its first object header. -/
def indexSources (root : Path) (engine : Engine) : HostM ObjectIndex := do
  let files ← findSqlFiles root
  let mut index : ObjectIndex := {}
  for file in files do
    let content ← Host.readText file
    match engine.detect content with
    | none => Host.emit (.noObjectHeader file)
    | some header =>
      let (next, kept) := index.insert header.objectType ⟨header.name, file⟩
      index := next
      if let some k := kept then
        Host.emit (.duplicateObject header.objectType header.name k file)
  Host.emit (.sourcesIndexed files.length index.size)
  pure index

end Migrator
