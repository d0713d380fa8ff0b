import Migrator.Files.Resolve

/-!
The walk that lists SQL files below a root, as a recursive `<root>/**/*.sql` glob does. The root
is taken literally. Its parts are walked from `/`, or from `.` for a relative root, where a
leading `.` is dropped from the paths found; each part must exist, links followed, and `.` and
`..` stay in the paths as written. Below the root every directory is entered, links to
directories included, for as long as the path still resolves (a loop of links ends where a path
would follow more than 40 links). A path matches when its last name is UTF-8 and ends in `.sql`,
in that case. Directories named that way match too; callers keep only files.
-/
namespace Migrator.Files

/-- The current directory as a glob starts from it. -/
def dotPath : Path := Path.ofString "."

/-- A path one name further, as a glob builds it: below `.` the name alone. -/
def globChild (dir : Path) (name : Name) : Path :=
  if dir == dotPath then ⟨name⟩ else dir.join ⟨name⟩

/-- The parts of the root between slashes, without the empty part a trailing slash leaves. -/
def rootParts (root : Path) : List Name :=
  let body := if root.isAbsolute then root.bytes.drop 1 else root.bytes
  let parts := body.splitOn 47
  match parts.getLast? with
  | some [] => parts.dropLast
  | _ => parts

/-- The path a glob reaches for the root, or `none` when a part does not resolve. -/
def globRoot (t : Tree) (cwd : Location) (root : Path) : Option Path :=
  let step (cur : Path) (part : Name) : Option Path :=
    let next := globChild cur part
    if part == [46] || part == [46, 46] then
      if isDirAt t cwd cur.bytes then some next else none
    else if existsAt t cwd next.bytes then some next
    else none
  (rootParts root).foldlM step (if root.isAbsolute then ⟨[47]⟩ else dotPath)

/-- Whether a name is UTF-8 and ends in `.sql`. -/
def isSqlName (name : Name) : Bool :=
  (Text.Utf8.decode? name).isSome && [46, 115, 113, 108].isSuffixOf name

/-- Every path below `dir` whose last name passes `keep`, entering directories and links to
them. -/
def globBelow (t : Tree) (cwd : Location) (keep : Name → Bool) : Nat → Path → List Path
  | 0, _ => []
  | fuel + 1, dir =>
    match listAt t cwd dir.bytes with
    | .error _ => []
    | .ok names =>
      names.flatMap fun name =>
        let child := globChild dir name
        let below := if isDirAt t cwd child.bytes then globBelow t cwd keep fuel child else []
        below ++ (if keep name then [child] else [])

/-- How many levels a walk may descend. A path the walk enters goes down through directories and
follows at most 40 links, so on a tree of real file names the walk ends before this bound. Regular
files do not count: adding files leaves the bound as it is. -/
def walkFuel (t : Tree) : Nat := 42 * ((t.entries.filter fun e => !e.2.isFile).length + 1)

/-- The paths a `<root>/**/*.sql` glob yields, unsorted. -/
def globSql (t : Tree) (cwd : Location) (root : Path) : List Path :=
  match globRoot t cwd root with
  | none => []
  | some start =>
    if isDirAt t cwd start.bytes then globBelow t cwd isSqlName (walkFuel t) start else []

end Migrator.Files
