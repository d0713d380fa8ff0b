import Migrator.Files.Tree

/-!
Path resolution as the Linux kernel does it. A path is read part by part from the root (absolute
path) or the working directory; `.` stays, `..` goes to the parent of the directory reached so
far (the root is its own parent), and a symbolic link is replaced by its target, read from the
directory holding the link. At most 40 links are followed in one resolution, after which it
fails with `tooManyLinks`. A part after a file fails with `notDirectory`, a missing part before
the last with `notFound`; a trailing slash asks for a directory. The empty path names nothing.
-/
namespace Migrator.Files

/-- One part of a path. -/
inductive Step where
  | here
  | up
  | name (n : Name)
deriving DecidableEq, Repr

/-- The step of a part between slashes; empty parts are skipped. -/
def Step.ofPart (part : List UInt8) : Option Step :=
  if part.isEmpty then none
  else if part == [46] then some .here
  else if part == [46, 46] then some .up
  else some (.name part)

/-- The steps of a path; a trailing slash becomes a final `.`, which needs a directory. -/
def steps (bytes : List UInt8) : List Step :=
  let parts := (bytes.splitOn 47).filterMap Step.ofPart
  if bytes.getLast? == some 47 then parts ++ [.here] else parts

/-- The most symbolic links one resolution follows. -/
def linkBudget : Nat := 40

/-- Where a resolution ends: an existing entry, or a missing last name in an existing
directory. -/
inductive Target where
  | found (loc : Location) (entry : Entry)
  | absent (parent : Location) (name : Name)
deriving DecidableEq, Repr

/-- Resolves `path` from the directory `cur`. A link in last place is followed only when
`follow` is set. -/
def resolve (t : Tree) (follow : Bool) (budget : Nat) (cur : Location) (path : List Step) :
    Except IoFault Target :=
  match path with
  | [] => .ok (.found cur .dir)
  | .here :: rest => resolve t follow budget cur rest
  | .up :: rest => resolve t follow budget cur.dropLast rest
  | .name n :: rest =>
    let loc := cur ++ [n]
    match t.get? loc with
    | none => if rest.isEmpty then .ok (.absent cur n) else .error .notFound
    | some .dir => resolve t follow budget loc rest
    | some (.file b) => if rest.isEmpty then .ok (.found loc (.file b)) else .error .notDirectory
    | some (.link target) =>
      if rest.isEmpty && !follow then .ok (.found loc (.link target))
      else
        match budget with
        | 0 => .error .tooManyLinks
        | b + 1 =>
          if target.isEmpty then .error .notFound
          else resolve t follow b (if target.head? == some 47 then [] else cur) (steps target ++ rest)
termination_by (budget, path.length)

/-- One pass over a path that meets no link to follow: like `resolve`, except that a link to be
followed is handed to `onLink` with the directory holding it, its target and the rest of the
path. -/
def walk (t : Tree) (follow : Bool) (onLink : Location → List UInt8 → List Step → Except IoFault Target) :
    Location → List Step → Except IoFault Target
  | cur, [] => .ok (.found cur .dir)
  | cur, .here :: rest => walk t follow onLink cur rest
  | cur, .up :: rest => walk t follow onLink cur.dropLast rest
  | cur, .name n :: rest =>
    let loc := cur ++ [n]
    match t.get? loc with
    | none => if rest.isEmpty then .ok (.absent cur n) else .error .notFound
    | some .dir => walk t follow onLink loc rest
    | some (.file b) => if rest.isEmpty then .ok (.found loc (.file b)) else .error .notDirectory
    | some (.link target) =>
      if rest.isEmpty && !follow then .ok (.found loc (.link target))
      else onLink cur target rest

/-- `resolve` by structural recursion on the link budget: each pass is a `walk`, and a link
followed starts the next pass with one link less. Unlike `resolve`, it reduces in the kernel, so
runs over a given tree can be decided. -/
def resolveBudget (t : Tree) (follow : Bool) : Nat → Location → List Step → Except IoFault Target
  | 0 => walk t follow fun _ _ _ => .error .tooManyLinks
  | b + 1 => walk t follow fun cur target rest =>
    if target.isEmpty then .error .notFound
    else resolveBudget t follow b (if target.head? == some 47 then [] else cur) (steps target ++ rest)

theorem resolveBudget_eq_resolve (t : Tree) (follow : Bool) (budget : Nat) (cur : Location)
    (path : List Step) : resolveBudget t follow budget cur path = resolve t follow budget cur path := by
  fun_induction resolve t follow budget cur path with
  | case1 budget cur => cases budget <;> rfl
  | case2 budget cur rest ih | case3 budget cur rest ih =>
    cases budget <;> simpa [resolveBudget, walk, resolve] using ih
  | case6 budget cur n rest loc dir ih =>
    cases budget <;> simpa [resolveBudget, walk, resolve, loc, dir] using ih
  | case4 budget cur n rest loc empty last | case5 budget cur n rest loc empty last
  | case7 budget cur n rest loc b file last | case8 budget cur n rest loc b file last
  | case9 budget cur n rest loc target link last =>
    cases budget <;> simp [resolveBudget, walk, loc, *]
  | case10 cur n rest loc target link go | case11 cur n rest loc target link go b empty =>
    simp [resolveBudget, walk, loc, *]
  | case12 cur n rest loc target link go b named ih =>
    simpa [resolveBudget, walk, resolve, loc, link, go, named] using ih

/-- Where resolving a path starts. -/
def startOf (cwd : Location) (bytes : List UInt8) : Location :=
  if bytes.head? == some 47 then [] else cwd

/-- Resolves a path from the working directory `cwd`. -/
def lookup (t : Tree) (cwd : Location) (bytes : List UInt8) (follow : Bool) :
    Except IoFault Target :=
  if bytes.isEmpty then .error .notFound
  else resolveBudget t follow linkBudget (startOf cwd bytes) (steps bytes)

theorem lookup_eq_resolve (t : Tree) (cwd : Location) (bytes : List UInt8) (follow : Bool) :
    lookup t cwd bytes follow = if bytes.isEmpty then .error .notFound
      else resolve t follow linkBudget (startOf cwd bytes) (steps bytes) := by
  rw [lookup, resolveBudget_eq_resolve]

/-- The entry a path names, links followed. -/
def stat (t : Tree) (cwd : Location) (bytes : List UInt8) : Except IoFault (Location × Entry) :=
  match lookup t cwd bytes true with
  | .ok (.found loc e) => .ok (loc, e)
  | .ok (.absent _ _) => .error .notFound
  | .error f => .error f

/-- Whether a path names a directory, links followed. -/
def isDirAt (t : Tree) (cwd : Location) (bytes : List UInt8) : Bool :=
  match stat t cwd bytes with
  | .ok (_, .dir) => true
  | _ => false

/-- Whether a path names a regular file, links followed. -/
def isFileAt (t : Tree) (cwd : Location) (bytes : List UInt8) : Bool :=
  match stat t cwd bytes with
  | .ok (_, .file _) => true
  | _ => false

/-- Whether a path names anything, links followed. -/
def existsAt (t : Tree) (cwd : Location) (bytes : List UInt8) : Bool :=
  (stat t cwd bytes).toOption.isSome

/-- The bytes of a file; reading a directory fails with `isDirectory`. -/
def readAt (t : Tree) (cwd : Location) (bytes : List UInt8) : Except IoFault (List UInt8) :=
  match stat t cwd bytes with
  | .ok (_, .file content) => .ok content
  | .ok _ => .error .isDirectory
  | .error f => .error f

/-- The names in a directory. -/
def listAt (t : Tree) (cwd : Location) (bytes : List UInt8) : Except IoFault (List Name) :=
  match stat t cwd bytes with
  | .ok (loc, .dir) => .ok (t.children loc)
  | .ok _ => .error .notDirectory
  | .error f => .error f

/-- Whether a path ends in a slash after a name, as `x/` does and `x/.` does not. -/
def slashAfterName (bytes : List UInt8) : Bool :=
  bytes.getLast? == some 47 &&
    match ((bytes.splitOn 47).filterMap Step.ofPart).getLast? with
    | some (.name _) => true
    | _ => false

/-- The lookup of a path opened to create a file. A name followed by a slash cannot be made a
file: once the directories before the name are found, it fails with `isDirectory`, whatever the
name holds. -/
def lookupCreate (t : Tree) (cwd : Location) (bytes : List UInt8) (follow : Bool) :
    Except IoFault Target :=
  if slashAfterName bytes then
    match lookup t cwd (bytes.reverse.dropWhile (· == 47)).reverse false with
    | .ok _ => .error .isDirectory
    | .error f => .error f
  else lookup t cwd bytes follow

/-- Creates a file that must not exist yet, not even as a dangling link. -/
def createNewAt (t : Tree) (cwd : Location) (bytes content : List UInt8) : Except IoFault Tree :=
  match lookupCreate t cwd bytes false with
  | .ok (.found _ _) => .error .alreadyExists
  | .ok (.absent parent n) => .ok (t.set (parent ++ [n]) (.file content))
  | .error f => .error f

/-- Opens a file for writing, creating it empty if missing (a dangling link makes its target);
returns where it is. -/
def openCreateAt (t : Tree) (cwd : Location) (bytes : List UInt8) :
    Except IoFault (Tree × Location) :=
  match lookupCreate t cwd bytes true with
  | .ok (.found loc (.file _)) => .ok (t, loc)
  | .ok (.found _ _) => .error .isDirectory
  | .ok (.absent parent n) => .ok (t.set (parent ++ [n]) (.file []), parent ++ [n])
  | .error f => .error f

/-- Writes a file, replacing its bytes or creating it. -/
def writeAt (t : Tree) (cwd : Location) (bytes content : List UInt8) : Except IoFault Tree :=
  match lookupCreate t cwd bytes true with
  | .ok (.found loc (.file _)) => .ok (t.set loc (.file content))
  | .ok (.found _ _) => .error .isDirectory
  | .ok (.absent parent n) => .ok (t.set (parent ++ [n]) (.file content))
  | .error f => .error f

/-- Makes one directory; anything already there, a dangling link included, fails. -/
def mkdirAt (t : Tree) (cwd : Location) (bytes : List UInt8) : Except IoFault Tree :=
  let trimmed := (bytes.reverse.dropWhile (· == 47)).reverse
  let bytes := if trimmed.isEmpty then bytes else trimmed
  match lookup t cwd bytes false with
  | .ok (.found _ _) => .error .alreadyExists
  | .ok (.absent parent n) => .ok (t.set (parent ++ [n]) .dir)
  | .error f => .error f

/-- Makes a symbolic link to `target`; anything already there fails. -/
def symlinkAt (t : Tree) (cwd : Location) (bytes target : List UInt8) : Except IoFault Tree :=
  if target.isEmpty then .error .notFound
  else
    match lookup t cwd bytes false with
    | .ok (.found _ _) => .error .alreadyExists
    | .ok (.absent parent n) => .ok (t.set (parent ++ [n]) (.link target))
    | .error f => .error f

/-- Removes a file or link; a directory fails with `isDirectory`. -/
def unlinkAt (t : Tree) (cwd : Location) (bytes : List UInt8) : Except IoFault Tree :=
  match lookup t cwd bytes false with
  | .ok (.found _ .dir) => .error .isDirectory
  | .ok (.found loc _) => .ok (t.erase loc)
  | .ok (.absent _ _) => .error .notFound
  | .error f => .error f

/-- Makes a directory and its missing parents, as `mkdir -p` does: a directory already there
is fine, anything else there fails. -/
def createDirAllAt (t : Tree) (cwd : Location) (p : Path) : Except IoFault Tree :=
  go (p.bytes.length + 1) t p
where
  /-- One level: make `p`, after its parent if that is missing. -/
  go : Nat → Tree → Path → Except IoFault Tree
    | 0, _, _ => .error .notFound
    | fuel + 1, t, p =>
      if p.bytes.isEmpty then .ok t
      else
        match mkdirAt t cwd p.bytes with
        | .ok t => .ok t
        | .error .notFound =>
          match p.parent with
          | none => .error .notFound
          | some q => do
            let t ← go fuel t q
            match mkdirAt t cwd p.bytes with
            | .ok t => .ok t
            | .error f => if isDirAt t cwd p.bytes then .ok t else .error f
        | .error f => if isDirAt t cwd p.bytes then .ok t else .error f

end Migrator.Files
