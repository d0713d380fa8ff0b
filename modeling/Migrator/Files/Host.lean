import Migrator.Files.Resolve
import Migrator.Event

/-!
The world a run sees: the file tree, the working directory, the lock files held, the events
emitted so far, and how the system splits the reads of a file. Computations over it may fail with an `Error`; the world they leave stays,
failure or not, as files written before a failure stay written and events emitted stay in the
log.
-/
namespace Migrator

/-- How the system hands a file over to successive reads: read number `k` returns at most
`limit k` bytes, and at least one while bytes remain, so that a read returns nothing only at the
end of the file. -/
structure ReadSplit where
  limit : Nat → Nat
  limit_pos : ∀ k, 0 < limit k

namespace ReadSplit

/-- Reads of a regular file on Linux: each hands over all it is asked for, up to the cap of one
call (`MAX_RW_COUNT`). -/
def full : ReadSplit := ⟨fun _ => 2147479552, fun _ => by decide⟩

instance : Inhabited ReadSplit := ⟨full⟩

/-- The bytes read number `k` returns when `want` bytes are asked and `left` are not read yet. -/
def size (r : ReadSplit) (k want left : Nat) : Nat := min (r.limit k) (min want left)

end ReadSplit

/-- The state of the world. -/
structure Host where
  tree : Files.Tree := {}
  cwd : Files.Location := []
  locks : List Files.Location := []
  events : Array Event := #[]
  reads : ReadSplit := .full
deriving Inhabited

/-- Computations over the world. -/
abbrev HostM := EStateM Error Host

namespace Host

/-- Runs a computation from a world: its result, and the world it leaves. -/
def run {α : Type} (act : HostM α) (h : Host) : Except Error α × Host :=
  match act.run h with
  | .ok a h => (.ok a, h)
  | .error e h => (.error e, h)

/-- Records an event. -/
def emit (e : Event) : HostM Unit := modify fun h => { h with events := h.events.push e }

/-- The result of a file operation on `path`, its fault becoming an error on that path. -/
def onPath {α : Type} (path : Path) (r : Except IoFault α) : HostM α :=
  match r with
  | .ok a => pure a
  | .error f => throw (.io path f)

/-- The result of a check that may fail. -/
def ofExcept {α : Type} (r : Except Error α) : HostM α :=
  match r with
  | .ok a => pure a
  | .error e => throw e

/-- Whether a path names a directory. -/
def isDir (p : Path) : HostM Bool := do
  let h ← get
  pure (Files.isDirAt h.tree h.cwd p.bytes)

/-- Whether a path names a regular file. -/
def isFile (p : Path) : HostM Bool := do
  let h ← get
  pure (Files.isFileAt h.tree h.cwd p.bytes)

/-- Whether a path names anything. -/
def pathExists (p : Path) : HostM Bool := do
  let h ← get
  pure (Files.existsAt h.tree h.cwd p.bytes)

/-- The bytes of a file, or the fault. -/
def tryRead (p : Path) : HostM (Except IoFault (List UInt8)) := do
  let h ← get
  pure (Files.readAt h.tree h.cwd p.bytes)

/-- The bytes of a file. -/
def readBytes (p : Path) : HostM (List UInt8) := do onPath p (← tryRead p)

/-- The text of a file; bytes that are not UTF-8 fail. -/
def readText (p : Path) : HostM String := do
  let bytes ← onPath p (← tryRead p)
  match Text.Utf8.decode? bytes with
  | some s => pure s
  | none => throw (.io p .invalidText)

/-- The names in a directory. -/
def listDir (p : Path) : HostM (List Files.Name) := do
  let h ← get
  onPath p (Files.listAt h.tree h.cwd p.bytes)

/-- Applies a change to the tree, or fails with its fault on `p`. -/
def change (p : Path) (f : Files.Tree → Files.Location → Except IoFault Files.Tree) :
    HostM Unit := do
  let h ← get
  let t ← onPath p (f h.tree h.cwd)
  set { h with tree := t }

/-- Creates a new file with the given bytes; anything already at the path fails. -/
def createNew (p : Path) (content : List UInt8) : HostM Unit :=
  change p fun t cwd => Files.createNewAt t cwd p.bytes content

/-- Writes a file, replacing or creating it. -/
def writeFile (p : Path) (content : List UInt8) : HostM Unit :=
  change p fun t cwd => Files.writeAt t cwd p.bytes content

/-- Makes a directory and its missing parents. -/
def createDirAll (p : Path) : HostM Unit :=
  change p fun t cwd => Files.createDirAllAt t cwd p

/-- Makes a symbolic link at `p` to `target`. -/
def symlink (p : Path) (target : List UInt8) : HostM Unit :=
  change p fun t cwd => Files.symlinkAt t cwd p.bytes target

/-- Removes a file or link. -/
def removeFile (p : Path) : HostM Unit :=
  change p fun t cwd => Files.unlinkAt t cwd p.bytes

/-- The name of the lock file in a migration directory. -/
def lockFileName : String := ".odyssey.lock"

/-- Takes the lock of a migration directory: opens its lock file, creating it empty, and holds
the lock on it unless it is held already. Returns where the lock file is. -/
def acquireLock (dir : Path) : HostM Files.Location := do
  let path := dir.push lockFileName
  let h ← get
  let (t, loc) ← onPath path (Files.openCreateAt h.tree h.cwd path.bytes)
  set { h with tree := t }
  if h.locks.contains loc then throw (.locked dir)
  set { h with tree := t, locks := loc :: h.locks }
  pure loc

/-- Releases a lock taken by `acquireLock`. -/
def releaseLock (loc : Files.Location) : HostM Unit :=
  modify fun h => { h with locks := h.locks.erase loc }

/-- Runs `body` holding the lock of a migration directory, and releases the lock after it,
whether it succeeds or fails. -/
def withLock {α : Type} (dir : Path) (body : HostM α) : HostM α := do
  let loc ← acquireLock dir
  tryCatch (do let a ← body; releaseLock loc; pure a) fun e => do releaseLock loc; throw e

/-- The working directory as an absolute path. -/
def currentDir : HostM Path := do
  let h ← get
  pure ⟨[47] ++ (List.intercalate [47] h.cwd)⟩

end Host

end Migrator
