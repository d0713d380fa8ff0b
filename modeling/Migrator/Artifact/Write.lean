import Migrator.Artifact
import Migrator.Files.Host

/-!
Writing artifacts. A script is created new, never over an existing entry; its digest is the
SHA-256 of the file as written, read back through a buffer of 8192 bytes in as many reads as the
system takes to hand the file over.
-/
namespace Migrator

/-- The size of the buffer a file is hashed through. -/
def hashBufferSize : Nat := 8192

/-- Where the reads of a file being hashed stand: the hash so far, the buffer, the bytes of the
file not read yet, and the number of reads made. -/
structure HashReads where
  hasher : Sha256.State
  buffer : List UInt8
  rest : List UInt8
  reads : Nat

/-- Before the first read: nothing hashed, a zeroed buffer, the whole file ahead. -/
def HashReads.start (bytes : List UInt8) : HashReads :=
  ⟨{}, List.replicate hashBufferSize 0, bytes, 0⟩

/-- A read that hands over `n` bytes: they go to the front of the buffer, the rest of the buffer
keeping what it held, and the hasher takes the first `n` bytes of the buffer. -/
def HashReads.take (s : HashReads) (n : Nat) : HashReads :=
  let buffer := s.rest.take n ++ s.buffer.drop n
  ⟨s.hasher.update (buffer.take n), buffer, s.rest.drop n, s.reads + 1⟩

/-- Reads until a read returns nothing, at most `fuel` reads. -/
def hashReads (split : ReadSplit) : Nat → HashReads → HashReads
  | 0, s => s
  | fuel + 1, s =>
    let n := split.size s.reads s.buffer.length s.rest.length
    if n = 0 then { s with reads := s.reads + 1 } else hashReads split fuel (s.take n)

/-- The lowercase hexadecimal SHA-256 digest of a file. A read hands over at least one byte
while bytes remain, so one read more than the file has bytes is enough for the loop to end. -/
def hashFile (path : Path) : HostM String := do
  let bytes ← Host.readBytes path
  let h ← get
  pure (Sha256.hex (hashReads h.reads (bytes.length + 1) (HashReads.start bytes)).hasher.finish)

/-- Writes `commands` and the footer to a new file at `path`. -/
def writeArtifact (path : Path) (commands : List Command) (p : Provenance) (tag : String) :
    HostM ArtifactSummary := do
  Host.createNew path (artifactText commands p tag).toUTF8.toList
  pure { path, commands := commands.length, digest := ← hashFile path }

end Migrator
