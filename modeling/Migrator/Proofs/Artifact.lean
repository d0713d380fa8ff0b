import Mathlib
import Migrator.Proofs.Host
import Migrator.Proofs.Writes

/-! Writing an artifact and hashing it back. A file is hashed through a buffer, in reads of
whatever sizes the system hands over; each read gives the hasher exactly the bytes it read,
whatever the buffer held before, so the digest is that of the whole file, and the loop ends by a
read that returns nothing within one read more than the file has bytes (`hashReads_ends`).
Writing an artifact where the path names a missing entry of an existing directory makes that
entry a file of the rendered commands and the footer and reports the digest of those bytes;
where the path names anything, a dangling link included, it fails and changes nothing
(`writeArtifact_creates_only_new`). -/
namespace Migrator

open Files

/-! ### Hashing in reads -/

namespace ReadSplit

variable (split : ReadSplit) (k want left : Nat)

theorem size_le_want : split.size k want left ≤ want := by
  simp [size]

theorem size_le_left : split.size k want left ≤ left := by
  simp [size]

/-- A read returns something while the buffer has room and the file has bytes left. -/
theorem size_pos (room : 0 < want) (more : 0 < left) : 0 < split.size k want left := by
  have := split.limit_pos k
  simp only [size]
  omega

@[simp] theorem size_at_end : split.size k want 0 = 0 := by
  simp [size]

end ReadSplit

namespace HashReads

variable {s : HashReads} {n : Nat}

/-- The hasher takes exactly the bytes read: what the buffer held past them plays no part. -/
theorem take_hasher (within : n ≤ s.rest.length) :
    (s.take n).hasher = s.hasher.update (s.rest.take n) := by
  simp [take, within]

theorem take_buffer_length (within : n ≤ s.rest.length) (fits : n ≤ s.buffer.length) :
    (s.take n).buffer.length = s.buffer.length := by
  simp only [take, List.length_append, List.length_take, List.length_drop]
  omega

@[simp] theorem take_rest : (s.take n).rest = s.rest.drop n := rfl

@[simp] theorem take_reads : (s.take n).reads = s.reads + 1 := rfl

@[simp] theorem start_hasher (bytes : List UInt8) : (start bytes).hasher = {} := rfl

@[simp] theorem start_buffer_length (bytes : List UInt8) :
    (start bytes).buffer.length = hashBufferSize :=
  List.length_replicate

@[simp] theorem start_rest (bytes : List UInt8) : (start bytes).rest = bytes := rfl

@[simp] theorem start_reads (bytes : List UInt8) : (start bytes).reads = 0 := rfl

end HashReads

/-- With a buffer to read into, the loop hands the hasher every byte left, in order, and ends by
a read that returns nothing, within one read more than there are bytes left; more fuel changes
nothing. -/
theorem hashReads_ends (split : ReadSplit) (s : HashReads) (buffered : 0 < s.buffer.length) :
    ∃ final : HashReads, final.hasher = s.hasher.update s.rest ∧ final.rest = [] ∧
      final.reads ≤ s.reads + s.rest.length + 1 ∧
      ∀ fuel, s.rest.length < fuel → hashReads split fuel s = final := by
  -- induction on the bytes left, which every read that returns something shortens
  obtain ⟨left, counted⟩ : ∃ left, s.rest.length = left := ⟨_, rfl⟩
  induction left using Nat.strong_induction_on generalizing s with
  | _ left ih =>
    rcases Nat.eq_zero_or_pos left with rfl | more
    · -- nothing left: the next read returns nothing and the loop stops
      have ended : s.rest = [] := List.eq_nil_of_length_eq_zero counted
      refine ⟨{ s with reads := s.reads + 1 }, by simp [ended, Sha256.State.update], ended,
        by simp, fun fuel above => ?_⟩
      obtain ⟨fuel, rfl⟩ := Nat.exists_eq_add_one.mpr (Nat.zero_lt_of_lt above)
      simp [hashReads, counted]
    · set n := split.size s.reads s.buffer.length s.rest.length with read
      have pos : 0 < n := split.size_pos _ _ _ buffered (counted ▸ more)
      have within : n ≤ s.rest.length := split.size_le_left _ _ _
      have fits : n ≤ s.buffer.length := split.size_le_want _ _ _
      obtain ⟨final, hasher, ended, reads, stops⟩ :=
        ih (s.take n).rest.length (by simp; omega) (s.take n)
          (by rw [HashReads.take_buffer_length within fits]; exact buffered) rfl
      refine ⟨final, ?_, ended, ?_, fun fuel above => ?_⟩
      · rw [hasher, HashReads.take_hasher within, HashReads.take_rest,
          ← Sha256.State.update_append, List.take_append_drop]
      · simp only [HashReads.take_reads, HashReads.take_rest, List.length_drop] at reads
        omega
      · obtain ⟨fuel, rfl⟩ := Nat.exists_eq_add_one.mpr (Nat.zero_lt_of_lt above)
        rw [hashReads, ← read, if_neg (Nat.pos_iff_ne_zero.mp pos)]
        exact stops fuel (by simp; omega)

/-- However the reads split a file, the digest the loop gives is the SHA-256 of its bytes. -/
@[simp] theorem hashReads_start_digest (split : ReadSplit) (bytes : List UInt8) :
    Sha256.hex (hashReads split (bytes.length + 1) (HashReads.start bytes)).hasher.finish =
      hashBytes bytes := by
  obtain ⟨final, hasher, -, -, stops⟩ :=
    hashReads_ends split (HashReads.start bytes) (by simp [hashBufferSize])
  rw [stops _ (by simp), hasher]
  rfl

section Spec

open Std.Do

set_option mvcgen.warning false

/-- Hashing a file that reads as `bytes` leaves the world and gives their SHA-256. -/
theorem hashFile_spec (w : Tree × Location × List Location) (path : Path) {bytes : List UInt8}
    (read : readAt w.1 w.2.1 path.bytes = .ok bytes) :
    ⦃fun h => ⌜h.world = w⌝⦄ hashFile path ⦃⇓ digest h => ⌜h.world = w ∧ digest = hashBytes bytes⌝⦄ := by
  mvcgen [hashFile, Host.readBytes, Host.tryRead, Host.onPath]
  all_goals simp_all [Host.world_eq_iff]

end Spec

/-- The digest of a file that reads as `bytes` is their SHA-256 whatever sizes the system hands
the reads over in, each at least one byte while bytes remain; the loop ends by a read that returns
nothing after at most one read more than the file has bytes, and the world is left as it was. -/
theorem hashFile_reads_whole_file (h : Host) (path : Path) {bytes : List UInt8}
    (read : readAt h.tree h.cwd path.bytes = .ok bytes) :
    Host.run (hashFile path) h = (.ok (hashBytes bytes), h) ∧
      ∃ final : HashReads, final.hasher = ({} : Sha256.State).update bytes ∧ final.rest = [] ∧
        final.reads ≤ bytes.length + 1 ∧
        ∀ fuel, bytes.length < fuel → hashReads h.reads fuel (HashReads.start bytes) = final := by
  refine ⟨?_, ?_⟩
  · simp [Host.run, hashFile, Host.readBytes, Host.tryRead, Host.onPath, read, bind,
      EStateM.bind, get, getThe, MonadStateOf.get, EStateM.get, pure, EStateM.pure, EStateM.run]
  · simpa using hashReads_ends h.reads (HashReads.start bytes) (by simp [hashBufferSize])

/-- A file `f` of ten bytes that the system hands over one byte more at each read: 1, 2, 3 and
the last 4 bytes. -/
def growingReads : Host :=
  { tree := ⟨[([[102]], .file [0, 1, 2, 3, 4, 5, 6, 7, 8, 9])]⟩,
    reads := ⟨fun k => k + 1, fun k => Nat.succ_pos k⟩ }

theorem growingReads_hashed :
    readAt growingReads.tree growingReads.cwd [102] = .ok [0, 1, 2, 3, 4, 5, 6, 7, 8, 9] ∧
      Host.run (hashFile ⟨[102]⟩) growingReads =
        (.ok (hashBytes [0, 1, 2, 3, 4, 5, 6, 7, 8, 9]), growingReads) :=
  have read : readAt growingReads.tree growingReads.cwd [102] = .ok [0, 1, 2, 3, 4, 5, 6, 7, 8, 9] := by
    decide +kernel
  ⟨read, (hashFile_reads_whole_file growingReads ⟨[102]⟩ read).1⟩

/-! ### Creating a file where nothing is -/

section Create

variable {t : Tree} {budget : Nat} {cur parent : Location} {path : List Step} {name : Name}

/-- Following a last link or not makes no difference to a path that ends at a missing name. -/
theorem resolve_absent_follow (absent : resolve t false budget cur path = .ok (.absent parent name)) :
    resolve t true budget cur path = .ok (.absent parent name) := by
  fun_induction resolve t false budget cur path with
  | case1 | case5 | case7 | case8 | case9 | case10 | case11 => simp_all
  | case2 budget cur rest ih | case3 budget cur rest ih => simpa [resolve] using ih absent
  | case4 budget cur n rest loc empty last =>
    rw [← absent]
    simp [resolve, loc, empty, last]
  | case6 budget cur n rest loc dir ih => simpa [resolve, loc, dir] using ih absent
  | case12 cur n rest loc target link go b named ih =>
    -- the link is not last, so it is followed either way
    have followed := ih (by simpa using absent)
    simpa [resolve, loc, link, named] using followed

/-- A path that ends at a missing name does not end in `.`, which asks for a directory. -/
theorem resolve_absent_getLast {follow : Bool}
    (absent : resolve t follow budget cur path = .ok (.absent parent name)) :
    path.getLast? ≠ some .here := by
  fun_induction resolve t follow budget cur path with
  | case1 | case5 | case7 | case8 | case9 | case10 | case11 => simp_all
  | case4 budget cur n rest loc empty last => simp_all
  | case2 budget cur rest ih | case3 budget cur rest ih | case6 budget cur _ rest _ _ ih =>
    cases rest with
    | nil => simp [resolve] at absent
    | cons x xs =>
      rw [List.getLast?_cons_cons]
      exact ih absent
  | case12 cur n rest loc target link go b named ih =>
    cases rest with
    | nil => simp
    | cons x xs =>
      have later := ih (by simpa using absent)
      rw [List.getLast?_cons_cons]
      rwa [List.getLast?_append_of_ne_nil _ (List.cons_ne_nil x xs)] at later

/-- A path to a missing name does not end in a slash. -/
theorem lookup_absent_getLast {cwd : Location} {bytes : List UInt8} {follow : Bool}
    (absent : lookup t cwd bytes follow = .ok (.absent parent name)) : bytes.getLast? ≠ some 47 := by
  rw [lookup_eq_resolve] at absent
  split at absent
  · contradiction
  · intro slash
    apply resolve_absent_getLast absent
    simp [steps, slash]

/-- A regular file a resolution ends at is held where it ends. -/
theorem resolve_found_file {follow : Bool} {loc : Location} {c : List UInt8}
    (found : resolve t follow budget cur path = .ok (.found loc (.file c))) :
    t.get? loc = some (.file c) := by
  fun_induction resolve t follow budget cur path with
  | case1 | case4 | case5 | case8 | case9 | case10 | case11 => simp_all
  | case7 budget cur n rest loc' b file last =>
    simp only [Except.ok.injEq, Target.found.injEq, Entry.file.injEq] at found
    obtain ⟨rfl, rfl⟩ := found
    exact file
  | case2 budget cur rest ih | case3 budget cur rest ih | case6 budget cur _ rest _ _ ih =>
    exact ih found
  | case12 cur n rest loc' target link go b named ih => exact ih (by simpa using found)

/-- Once the missing name a path ends at is made a file, the path reads that file. -/
theorem readAt_set_of_absent {cwd : Location} {bytes : List UInt8}
    (absent : lookup t cwd bytes false = .ok (.absent parent name)) (content : List UInt8) :
    readAt (t.set (parent ++ [name]) (.file content)) cwd bytes = .ok content := by
  have followed : lookup t cwd bytes true = .ok (.absent parent name) := by
    rw [lookup_eq_resolve] at absent ⊢
    split at absent
    · contradiction
    · rw [if_neg ‹_›]
      exact resolve_absent_follow absent
  have empty := lookup_absent absent
  have held : (t.set (parent ++ [name]) (.file content)).get? (parent ++ [name]) =
      some (.file content) := Tree.get?_set_self (by simp)
  have grows := lookup_grows (Tree.extends_set empty content) cwd bytes true
  rw [followed] at grows
  generalize after : lookup (t.set (parent ++ [name]) (.file content)) cwd bytes true = r at grows
  -- the name now holds the new file, so the lookup finds it rather than nothing
  cases grows with
  | same =>
    rw [lookup_absent after] at held
    contradiction
  | added _ _ c =>
    have found : (t.set (parent ++ [name]) (.file content)).get? (parent ++ [name]) = some (.file c) := by
      rw [lookup_eq_resolve] at after
      split at after
      · contradiction
      · exact resolve_found_file after
    obtain rfl : content = c := by simpa [held] using found
    simp [readAt, stat, after]

end Create

section Refused

variable {bytes : List UInt8}

/-- A path that ends in a slash after a name is never looked up to a place to create a file. -/
theorem lookupCreate_of_slash (t : Tree) (cwd : Location) (follow : Bool)
    (slash : slashAfterName bytes = true) : ∃ fault, lookupCreate t cwd bytes follow = .error fault := by
  unfold lookupCreate
  rw [if_pos slash]
  split
  · exact ⟨_, rfl⟩
  · exact ⟨_, rfl⟩

/-- A path that ends in a slash after a name is never made a file. -/
theorem createNewAt_of_slash (t : Tree) (cwd : Location) (content : List UInt8)
    (slash : slashAfterName bytes = true) : ∃ fault, createNewAt t cwd bytes content = .error fault := by
  obtain ⟨fault, refused⟩ := lookupCreate_of_slash t cwd false slash
  exact ⟨fault, by rw [createNewAt, refused]⟩

/-- Where a path names something, a dangling link included, no file is created: the fault is
`alreadyExists` unless the path ends in a slash. -/
theorem createNewAt_of_found {t : Tree} {cwd loc : Location} {e : Entry} (content : List UInt8)
    (found : lookup t cwd bytes false = .ok (.found loc e)) :
    ∃ fault, createNewAt t cwd bytes content = .error fault ∧
      (bytes.getLast? ≠ some 47 → fault = .alreadyExists) := by
  by_cases slash : slashAfterName bytes = true
  · obtain ⟨fault, refused⟩ := createNewAt_of_slash t cwd content slash
    refine ⟨fault, refused, fun last => absurd slash ?_⟩
    simp [slashAfterName, last]
  · have plain : lookupCreate t cwd bytes false = lookup t cwd bytes false := by
      simp [lookupCreate, slash]
    exact ⟨.alreadyExists, by rw [createNewAt, plain, found], fun _ => rfl⟩

end Refused

/-- Writing an artifact where the path ends at a missing name makes that name a file of the
rendered commands and the footer, and reports the path, the number of commands and the digest of
those bytes. -/
theorem writeArtifact_run_of_absent (h : Host) (path : Path) (cs : List Command) (p : Provenance)
    (tag : String) {parent : Location} {name : Name}
    (absent : lookup h.tree h.cwd path.bytes false = .ok (.absent parent name)) :
    Host.run (writeArtifact path cs p tag) h =
      (.ok ⟨path, cs.length, hashBytes (artifactText cs p tag).toUTF8.toList⟩,
        { h with tree := h.tree.set (parent ++ [name]) (.file (artifactText cs p tag).toUTF8.toList) }) := by
  have created : createNewAt h.tree h.cwd path.bytes (artifactText cs p tag).toUTF8.toList =
      .ok (h.tree.set (parent ++ [name]) (.file (artifactText cs p tag).toUTF8.toList)) := by
    rw [createNewAt, lookupCreate_of_getLast (lookup_absent_getLast absent), absent]
  have read := readAt_set_of_absent absent (artifactText cs p tag).toUTF8.toList
  simp only [Host.run, writeArtifact]
  generalize (artifactText cs p tag).toUTF8.toList = bytes at created read ⊢
  simp [Host.createNew, Host.change, Host.onPath, created, hashFile, Host.readBytes, Host.tryRead,
    read, bind, EStateM.bind, get, getThe, MonadStateOf.get, EStateM.get, set, EStateM.set, pure,
    EStateM.pure, EStateM.run]

/-- Where the file cannot be created, writing an artifact fails with the fault on its path and
changes nothing. -/
theorem writeArtifact_run_of_error (h : Host) (path : Path) (cs : List Command) (p : Provenance)
    (tag : String) {fault : IoFault}
    (refused : createNewAt h.tree h.cwd path.bytes (artifactText cs p tag).toUTF8.toList = .error fault) :
    Host.run (writeArtifact path cs p tag) h = (.error (.io path fault), h) := by
  simp only [Host.run, writeArtifact]
  generalize (artifactText cs p tag).toUTF8.toList = bytes at refused ⊢
  simp [Host.createNew, Host.change, Host.onPath, refused, bind,
    EStateM.bind, get, getThe, MonadStateOf.get, EStateM.get, throw, throwThe, MonadExceptOf.throw,
    EStateM.throw, EStateM.run]

/-- A directory `m` at the root, and nothing else. -/
def scriptDir : Host := { tree := ⟨[([[109]], .dir)]⟩ }

end Migrator
