import Mathlib
import Migrator.Proofs.Host
import Migrator.Proofs.Index

/-! Indexing a source tree. The `.sql` files are read in path order; a file with an object header
inserts its name under its type, and indexing reports each file that has no header, and each file
whose name its bucket holds already, with the first earlier file that holds it. The index is the
one those inserts build, and every file is reported or indexed, so the files number the reports
plus the size of the index. A file that does not read as text stops indexing at the first such
file, with its error, before the totals are reported (`indexSources_indexes_each_file`). -/
namespace Migrator

open Std.Do

set_option mvcgen.warning false

/-- The text a file of the host holds, if it reads as UTF-8. -/
def Host.textOf (h : Host) (f : Path) : Option String :=
  match Files.readAt h.tree h.cwd f.bytes with
  | .ok bytes => Text.Utf8.decode? bytes
  | .error _ => none

/-- The inserts that indexing makes for files with the given texts: each file with a header, in
order, under its type. -/
def headerInserts (engine : Engine) (text : Path → String) (files : List Path) :
    List (String × IndexEntry) :=
  files.filterMap fun f => (engine.detect (text f)).map fun h => (h.objectType, ⟨h.name, f⟩)

/-- What indexing reports for the file `f` after the inserts `earlier`: that it has no header, or
that an earlier file holds its name under its type, with the first such file; else nothing. -/
def sourceReport (engine : Engine) (text : Path → String) (earlier : List (String × IndexEntry))
    (f : Path) : List Event :=
  match engine.detect (text f) with
  | none => [.noObjectHeader f]
  | some h =>
    match ObjectIndex.firstClash earlier h.objectType ⟨h.name, f⟩ with
    | some kept => [.duplicateObject h.objectType h.name kept f]
    | none => []

/-- What indexing reports for `files`, in order, after the files `done`. -/
def indexReport (engine : Engine) (text : Path → String) (done : List Path) :
    List Path → List Event
  | [] => []
  | f :: rest =>
    sourceReport engine text (headerInserts engine text done) f ++
      indexReport engine text (done ++ [f]) rest

/-- Whether an event reports a source file without an object header. -/
def Event.isNoObjectHeader : Event → Bool
  | .noObjectHeader _ => true
  | _ => false

/-- Whether an event reports a source file whose name its bucket holds already. -/
def Event.isDuplicateObject : Event → Bool
  | .duplicateObject .. => true
  | _ => false

theorem Host.textOf_congr {h h' : Host} (same : h.world = h'.world) (f : Path) :
    h.textOf f = h'.textOf f := by
  obtain ⟨tree, cwd, -⟩ := Host.world_eq_iff.mp same
  simp [Host.textOf, tree, cwd]

theorem headerInserts_concat (engine : Engine) (text : Path → String) (files : List Path)
    (f : Path) :
    headerInserts engine text (files ++ [f]) = headerInserts engine text files ++
      ((engine.detect (text f)).map fun h => (h.objectType, ⟨h.name, f⟩)).toList := by
  cases found : engine.detect (text f) <;> simp [headerInserts, found]

theorem indexReport_concat (engine : Engine) (text : Path → String) (done files : List Path)
    (f : Path) :
    indexReport engine text done (files ++ [f]) = indexReport engine text done files ++
      sourceReport engine text (headerInserts engine text (done ++ files)) f := by
  induction files generalizing done with
  | nil => simp [indexReport]
  | cons g files ih => simp [indexReport, ih]

/-- Each file is reported once or indexed: a missing header and a name indexed already are
reported, and every other file adds its entry. -/
theorem length_eq_reported_add_size (engine : Engine) (text : Path → String) (files : List Path) :
    files.length = (indexReport engine text [] files).countP Event.isNoObjectHeader +
      (indexReport engine text [] files).countP Event.isDuplicateObject +
      (({} : ObjectIndex).insertAll (headerInserts engine text files)).1.size := by
  induction files using List.reverseRecOn with
  | nil => rfl
  | append_singleton files f ih =>
    rw [indexReport_concat, headerInserts_concat, List.nil_append]
    cases detected : engine.detect (text f) with
    | none =>
      simp [sourceReport, detected, Event.isNoObjectHeader, Event.isDuplicateObject, ih]
      omega
    | some h =>
      rw [Option.map_some, Option.toList_some, ObjectIndex.size_insertAll_concat]
      cases kept : ObjectIndex.firstClash (headerInserts engine text files) h.objectType
          ⟨h.name, f⟩ <;>
        simp [sourceReport, detected, kept, Event.isNoObjectHeader, Event.isDuplicateObject] <;>
        omega

/-- A host with the world and reads of `h` whose events extend those of `h` by `evs`. -/
theorem Host.eq_of_world_events {h h' : Host} {evs : List Event} (world : h'.world = h.world)
    (reads : h'.reads = h.reads) (events : h'.events.toList = h.events.toList ++ evs) :
    h' = { h with events := h.events ++ evs.toArray } := by
  obtain ⟨tree, cwd, locks⟩ := Host.world_eq_iff.mp world
  obtain ⟨_, _, _, events', _⟩ := h'
  simp only at tree cwd locks events reads
  subst tree cwd locks reads
  congr 1
  exact Array.toList_inj.mp (by simp [events])

/-- Indexing leaves how the system splits reads as it was. -/
theorem indexSources_keeps_reads (root : Path) (engine : Engine) (r : ReadSplit) :
    ⦃fun h => ⌜h.reads = r⌝⦄ indexSources root engine
    ⦃post⟨fun _ h => ⌜h.reads = r⌝, fun _ h => ⌜h.reads = r⌝⟩⦄ := by
  mvcgen [-indexSources_spec, -findSqlFiles_spec, -Host.readText_spec, -Host.emit_spec, indexSources,
    findSqlFiles, Host.isDir, Host.readText, Host.tryRead, Host.onPath, Host.emit]
  case inv1 => exact post⟨fun _ h => ⌜h.reads = r⌝, fun _ h => ⌜h.reads = r⌝⟩
  all_goals simp_all +zetaDelta

/-- Listing the source files reads the host and changes nothing. -/
theorem findSqlFiles_keeps_host (root : Path) (h : Host) :
    ⦃fun s => ⌜s = h⌝⦄ findSqlFiles root ⦃post⟨fun _ s => ⌜s = h⌝, fun _ s => ⌜s = h⌝⟩⦄ := by
  mvcgen [-findSqlFiles_spec, findSqlFiles, Host.isDir]

theorem findSqlFiles_run {root : Path} {h : Host} {files : List Path}
    (found : (Host.run (findSqlFiles root) h).1 = .ok files) :
    Host.run (findSqlFiles root) h = (.ok files, h) := by
  obtain ⟨kept, -⟩ := Host.run_of_triple (findSqlFiles_keeps_host root h) rfl
  rcases ran : Host.run (findSqlFiles root) h with ⟨e | r, h'⟩
  · simp [ran] at found
  · simp only [ran] at found
    rw [found, kept r h' ran]

theorem Host.triple_of_run {α : Type} {act : HostM α} {h h' : Host} {a : α}
    (ran : Host.run act h = (.ok a, h')) :
    ⦃fun s => ⌜s = h⌝⦄ act ⦃post⟨fun r s => ⌜r = a ∧ s = h'⌝, fun _ _ => ⌜False⌝⟩⦄ := by
  intro s pre
  simp only [SPred.down_pure] at pre
  subst pre
  have result : act.run s = .ok a h' := by
    unfold Host.run at ran
    split at ran <;> simp_all
  simp only [wp, PredTrans.apply, result]
  simp

section Trace

variable (h₀ : Host) (es : List Event)

theorem readText_textOf (path : Path) :
    ⦃fun h => ⌜h.world = h₀.world ∧ h.events.toList = es⌝⦄ Host.readText path
    ⦃post⟨fun s h => ⌜h₀.textOf path = some s ∧ h.world = h₀.world ∧ h.events.toList = es⌝,
      fun e h => ⌜h₀.textOf path = none ∧ (∃ fault, e = .io path fault) ∧ h.world = h₀.world ∧
        h.events.toList = es⌝⟩⦄ := by
  mvcgen [-Host.readText_spec, Host.readText, Host.tryRead, Host.onPath]
  all_goals simp_all [Host.textOf, Host.world_eq_iff]

theorem emit_trace (e : Event) :
    ⦃fun h => ⌜h.world = h₀.world ∧ h.events.toList = es⌝⦄ Host.emit e
    ⦃⇓ _ h => ⌜h.world = h₀.world ∧ h.events.toList = es ++ [e]⌝⦄ := by
  mvcgen [-Host.emit_spec, Host.emit]
  simp_all +zetaDelta [Host.world_eq_iff]

variable {root : Path} {engine : Engine} {files : List Path}

theorem indexSources_trace (found : Host.run (findSqlFiles root) h₀ = (.ok files, h₀)) :
    ⦃fun h => ⌜h = h₀⌝⦄ indexSources root engine
    ⦃post⟨fun idx h => ⌜(∀ f ∈ files, (h₀.textOf f).isSome) ∧
        idx = (({} : ObjectIndex).insertAll
          (headerInserts engine (fun f => (h₀.textOf f).getD "") files)).1 ∧
        h.world = h₀.world ∧
        h.events.toList = h₀.events.toList ++
          indexReport engine (fun f => (h₀.textOf f).getD "") [] files ++
          [.sourcesIndexed files.length idx.size]⌝,
      fun e h => ⌜∃ pre f rest, files = pre ++ f :: rest ∧ (∀ g ∈ pre, (h₀.textOf g).isSome) ∧
        h₀.textOf f = none ∧ (∃ fault, e = .io f fault) ∧ h.world = h₀.world ∧
        h.events.toList = h₀.events.toList ++
          indexReport engine (fun f => (h₀.textOf f).getD "") [] pre⌝⟩⦄ := by
  have listed := Host.triple_of_run found
  mvcgen [-indexSources_spec, -findSqlFiles_spec, -Host.readText_spec, -Host.emit_spec,
    indexSources, listed, readText_textOf, emit_trace]
  -- the state is the cursor over the files, whose first field holds those read, and the index
  case inv1 =>
    exact post⟨fun st h => ⌜(∀ f ∈ st.1.1, (h₀.textOf f).isSome) ∧
        st.2 = (({} : ObjectIndex).insertAll
          (headerInserts engine (fun f => (h₀.textOf f).getD "") st.1.1)).1 ∧
        h.world = h₀.world ∧
        h.events.toList = h₀.events.toList ++
          indexReport engine (fun f => (h₀.textOf f).getD "") [] st.1.1⌝,
      fun e h => ⌜∃ pre f rest, files = pre ++ f :: rest ∧ (∀ g ∈ pre, (h₀.textOf g).isSome) ∧
        h₀.textOf f = none ∧ (∃ fault, e = .io f fault) ∧ h.world = h₀.world ∧
        h.events.toList = h₀.events.toList ++
          indexReport engine (fun f => (h₀.textOf f).getD "") [] pre⌝⟩
  all_goals simp_all +zetaDelta
  -- each step: the file read is the one of the starting host, and its header decides
  case vc2 =>
    rename_i before noHeader read _
    obtain ⟨readable, -, world, -⟩ := before
    rw [Host.textOf_congr world] at read
    refine ⟨fun f member => ?_, ?_, ?_⟩
    · rcases member with inPref | rfl
      · exact readable f inPref
      · simp [read]
    · simp [headerInserts_concat, read, noHeader]
    · simp [indexReport_concat, sourceReport, read, noHeader]
  case vc3 =>
    rename_i before detected kept read _
    obtain ⟨readable, -, world, -⟩ := before
    rw [Host.textOf_congr world] at read
    rw [ObjectIndex.insert_insertAll] at kept
    refine ⟨fun f member => ?_, ?_, ?_⟩
    · rcases member with inPref | rfl
      · exact readable f inPref
      · simp [read]
    · simp [headerInserts_concat, read, detected, ObjectIndex.insertAll_concat]
    · simp [indexReport_concat, sourceReport, read, detected, kept]
  case vc4 =>
    rename_i before detected notSome kept read
    obtain ⟨readable, -, world, -⟩ := before
    rw [Host.textOf_congr world] at read
    rw [ObjectIndex.insert_insertAll] at kept
    have fresh : ObjectIndex.firstClash _ _ _ = none := kept.trans (Option.eq_none_iff_forall_ne_some.mpr
      fun k same => notSome k same)
    refine ⟨fun f member => ?_, ?_, ?_⟩
    · rcases member with inPref | rfl
      · exact readable f inPref
      · simp [read]
    · simp [headerInserts_concat, read, detected, ObjectIndex.insertAll_concat]
    · simp [indexReport_concat, sourceReport, read, detected, fresh]
  case vc5 =>
    rename_i whole before
    obtain ⟨readable, -, world, -⟩ := before
    intro _ unread _ _ _ _
    rw [Host.textOf_congr world] at unread
    exact ⟨_, ⟨_, whole.1.symm⟩, readable, unread, rfl⟩
  case vc6 => simp [ObjectIndex.insertAll, headerInserts, indexReport]

end Trace

/-- Indexing the source tree at `root`, whose `.sql` files `findSqlFiles` lists as `files`. When
each of them reads as text, indexing returns the index that the inserts of their headers build and
reports each file as `indexReport` says, then the totals; each file is reported or indexed. When
one does not, indexing fails with that file's error at the first such file, having reported the
files before it and no totals. -/
theorem indexSources_indexes_each_file (root : Path) (engine : Engine) (h : Host)
    (files : List Path) (found : (Host.run (findSqlFiles root) h).1 = .ok files) :
    let text := fun f => (h.textOf f).getD ""
    let idx := (({} : ObjectIndex).insertAll (headerInserts engine text files)).1
    let report := indexReport engine text [] files
    ((∀ f ∈ files, (h.textOf f).isSome) →
      Host.run (indexSources root engine) h =
        (.ok idx, { h with events :=
          h.events ++ (report ++ [Event.sourcesIndexed files.length idx.size]).toArray }) ∧
      files.length = report.countP Event.isNoObjectHeader +
        report.countP Event.isDuplicateObject + idx.size) ∧
    ∀ pre f rest, files = pre ++ f :: rest → (∀ g ∈ pre, (h.textOf g).isSome) →
      h.textOf f = none → ∃ fault, Host.run (indexSources root engine) h =
        (.error (.io f fault),
          { h with events := h.events ++ (indexReport engine text [] pre).toArray }) := by
  intro text idx report
  obtain ⟨succeeded, failed⟩ := Host.run_of_triple (indexSources_trace h (findSqlFiles_run found)) rfl
  obtain ⟨keptOk, keptError⟩ := Host.run_of_triple (indexSources_keeps_reads root engine h.reads) rfl
  refine ⟨fun readable => ⟨?_, length_eq_reported_add_size engine text files⟩,
    fun pre f rest split passed unread => ?_⟩
  · rcases ran : Host.run (indexSources root engine) h with ⟨e | a, h'⟩
    · -- a failure names a file that does not read as text
      obtain ⟨pre, f, rest, split, -, unread, -⟩ := failed e h' ran
      have := readable f (by simp [split])
      simp [unread] at this
    · have reads := keptOk a h' ran
      obtain ⟨-, rfl, world, events⟩ := succeeded a h' ran
      rw [Host.eq_of_world_events world reads (by simpa using events)]
  · rcases ran : Host.run (indexSources root engine) h with ⟨e | a, h'⟩
    · obtain ⟨pre', f', rest', split', passed', unread', ⟨fault, rfl⟩, world, events⟩ :=
        failed e h' ran
      -- both cuts stop at the first file that does not read as text
      obtain ⟨rfl, rfl⟩ := first_failing_unique (P := fun g => (h.textOf g).isSome)
        (split.symm.trans split') passed (by simp [unread]) passed' (by simp [unread'])
      exact ⟨fault, by rw [Host.eq_of_world_events world (keptError _ h' ran) events]⟩
    · obtain ⟨readable, -⟩ := succeeded a h' ran
      have := readable f (by simp [split])
      simp [unread] at this

/-- The source tree `src` with two files that define one table, the second in other case. -/
def sampleSources : Host :=
  { tree := ⟨[(["src".toUTF8.toList], .dir),
      (["src".toUTF8.toList, "a.sql".toUTF8.toList],
        .file "CREATE TABLE util.t (id INT);\n".toUTF8.toList),
      (["src".toUTF8.toList, "b.sql".toUTF8.toList],
        .file "create table UTIL.T (id BIGINT);\n".toUTF8.toList)]⟩ }

/-- Indexing `sampleSources` keeps `src/a.sql` and reports `src/b.sql`, which defines the same
table again. -/
theorem sampleSources_second_definition_reported :
    (Host.run (findSqlFiles (.ofString "src")) sampleSources).1 =
        .ok [.ofString "src/a.sql", .ofString "src/b.sql"] ∧
      Host.run (indexSources (.ofString "src") .postgres) sampleSources =
        (.ok ⟨[("TABLE", [⟨"util.t", .ofString "src/a.sql"⟩])]⟩,
          { sampleSources with events := #[.duplicateObject "TABLE" "UTIL.T"
            (.ofString "src/a.sql") (.ofString "src/b.sql"), .sourcesIndexed 2 1] }) := by
  have found : (Host.run (findSqlFiles (.ofString "src")) sampleSources).1 =
      .ok [.ofString "src/a.sql", .ofString "src/b.sql"] := by
    cbv
  -- what the two files read as, evaluated together
  obtain ⟨readable, inserted, reported⟩ :
      (∀ f ∈ [Path.ofString "src/a.sql", .ofString "src/b.sql"], (sampleSources.textOf f).isSome) ∧
      (({} : ObjectIndex).insertAll (headerInserts .postgres (fun f => (sampleSources.textOf f).getD "")
        [.ofString "src/a.sql", .ofString "src/b.sql"])).1 =
        ⟨[("TABLE", [⟨"util.t", .ofString "src/a.sql"⟩])]⟩ ∧
      indexReport .postgres (fun f => (sampleSources.textOf f).getD "") []
        [.ofString "src/a.sql", .ofString "src/b.sql"] =
        [.duplicateObject "TABLE" "UTIL.T" (.ofString "src/a.sql") (.ofString "src/b.sql")] := by
    decide +kernel
  refine ⟨found, ?_⟩
  have ran := ((indexSources_indexes_each_file _ .postgres sampleSources _ found).1 readable).1
  simp only [inserted, reported] at ran
  rw [ran]
  rfl

end Migrator
