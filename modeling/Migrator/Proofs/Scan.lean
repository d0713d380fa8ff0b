import Mathlib
import Migrator.Proofs.Host
import Migrator.Proofs.Writes
import Migrator.Proofs.Chain

/-! Reading the chain back from the migration directory. The chain a directory holds
(`chainOf`) is read off its entries: the regular files, links followed, whose names read as
scripts' names; `scanArtifacts` returns it (`scanArtifacts_spec`). The name of a script reads
back as its version and direction when the version is not empty and has no slash or line feed
(`ScriptVersion`). Adding files to the directory adds their scripts to the chain and keeps the
rest, as long as no entry of the directory is a link to a missing name (`chainOf_adds`). -/
namespace Migrator

open Std.Do Files

set_option mvcgen.warning false

/-- The script an entry of the directory at `dir` is: a regular file, links followed, whose
name reads as a script's. -/
def scriptOf (t : Tree) (cwd : Location) (dir : Path) (name : Name) : Option (String × Direction) :=
  if isFileAt t cwd (dir.join ⟨name⟩).bytes then artifactOfFileName (Text.Utf8.decodeLossy name)
  else none

/-- The versions among `names` with a script in direction `d`, in order. -/
def scripts (t : Tree) (cwd : Location) (dir : Path) (d : Direction) (names : List Name) :
    List String :=
  names.filterMap fun n => (scriptOf t cwd dir n).bind fun p => if p.2 = d then some p.1 else none

/-- The chain the directory at `dir`, found at `D`, holds. -/
def chainOf (t : Tree) (cwd : Location) (dir : Path) (D : Location) : ChainState :=
  ChainState.ofLists (scripts t cwd dir .up (t.children D)) (scripts t cwd dir .down (t.children D))

theorem scripts_append (t : Tree) (cwd : Location) (dir : Path) (d : Direction)
    (xs ys : List Name) :
    scripts t cwd dir d (xs ++ ys) = scripts t cwd dir d xs ++ scripts t cwd dir d ys := by
  simp [scripts, List.filterMap_append]

theorem ofLists_reverse (up down : List String) :
    ChainState.ofLists up.reverse down.reverse = ChainState.ofLists up down := by
  simp only [ChainState.ofLists, ChainState.mk.injEq]
  exact ⟨sortedSet_congr (by simp), sortedSet_congr (by simp)⟩

/-- Scanning a directory reads the chain it holds and leaves the world. -/
theorem scanArtifacts_spec (dir : Path) (w : Tree × Location × List Location) (D : Location)
    (dirAt : stat w.1 w.2.1 dir.bytes = .ok (D, .dir)) :
    ⦃fun h => ⌜h.world = w⌝⦄ scanArtifacts dir
    ⦃⇓ state h => ⌜h.world = w ∧ state = chainOf w.1 w.2.1 dir D⌝⦄ := by
  have present : existsAt w.1 w.2.1 dir.bytes = true := by simp [existsAt, dirAt, Except.toOption]
  have listed : listAt w.1 w.2.1 dir.bytes = .ok (w.1.children D) := by simp [listAt, dirAt]
  mvcgen [scanArtifacts, Host.pathExists, Host.listDir, Host.isFile, Host.onPath]
  -- the loop gathers the scripts of the names read so far (`r.1.1`), the latest first
  case inv1 =>
    exact ⇓ r h => ⌜h.world = w ∧ r.2.1 = (scripts w.1 w.2.1 dir .up r.1.1).reverse ∧
      r.2.2 = (scripts w.1 w.2.1 dir .down r.1.1).reverse⌝
  all_goals simp_all +zetaDelta [Host.world_eq_iff, scripts_append, chainOf, ofLists_reverse]
  all_goals simp_all [scripts, scriptOf]

/-! ### Script names -/

/-- The bytes of the name of a script. -/
def scriptName (version : String) (d : Direction) : Name := (artifactFileName version d).toUTF8.toList

theorem artifactPath_eq_join (dir : Path) (version : String) (d : Direction) :
    artifactPath dir version d = dir.join ⟨scriptName version d⟩ := rfl

/-- A version that names its scripts: not empty, with no slash and no line feed, so that each of
its scripts is one name in the directory and reads back as the version. -/
structure ScriptVersion (version : String) : Prop where
  nonempty : version ≠ ""
  noSlash : '/' ∉ version.toList
  noBreak : '\n' ∉ version.toList

variable {version : String}

theorem toList_artifactFileName (version : String) (d : Direction) :
    (artifactFileName version d).toList = version.toList ++ ('_' :: d.name.toList ++ ".sql".toList) := by
  simp [artifactFileName]

theorem scriptName_eq (version : String) (d : Direction) :
    scriptName version d = (version ++ "_" ++ d.name).toUTF8.toList ++ [46, 115, 113, 108] := by
  simp only [scriptName, artifactFileName, Text.Utf8.toList_toUTF8, String.toList_append,
    List.flatMap_append]
  rfl

theorem slash_not_mem_scriptName (named : ScriptVersion version) (d : Direction) :
    47 ∉ scriptName version d := by
  intro member
  obtain ⟨c, inName, code⟩ := Text.Utf8.exists_char_of_mem_toUTF8 member (by decide)
  have slash : c = '/' := Char.ext (UInt32.toNat_inj.mp code)
  subst slash
  rw [toList_artifactFileName] at inName
  rcases List.mem_append.mp inName with inVersion | inSuffix
  · exact named.noSlash inVersion
  · cases d <;> simp [Direction.name] at inSuffix

theorem ofPart_scriptName (version : String) (d : Direction) :
    Step.ofPart (scriptName version d) = some (.name (scriptName version d)) := by
  have last : (scriptName version d).getLast? = some 108 := by simp [scriptName_eq]
  unfold Step.ofPart
  split_ifs with empty here up
  · simp_all
  · simp_all
  · simp_all
  · rfl

/-- `_up.sql` is no suffix of a name that ends in `_down.sql`. -/
theorem not_up_suffix_of_down (pre : List Char) :
    ¬ (['_', 'u', 'p', '.', 's', 'q', 'l'] <:+ pre ++ ['_', 'd', 'o', 'w', 'n', '.', 's', 'q', 'l']) := by
  intro suffix
  have both : ['_', 'd', 'o', 'w', 'n', '.', 's', 'q', 'l'] <:+
      pre ++ ['_', 'd', 'o', 'w', 'n', '.', 's', 'q', 'l'] := List.suffix_append _ _
  exact absurd (List.suffix_of_suffix_length_le suffix both (by simp)) (by decide)

/-- The file name of a script reads back as its version and direction exactly when the version
is not empty and has no line feed: the version must fill at least one character, none of which
is a line feed. -/
theorem artifactOfFileName_artifactFileName (version : String) (d : Direction) :
    artifactOfFileName (artifactFileName version d) = some (version, d) ↔
      version ≠ "" ∧ '\n' ∉ version.toList := by
  unfold artifactOfFileName
  rw [toList_artifactFileName]
  by_cases broken : '\n' ∈ version.toList
  · simp [broken]
  have clean : (version.toList ++ ('_' :: d.name.toList ++ ".sql".toList)).contains '\n' = false := by
    cases d <;> simp [Direction.name, broken]
  simp only [clean, Bool.false_eq_true, if_false, broken, not_false_eq_true, and_true]
  have long : version ≠ "" ↔ 0 < version.toList.length := by
    simp [List.length_pos_iff, String.toList_eq_nil_iff]
  cases d with
  | up => simp [Direction.name, List.isSuffixOf_iff_suffix, long]
  | down => simp [Direction.name, List.isSuffixOf_iff_suffix, long, not_up_suffix_of_down]

/-- Two scripts have one file name only when they are the same version and direction. -/
theorem artifactFileName_injective : Function.Injective (Function.uncurry artifactFileName) := by
  rintro ⟨v, d⟩ ⟨v', d'⟩ same
  have chars := congrArg String.toList same
  simp only [Function.uncurry_apply_pair, toList_artifactFileName] at chars
  cases d <;> cases d' <;> simp only [Direction.name] at chars
  · simpa using String.toList_injective (List.append_cancel_right chars)
  · exact absurd (chars ▸ List.suffix_append _ _) (not_up_suffix_of_down v'.toList)
  · exact absurd (chars.symm ▸ List.suffix_append _ _) (not_up_suffix_of_down v.toList)
  · simpa using String.toList_injective (List.append_cancel_right chars)

/-- The name of a script reads back as its version and direction. -/
theorem artifactOfFileName_scriptName (named : ScriptVersion version) (d : Direction) :
    artifactOfFileName (Text.Utf8.decodeLossy (scriptName version d)) = some (version, d) := by
  rw [scriptName, Text.Utf8.decodeLossy_toUTF8, artifactOfFileName_artifactFileName]
  exact ⟨named.nonempty, named.noBreak⟩

/-- Both script names of a version. -/
def scriptNames (version : String) : List Name := [scriptName version .up, scriptName version .down]

/-! ### Adding files to the directory -/

/-- No entry of the directory at `dir`, found at `D`, is a link to a missing name: followed,
each entry leads to something that exists, or to a failure. -/
def NoDangling (t : Tree) (cwd : Location) (dir : Path) (D : Location) : Prop :=
  ∀ n ∈ t.children D, ∀ parent name,
    lookup t cwd (dir.join ⟨n⟩).bytes true ≠ .ok (.absent parent name)

/-- Names that stand for one entry of a directory. -/
def PlainNames (names : List Name) : Prop := ∀ n ∈ names, 47 ∉ n ∧ Step.ofPart n = some (.name n)

/-- The scripts a name is, read off its name alone. -/
def scriptsOfNames (d : Direction) (names : List Name) : List String :=
  names.filterMap fun n =>
    (artifactOfFileName (Text.Utf8.decodeLossy n)).bind fun p => if p.2 = d then some p.1 else none

section Adds

variable {t t' : Tree} {cwd D : Location} {dir : Path} {names : List Name}
  (adds : t.Adds t' (names.map (D ++ [·])))
include adds

theorem children_adds : t'.children D = t.children D ++ names := by
  obtain ⟨added, entries, places, -⟩ := adds
  have whole : t' = ⟨t.entries ++ added⟩ := by
    obtain ⟨entries'⟩ := t'
    simpa using entries
  rw [whole, Tree.children_append, Tree.children_of_places places]

theorem scriptOf_kept (linked : NoDangling t cwd dir D) {n : Name} (member : n ∈ t.children D) :
    scriptOf t' cwd dir n = scriptOf t cwd dir n := by
  simp only [scriptOf, isFileAt_eq_of_extends adds.extends (linked n member)]

variable (dirAt : stat t cwd dir.bytes = .ok (D, .dir)) (plain : PlainNames names)
include dirAt plain

theorem scriptOf_added {n : Name} (member : n ∈ names) :
    scriptOf t' cwd dir n = artifactOfFileName (Text.Utf8.decodeLossy n) := by
  obtain ⟨c, file⟩ := adds.get?_added (List.mem_map_of_mem member)
  have dirAt' := stat_eq_of_extends adds.extends dirAt
  simp [scriptOf, isFileAt_join_of_file dirAt' (plain n member).1 (plain n member).2 file]

theorem scripts_adds (linked : NoDangling t cwd dir D) (d : Direction) :
    scripts t' cwd dir d (t'.children D) =
      scripts t cwd dir d (t.children D) ++ scriptsOfNames d names := by
  rw [children_adds adds, scripts_append]
  congr 1
  · exact List.filterMap_congr fun n member => by
      rw [scriptOf_kept adds linked member]
  · exact List.filterMap_congr fun n member => by
      rw [scriptOf_added adds dirAt plain member]

/-- Adding plain files keeps every entry of the directory from leading to a missing name. -/
theorem noDangling_adds (linked : NoDangling t cwd dir D) : NoDangling t' cwd dir D := by
  intro n member parent name
  rw [children_adds adds] at member
  rcases List.mem_append.mp member with old | new
  · rcases (lookup_grows adds.extends cwd (dir.join ⟨n⟩).bytes true).of_not_absent
        (linked n old) with same | ⟨f, f', -, failed⟩
    · rw [same]
      exact linked n old parent name
    · rw [failed]
      simp
  · obtain ⟨c, file⟩ := adds.get?_added (List.mem_map_of_mem new)
    obtain ⟨b, eq⟩ := lookup_join (stat_eq_of_extends adds.extends dirAt) (plain n new).1
      (plain n new).2 true
    rw [eq, resolve_name_of_file file]
    simp

/-- Adding plain files to the directory adds the scripts their names read as. -/
theorem chainOf_adds (linked : NoDangling t cwd dir D) :
    chainOf t' cwd dir D = ChainState.ofLists
      ((chainOf t cwd dir D).up ++ scriptsOfNames .up names)
      ((chainOf t cwd dir D).down ++ scriptsOfNames .down names) := by
  simp only [chainOf, ChainState.ofLists, scripts_adds adds dirAt plain linked, ChainState.mk.injEq]
  constructor <;> exact sortedSet_congr fun v => by simp [mem_sortedSet]

end Adds

theorem scriptsOfNames_append (d : Direction) (xs ys : List Name) :
    scriptsOfNames d (xs ++ ys) = scriptsOfNames d xs ++ scriptsOfNames d ys := by
  simp [scriptsOfNames, List.filterMap_append]

/-- The names of the scripts of versions read back as the versions, in each direction. -/
theorem scriptsOfNames_scriptNames {versions : List String}
    (named : ∀ v ∈ versions, ScriptVersion v) (d : Direction) :
    scriptsOfNames d (versions.flatMap scriptNames) = versions := by
  induction versions with
  | nil => rfl
  | cons v vs ih =>
    rw [List.flatMap_cons, scriptsOfNames_append, ih fun u member => named u (by simp [member])]
    have readBack := artifactOfFileName_scriptName (named v (by simp))
    cases d <;> simp [scriptsOfNames, scriptNames, readBack]

theorem plainNames_scriptNames {versions : List String} (named : ∀ v ∈ versions, ScriptVersion v) :
    PlainNames (versions.flatMap scriptNames) := by
  intro n member
  obtain ⟨v, inVersions, inNames⟩ := List.mem_flatMap.mp member
  simp only [scriptNames, List.mem_cons, List.not_mem_nil, or_false] at inNames
  rcases inNames with rfl | rfl
  · exact ⟨slash_not_mem_scriptName (named v inVersions) _, ofPart_scriptName _ _⟩
  · exact ⟨slash_not_mem_scriptName (named v inVersions) _, ofPart_scriptName _ _⟩

/-- The name of the lock file. -/
def lockName : Name := Host.lockFileName.toUTF8.toList

theorem lock_eq_join (dir : Path) : dir.push Host.lockFileName = dir.join ⟨lockName⟩ := rfl

theorem lockName_eq : lockName = [46, 111, 100, 121, 115, 115, 101, 121, 46, 108, 111, 99, 107] := by
  rw [lockName, Text.Utf8.toList_toUTF8]
  decide

theorem plainNames_lock : PlainNames [lockName] := by
  simp only [PlainNames, List.mem_singleton, forall_eq, lockName_eq]
  decide

theorem scriptsOfNames_lock (d : Direction) : scriptsOfNames d [lockName] = [] := by
  have notScript : artifactOfFileName Host.lockFileName = none := by decide
  rw [scriptsOfNames, lockName, List.filterMap_cons, Text.Utf8.decodeLossy_toUTF8, notScript]
  rfl

/-! ### A directory of scripts -/

section Listing

variable {t : Tree} {cwd D : Location} {dir : Path} {X : Finset (String × Direction)}

/-- Where the regular files of a directory are the scripts of `X` and files whose names read as
no script, the versions with a script in one direction are those of `X`. -/
theorem mem_scripts_iff
    (named : ∀ p ∈ X, p.1 ≠ "" ∧ '\n' ∉ p.1.toList)
    (present : ∀ p ∈ X, scriptName p.1 p.2 ∈ t.children D ∧
      isFileAt t cwd (dir.join ⟨scriptName p.1 p.2⟩).bytes = true)
    (others : ∀ n ∈ t.children D, isFileAt t cwd (dir.join ⟨n⟩).bytes = true →
      (∃ p ∈ X, n = scriptName p.1 p.2) ∨ artifactOfFileName (Text.Utf8.decodeLossy n) = none)
    (d : Direction) (v : String) :
    v ∈ scripts t cwd dir d (t.children D) ↔ (v, d) ∈ X := by
  have readBack : ∀ p ∈ X, artifactOfFileName (Text.Utf8.decodeLossy (scriptName p.1 p.2)) = some p :=
    fun p member => by
      rw [scriptName, Text.Utf8.decodeLossy_toUTF8, artifactOfFileName_artifactFileName]
      exact named p member
  simp only [scripts, List.mem_filterMap, Option.bind_eq_some_iff, scriptOf]
  constructor
  · rintro ⟨n, member, ⟨v', d'⟩, read, picked⟩
    split_ifs at read with file
    obtain ⟨rfl, rfl⟩ : d' = d ∧ v' = v := by
      split_ifs at picked with same
      exact ⟨same, Option.some.inj picked⟩
    -- a regular file that reads as a script is one of the scripts of `X`
    rcases others n member file with ⟨p, inX, rfl⟩ | unread
    · rw [readBack p inX] at read
      exact Option.some.inj read ▸ inX
    · rw [unread] at read
      contradiction
  · intro inX
    obtain ⟨member, file⟩ := present (v, d) inX
    exact ⟨scriptName v d, member, (v, d), by simp [file, readBack (v, d) inX], by simp⟩

end Listing

/-- Scanning a directory whose regular files are the scripts of `X` and files whose names read as
no script finds exactly the versions of `X`, in each direction. -/
theorem scanArtifacts_scripts {h : Host} {dir : Path} {D : Location} {X : Finset (String × Direction)}
    (dirAt : stat h.tree h.cwd dir.bytes = .ok (D, .dir))
    (named : ∀ p ∈ X, p.1 ≠ "" ∧ '\n' ∉ p.1.toList)
    (present : ∀ p ∈ X, scriptName p.1 p.2 ∈ h.tree.children D ∧
      isFileAt h.tree h.cwd (dir.join ⟨scriptName p.1 p.2⟩).bytes = true)
    (others : ∀ n ∈ h.tree.children D, isFileAt h.tree h.cwd (dir.join ⟨n⟩).bytes = true →
      (∃ p ∈ X, n = scriptName p.1 p.2) ∨ artifactOfFileName (Text.Utf8.decodeLossy n) = none) :
    ∃ s, (Host.run (scanArtifacts dir) h).1 = .ok s ∧
      (∀ v, v ∈ s.up ↔ (v, .up) ∈ X) ∧ (∀ v, v ∈ s.down ↔ (v, .down) ∈ X) := by
  obtain ⟨scanned, failed⟩ :=
    Host.run_of_triple (scanArtifacts_spec dir h.world D dirAt) (rfl : h.world = h.world)
  cases result : Host.run (scanArtifacts dir) h with
  | mk r h' =>
    cases r with
    | ok s =>
      obtain ⟨-, rfl⟩ := scanned s h' result
      refine ⟨_, rfl, ?_⟩
      simp only [chainOf, ChainState.ofLists, mem_sortedSet, Host.world_tree, Host.world_cwd]
      exact ⟨mem_scripts_iff named present others .up, mem_scripts_iff named present others .down⟩
    | error e => exact (failed e h' result).elim

/-- Script file names and the scan agree: a script's name reads back as its version and
direction exactly when the version is not empty and has no line feed; no two scripts share a
name; and a directory whose regular files are the scripts of `X`, besides files whose names read
as no script, scans as the versions of `X` in each direction. -/
theorem artifactFileName_scan_roundTrip :
    (∀ version d, artifactOfFileName (artifactFileName version d) = some (version, d) ↔
      version ≠ "" ∧ '\n' ∉ version.toList) ∧
    Function.Injective (Function.uncurry artifactFileName) ∧
    ∀ (h : Host) (dir : Path) (D : Location) (X : Finset (String × Direction)),
      stat h.tree h.cwd dir.bytes = .ok (D, .dir) →
      (∀ p ∈ X, p.1 ≠ "" ∧ '\n' ∉ p.1.toList) →
      (∀ p ∈ X, scriptName p.1 p.2 ∈ h.tree.children D ∧
        isFileAt h.tree h.cwd (dir.join ⟨scriptName p.1 p.2⟩).bytes = true) →
      (∀ n ∈ h.tree.children D, isFileAt h.tree h.cwd (dir.join ⟨n⟩).bytes = true →
        (∃ p ∈ X, n = scriptName p.1 p.2) ∨ artifactOfFileName (Text.Utf8.decodeLossy n) = none) →
      ∃ s, (Host.run (scanArtifacts dir) h).1 = .ok s ∧
        (∀ v, v ∈ s.up ↔ (v, .up) ∈ X) ∧ (∀ v, v ∈ s.down ↔ (v, .down) ∈ X) :=
  ⟨artifactOfFileName_artifactFileName, artifactFileName_injective,
    fun _ _ _ _ dirAt named present others => scanArtifacts_scripts dirAt named present others⟩

/-- A directory `m` with both scripts of `0001` and a text file `notes_up.txt` scans as `0001`
in both directions. -/
theorem scanArtifacts_both_scripts_of_first :
    ∃ s, (Host.run (scanArtifacts (.ofString "m"))
        { tree := ⟨[([[109]], .dir), ([[109], scriptName "0001" .up], .file []),
          ([[109], scriptName "0001" .down], .file []), ([[109], "notes_up.txt".toUTF8.toList], .file [])]⟩ }).1
        = .ok s ∧
      (∀ v, v ∈ s.up ↔ (v, .up) ∈ ({("0001", .up), ("0001", .down)} : Finset (String × Direction))) ∧
      (∀ v, v ∈ s.down ↔ (v, .down) ∈ ({("0001", .up), ("0001", .down)} : Finset (String × Direction))) := by
  have listed : Tree.children ⟨[([[109]], .dir), ([[109], scriptName "0001" .up], .file []),
      ([[109], scriptName "0001" .down], .file []), ([[109], "notes_up.txt".toUTF8.toList], .file [])]⟩
      [[109]] = [scriptName "0001" .up, scriptName "0001" .down, "notes_up.txt".toUTF8.toList] := by
    decide +kernel
  refine artifactFileName_scan_roundTrip.2.2 _ _ [[109]] _ (by cbv) (by decide) ?_ ?_
  · simp only [Finset.mem_insert, Finset.mem_singleton, forall_eq_or_imp, forall_eq, listed]
    exact ⟨⟨by simp, by cbv⟩, ⟨by simp, by cbv⟩⟩
  · simp only [listed, List.mem_cons, List.not_mem_nil, or_false, forall_eq_or_imp, forall_eq]
    refine ⟨fun _ => .inl ⟨("0001", .up), by simp, rfl⟩, fun _ => .inl ⟨("0001", .down), by simp, rfl⟩,
      fun _ => .inr (by decide +kernel)⟩

end Migrator
