import Mathlib
import Migrator.Migrate
import Migrator.Proofs.Runs
import Migrator.Proofs.Scan

/-! Planning a migration over the chain the migration directory holds. The built versions are
the up scripts the scan finds, in ascending order. A plan up to a target applies those at or below
it, in order; a plan down to it undoes those above it, newest first; so the two cut the built
chain in two at the target, whatever the target (`filter_le_append_filter_gt`). With no target a
plan up applies every built version and a plan down undoes the newest one. A broken chain is
refused with the chain check's error, whatever the direction and target. -/
namespace Migrator

open Std.Do Files

set_option mvcgen.warning false

/-- An ascending list is its part at or below a cut followed by its part above it. -/
theorem filter_le_append_filter_gt {l : List String} (sorted : l.Pairwise (· < ·)) (t : String) :
    l.filter (· ≤ t) ++ l.filter (t < ·) = l := by
  induction l with
  | nil => rfl
  | cons x rest ih =>
    obtain ⟨above, sortedRest⟩ := List.pairwise_cons.mp sorted
    by_cases low : x ≤ t
    · have notAbove : ¬ t < x := not_lt.mpr low
      simp only [List.filter_cons, low, notAbove, decide_true, decide_false, if_true,
        Bool.false_eq_true, if_false, List.cons_append, ih sortedRest]
    · -- everything after `x` lies above it, so above the cut too
      have high : ∀ y ∈ rest, t < y := fun y later =>
        lt_trans (lt_of_not_ge low) (above y later)
      have noneBelow : rest.filter (· ≤ t) = [] :=
        List.filter_eq_nil_iff.mpr fun y later => by simpa using high y later
      have allAbove : rest.filter (t < ·) = rest :=
        List.filter_eq_self.mpr fun y later => by simpa using high y later
      simp only [List.filter_cons, low, lt_of_not_ge low, decide_true, decide_false, if_true,
        Bool.false_eq_true, if_false, noneBelow, allAbove, List.nil_append]

/-- The last of an ascending list is its greatest element. -/
theorem take_one_reverse_eq_max? {l : List String} (sorted : l.Pairwise (· < ·)) :
    l.reverse.take 1 = l.max?.toList := by
  rcases List.eq_nil_or_concat' l with empty | ⟨before, last, rfl⟩
  · simp [empty]
  · have greatest : (before ++ [last]).max? = some last := by
      rw [List.max?_eq_some_iff]
      refine ⟨by simp, fun b member => ?_⟩
      rcases List.mem_append.mp member with early | same
      · exact le_of_lt ((List.pairwise_append.mp sorted).2.2 b early last (by simp))
      · simp_all
    simp [greatest]

variable (w : Tree × Location × List Location)

/-- Planning leaves the world; over a sound chain it gives the scripts of the versions the plan
walks, and over a broken one the chain check's error. -/
theorem planMigrationFiles_spec (s : Settings) (direction : Direction) (target : Option String)
    {text : String} {m : Manifest} {D : Location}
    (held : readAt w.1 w.2.1 s.manifest.bytes = .ok text.toUTF8.toList)
    (parsed : Manifest.parse text = .ok m)
    (dirAt : stat w.1 w.2.1 s.migrationDir.bytes = .ok (D, .dir)) :
    ⦃fun h => ⌜h.world = w⌝⦄ planMigrationFiles s direction target
    ⦃post⟨fun paths h => ⌜h.world = w ∧
        (∃ p, (chainOf w.1 w.2.1 s.migrationDir D).selectTargets m none = .ok p) ∧
        paths = (planVersions (chainOf w.1 w.2.1 s.migrationDir D).up direction target).map
          fun v => artifactPath s.migrationDir v direction⌝,
      fun e h => ⌜h.world = w ∧
        (chainOf w.1 w.2.1 s.migrationDir D).selectTargets m none = .error e⌝⟩⦄ := by
  have loads := loadManifest_spec w s.manifest held parsed
  have scans := scanArtifacts_spec s.migrationDir w D dirAt
  mvcgen [planMigrationFiles, loads, scans, Host.ofExcept]
  all_goals simp_all

/-- The plan's run from a host whose manifest loads and whose migration directory is a directory:
the chain check's answer with no target, its versions replaced by the plan's scripts. -/
theorem planMigrationFiles_run (h : Host) (s : Settings) (direction : Direction)
    (target : Option String) {text : String} {m : Manifest} {D : Location}
    (held : readAt h.tree h.cwd s.manifest.bytes = .ok text.toUTF8.toList)
    (parsed : Manifest.parse text = .ok m)
    (dirAt : stat h.tree h.cwd s.migrationDir.bytes = .ok (D, .dir)) :
    (Host.run (planMigrationFiles s direction target) h).1 =
      ((chainOf h.tree h.cwd s.migrationDir D).selectTargets m none).map fun _ =>
        (planVersions (chainOf h.tree h.cwd s.migrationDir D).up direction target).map
          fun v => artifactPath s.migrationDir v direction := by
  obtain ⟨ran, failed⟩ := Host.run_of_triple
    (planMigrationFiles_spec h.world s direction target held parsed dirAt) rfl
  cases result : Host.run (planMigrationFiles s direction target) h with
  | mk r h' =>
    cases r with
    | ok paths =>
      obtain ⟨-, ⟨p, sound⟩, rfl⟩ := ran paths h' result
      simp only [Host.world_tree, Host.world_cwd] at sound
      simp [sound, Except.map]
    | error e =>
      obtain ⟨-, broken⟩ := failed e h' result
      simp only [Host.world_tree, Host.world_cwd] at broken
      simp [broken, Except.map]

/-- A plan over a sound chain cuts the built versions in two at the target: up to `t` it applies
the built versions at or below `t`, ascending, and down to `t` it undoes those above `t`, newest
first, so that the two together walk every built version once. With no target it applies every
built version up, or undoes the newest one down, if any. Over a broken chain every plan fails with
the chain check's error. -/
theorem planMigrationFiles_cuts_chain (h : Host) (s : Settings) {text : String} {m : Manifest}
    {D : Location} (held : readAt h.tree h.cwd s.manifest.bytes = .ok text.toUTF8.toList)
    (parsed : Manifest.parse text = .ok m)
    (dirAt : stat h.tree h.cwd s.migrationDir.bytes = .ok (D, .dir)) :
    let built := (chainOf h.tree h.cwd s.migrationDir D).up
    let plan := fun direction target => (Host.run (planMigrationFiles s direction target) h).1
    let scripts := fun (versions : List String) direction =>
      versions.map fun v => artifactPath s.migrationDir v direction
    ((∃ p, (chainOf h.tree h.cwd s.migrationDir D).selectTargets m none = .ok p) →
      built.Pairwise (· < ·) ∧
      (∀ t, plan .up (some t) = .ok (scripts (built.filter (· ≤ t)) .up)) ∧
      (∀ t, plan .down (some t) = .ok (scripts (built.filter (t < ·)).reverse .down)) ∧
      (∀ t, built.filter (· ≤ t) ++ built.filter (t < ·) = built) ∧
      plan .up none = .ok (scripts built .up) ∧
      plan .down none = .ok (scripts built.max?.toList .down)) ∧
    (∀ e, (chainOf h.tree h.cwd s.migrationDir D).selectTargets m none = .error e →
      ∀ direction target, plan direction target = .error e) := by
  intro built plan scripts
  have ran := fun direction target => planMigrationFiles_run h s direction target held parsed dirAt
  -- the scan gives its up scripts sorted and without repeats
  have sorted : built.Pairwise (· < ·) := pairwise_sortedSet _
  refine ⟨fun ⟨p, sound⟩ => ?_, fun e broken direction target => by
    simp [plan, ran, broken, Except.map]⟩
  have planned : ∀ direction target,
      plan direction target = .ok (scripts (planVersions built direction target) direction) :=
    fun direction target => by simp [plan, ran, sound, Except.map, scripts, built]
  refine ⟨sorted, fun t => ?_, fun t => ?_, filter_le_append_filter_gt sorted, ?_, ?_⟩
  · rw [planned, planVersions]
  · rw [planned, planVersions, List.filter_reverse]
  · rw [planned, planVersions]
  · rw [planned, planVersions, take_one_reverse_eq_max? sorted]

/-- The sample project with two versions, both built. -/
def bothBuilt : Host :=
  sampleProject (createDropVersion "0001" "s" "schema" ++ createDropVersion "0002" "t" "table")
    [(scriptName "0001" .up, .file [1]), (scriptName "0001" .down, .file [2]),
      (scriptName "0002" .up, .file [3]), (scriptName "0002" .down, .file [4])]

/-- Cut at the first version, its plan up applies the first version and its plan down undoes the
second. -/
theorem bothBuilt_plans_cut_at_first :
    (Host.run (planMigrationFiles (Settings.new (.ofString "p")) .up (some "0001")) bothBuilt).1 =
        .ok [artifactPath (Settings.new (.ofString "p")).migrationDir "0001" .up] ∧
      (Host.run (planMigrationFiles (Settings.new (.ofString "p")) .down (some "0001")) bothBuilt).1 =
        .ok [artifactPath (Settings.new (.ofString "p")).migrationDir "0002" .down] := by
  -- the facts about the sample project, evaluated together
  obtain ⟨held, parsed, dirAt, scanned, selected⟩ :
      readAt bothBuilt.tree bothBuilt.cwd (Settings.new (.ofString "p")).manifest.bytes =
        .ok (createDropVersion "0001" "s" "schema" ++ createDropVersion "0002" "t" "table").toUTF8.toList ∧
      Manifest.parse (createDropVersion "0001" "s" "schema" ++ createDropVersion "0002" "t" "table") =
        .ok ⟨[("0001", createDropSpec "s" "schema"), ("0002", createDropSpec "t" "table")]⟩ ∧
      stat bothBuilt.tree bothBuilt.cwd (Settings.new (.ofString "p")).migrationDir.bytes =
        .ok (sampleMigrations, .dir) ∧
      (chainOf bothBuilt.tree bothBuilt.cwd (Settings.new (.ofString "p")).migrationDir
        sampleMigrations).up = ["0001", "0002"] ∧
      (chainOf bothBuilt.tree bothBuilt.cwd (Settings.new (.ofString "p")).migrationDir
        sampleMigrations).selectTargets
          ⟨[("0001", createDropSpec "s" "schema"), ("0002", createDropSpec "t" "table")]⟩ none =
        .ok [] := by
    decide +kernel
  obtain ⟨sound, -⟩ :=
    planMigrationFiles_cuts_chain bothBuilt (Settings.new (.ofString "p")) held parsed dirAt
  obtain ⟨-, up, down, -, -, -⟩ := sound ⟨[], selected⟩
  beta_reduce at up down
  refine ⟨?_, ?_⟩
  · rw [up "0001", scanned]
    decide +kernel
  · rw [down "0001", scanned]
    decide +kernel

end Migrator
