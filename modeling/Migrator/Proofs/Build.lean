import Mathlib
import Migrator.Proofs.Lock
import Migrator.Proofs.Artifact

/-! The build over the migration directory. -/
namespace Migrator

open Std.Do Files

set_option mvcgen.warning false

/-- The script of `version` in direction `d`, in the directory `dir` found at `D`, holds the
rendering of commands for `actions`, in order, with the footer; `summary` names it, counts the
commands and carries the digest of the file. -/
def ScriptHolds (t : Tree) (dir : Path) (D : Location) (tag : String) (p : Provenance)
    (version : String) (d : Direction) (actions : List ActionEntry) (summary : ArtifactSummary) :
    Prop :=
  ∃ commands : List Command, commands.map Command.key = actions.map ActionEntry.key ∧
    (∀ c ∈ commands, (Text.trim c.sql).isEmpty = false) ∧
    t.get? (D ++ [scriptName version d]) = some (.file (artifactText commands p tag).toUTF8.toList) ∧
    summary.path = artifactPath dir version d ∧ summary.commands = commands.length ∧
    summary.digest = hashBytes (artifactText commands p tag).toUTF8.toList

/-- Both scripts of a generated version hold what the manifest asks of the version. -/
def Generated (t : Tree) (s : Settings) (D : Location) (m : Manifest) (p : Provenance)
    (g : GeneratedVersion) : Prop :=
  ∃ spec, m.spec? g.version = some spec ∧
    ScriptHolds t s.migrationDir D s.markerTag p g.version .up spec.up g.up ∧
    ScriptHolds t s.migrationDir D s.markerTag p g.version .down spec.down g.down

theorem ScriptHolds.extends {t t' : Tree} (ext : t.Extends t') {dir : Path} {D : Location}
    {tag : String} {p : Provenance} {version : String} {d : Direction} {actions : List ActionEntry}
    {summary : ArtifactSummary} (holds : ScriptHolds t dir D tag p version d actions summary) :
    ScriptHolds t' dir D tag p version d actions summary := by
  obtain ⟨commands, keys, nonblank, file, rest⟩ := holds
  exact ⟨commands, keys, nonblank, ext.get?_eq file, rest⟩

theorem Generated.extends {t t' : Tree} (ext : t.Extends t') {s : Settings} {D : Location}
    {m : Manifest} {p : Provenance} {g : GeneratedVersion} (generated : Generated t s D m p g) :
    Generated t' s D m p g := by
  obtain ⟨spec, found, up, down⟩ := generated
  exact ⟨spec, found, up.extends ext, down.extends ext⟩

section Version

variable {dir : Path} {version : String}

/-- Writing a script fills its empty place in the directory with the rendered commands and the
footer, and records the digest of what it wrote; where the place is taken it changes nothing. -/
theorem writeScript_spec (named : ScriptVersion version) (d : Direction) (commands : List Command)
    (p : Provenance) (tag : String) (D : Location) (w : Tree × Location × List Location) :
    ⦃fun h => ⌜h.world = w ∧ stat w.1 w.2.1 dir.bytes = .ok (D, .dir)⌝⦄
    writeScript (artifactPath dir version d) commands p tag
    ⦃post⟨fun summary h => ⌜w.1.get? (D ++ [scriptName version d]) = none ∧
        h.world = (w.1.set (D ++ [scriptName version d])
          (.file (artifactText commands p tag).toUTF8.toList), w.2) ∧
        summary.path = artifactPath dir version d ∧ summary.commands = commands.length ∧
        summary.digest = hashBytes (artifactText commands p tag).toUTF8.toList⌝,
      fun _ h => ⌜h.world = w⌝⟩⦄ := by
  intro h ⟨world, dirAt⟩
  refine (?_ : ⦃fun h => ⌜h.world = w⌝⦄ writeScript (artifactPath dir version d) commands p tag
    ⦃_⦄) h world
  have plain := slash_not_mem_scriptName named d
  have single := ofPart_scriptName version d
  mvcgen [writeScript, writeArtifact, Host.createNew, Host.change, Host.onPath, hashFile,
    Host.readBytes, Host.tryRead]
  all_goals simp_all [Host.world_eq_iff, artifactPath_eq_join,
    createNewAt_join_eq_ok dirAt plain single, readAt_join_set dirAt plain single]

/-- Building a version writes both of its scripts, the up script first, into empty places of
the directory; when it fails, the tree is as it was, the up script removed again if the down
script could not be written. -/
theorem buildVersion_spec (s : Settings) (m : Manifest) (index : ObjectIndex) (p : Provenance)
    (D : Location) (w : Tree × Location × List Location) :
    ⦃fun h => ⌜h.world = w ∧ stat w.1 w.2.1 s.migrationDir.bytes = .ok (D, .dir) ∧
      ScriptVersion version⌝⦄
    buildVersion s m index version p
    ⦃post⟨fun g h => ⌜g.version = version ∧ w.1.Adds h.tree ((scriptNames version).map (D ++ [·])) ∧
        h.cwd = w.2.1 ∧ h.locks = w.2.2 ∧ stat h.tree w.2.1 s.migrationDir.bytes = .ok (D, .dir) ∧
        Generated h.tree s D m p g⌝,
      fun _ h => ⌜h.world = w⌝⟩⦄ := by
  intro h ⟨world, dirAt, named⟩
  refine (?_ : ⦃fun h => ⌜h.world = w⌝⦄ buildVersion s m index version p ⦃_⦄) h world
  have writes := @writeScript_spec s.migrationDir version named
  have plain := slash_not_mem_scriptName named .up
  have single := ofPart_scriptName version .up
  mvcgen [buildVersion, discardLoneUp, Host.pathExists, writes]
  case inv1 => exact post⟨fun _ h => ⌜h.world = w⌝, fun _ h => ⌜h.world = w⌝⟩
  all_goals simp_all +zetaDelta [Host.world_eq_iff, stat_set_of_found dirAt, artifactPath_eq_join,
    unlinkAt_join_set dirAt plain single, EStateM.Backtrackable.restore, EStateM.dummyRestore]
  -- both scripts written: the up script filled an empty place, then the down script another
  rename_i found _ _ upCompiled downCompiled upWritten downWritten
  obtain ⟨upEmpty, -, upSummary⟩ := upWritten
  obtain ⟨downEmpty, -, downSummary⟩ := downWritten
  refine ⟨(Tree.adds_set upEmpty _).trans (Tree.adds_set downEmpty _),
    stat_set_of_found (stat_set_of_found dirAt upEmpty _) downEmpty _, _, found.2,
    ⟨_, upCompiled.2.1, ?_, (Tree.extends_set downEmpty _).get?_eq (Tree.get?_set_self (by simp)),
      upSummary⟩,
    ⟨_, downCompiled.2.1, ?_, Tree.get?_set_self (by simp), downSummary⟩⟩
  · simpa using upCompiled.2.2
  · simpa using downCompiled.2.2

/-- Building the targets in order writes both scripts of each, into empty places; when a version
fails, the scripts of the versions before it stay and nothing else is written. -/
theorem buildVersions_spec (s : Settings) (p : Provenance) (D : Location) (m : Manifest)
    (index : ObjectIndex) (targets : List String) (w : Tree × Location × List Location) :
    ⦃fun h => ⌜h.world = w ∧ stat w.1 w.2.1 s.migrationDir.bytes = .ok (D, .dir) ∧
      ∀ v ∈ targets, ScriptVersion v⌝⦄
    buildVersions s m index targets p
    ⦃post⟨fun r h => ⌜r.generated.map GeneratedVersion.version = targets ∧
        w.1.Adds h.tree ((targets.flatMap scriptNames).map (D ++ [·])) ∧ h.cwd = w.2.1 ∧
        h.locks = w.2.2 ∧ ∀ g ∈ r.generated, Generated h.tree s D m p g⌝,
      fun _ h => ⌜∃ done v, done ++ [v] <+: targets ∧
        w.1.Adds h.tree ((done.flatMap scriptNames).map (D ++ [·])) ∧ h.cwd = w.2.1 ∧
        h.locks = w.2.2⌝⟩⦄ := by
  intro h ⟨world, dirAt, named⟩
  refine (?_ : ⦃fun h => ⌜h.world = w⌝⦄ buildVersions s m index targets p ⦃_⦄) h world
  mvcgen [buildVersions, buildVersion_spec]
  case inv1 =>
    exact post⟨fun ⟨⟨done, _, _⟩, acc⟩ h => ⌜acc.toList.map GeneratedVersion.version = done ∧
        w.1.Adds h.tree ((done.flatMap scriptNames).map (D ++ [·])) ∧ h.cwd = w.2.1 ∧
        h.locks = w.2.2 ∧ stat h.tree w.2.1 s.migrationDir.bytes = .ok (D, .dir) ∧
        ∀ g ∈ acc.toList, Generated h.tree s D m p g⌝,
      fun _ h => ⌜∃ done v, done ++ [v] <+: targets ∧
        w.1.Adds h.tree ((done.flatMap scriptNames).map (D ++ [·])) ∧ h.cwd = w.2.1 ∧
        h.locks = w.2.2⌝⟩
  all_goals simp_all +zetaDelta [Host.world_eq_iff, Tree.Adds.nil]
  · -- the next version built: its scripts follow those of the versions before it
    rename_i built next
    obtain ⟨-, adds, -, -, -, generated⟩ := built
    obtain ⟨-, adds', -, -, -, generated'⟩ := next
    refine ⟨adds.trans adds', ?_⟩
    rintro g (old | rfl)
    · exact (generated g old).extends adds'.extends
    · exact generated'
  · -- the next version failed: the versions before it stay
    rename_i built
    exact fun _ _ _ _ => ⟨_, ⟨_, _, (List.append_cons _ _ _).symm⟩, built.2.1⟩

/-- Inside the lock, a build reads the manifest and the chain the directory holds, and builds
the versions the chain check selects; when it fails, nothing is written, or the checks passed and
the scripts of the targets before the one it failed on stay. -/
theorem buildLocked_spec (s : Settings) (target : Option String) (p : Provenance) (engine : Engine)
    {text : String} {m : Manifest} (parsed : Manifest.parse text = .ok m)
    (named : ∀ v ∈ m.versions, ScriptVersion v) (D : Location)
    (w : Tree × Location × List Location) :
    ⦃fun h => ⌜h.world = w ∧ stat w.1 w.2.1 s.migrationDir.bytes = .ok (D, .dir) ∧
      readAt w.1 w.2.1 s.manifest.bytes = .ok text.toUTF8.toList⌝⦄
    buildLocked s target p engine
    ⦃post⟨fun r h => ⌜∃ ts, (chainOf w.1 w.2.1 s.migrationDir D).selectTargets m target = .ok ts ∧
        r.generated.map GeneratedVersion.version = ts ∧
        w.1.Adds h.tree ((ts.flatMap scriptNames).map (D ++ [·])) ∧ h.cwd = w.2.1 ∧
        h.locks = w.2.2 ∧ ∀ g ∈ r.generated, Generated h.tree s D m p g⌝,
      fun _ h => ⌜∃ done, (done = [] ∨ ∃ ts v,
          (chainOf w.1 w.2.1 s.migrationDir D).selectTargets m target = .ok ts ∧
          (∀ u ∈ ts, ∃ spec, m.spec? u = some spec ∧ requireComplete u spec = .ok ()) ∧
          done ++ [v] <+: ts) ∧
        w.1.Adds h.tree ((done.flatMap scriptNames).map (D ++ [·])) ∧ h.cwd = w.2.1 ∧
        h.locks = w.2.2⌝⟩⦄ := by
  intro h ⟨world, dirAt, held⟩
  refine (?_ : ⦃fun h => ⌜h.world = w⌝⦄ buildLocked s target p engine ⦃_⦄) h world
  have loads := loadManifest_spec w s.manifest held parsed
  have scans := scanArtifacts_spec s.migrationDir w D dirAt
  have builds := buildVersions_spec s p D
  mvcgen [buildLocked, loads, scans, builds, Host.ofExcept]
  -- the targets checked so far (`r.1.1`) are complete
  case inv1 =>
    exact post⟨fun r h => ⌜h.world = w ∧
        ∀ u ∈ r.1.1, ∃ spec, m.spec? u = some spec ∧ requireComplete u spec = .ok ()⌝,
      fun _ h => ⌜h.world = w⌝⟩
  all_goals simp_all [Host.world_eq_iff, Tree.Adds.nil, ExceptConds.entails]
  · -- one more target passes the check
    rename_i checked found complete
    rintro u (old | rfl)
    · exact checked.2 u old
    · exact ⟨_, found.2, complete⟩
  · -- the targets are versions of the manifest, each naming its scripts
    rename_i selected _ _ _ _
    exact fun v member => named v (ChainState.mem_versions_of_selectTargets selected member)

end Version

/-- `t'` is `t` with, in the directory found at `D`, at most the lock file and then both scripts
of each of `versions`, in order, added at empty places. -/
def Built (t t' : Tree) (D : Location) (versions : List String) : Prop :=
  ∃ lock : List Name, lock.Sublist [lockName] ∧
    t.Adds t' ((lock ++ versions.flatMap scriptNames).map (D ++ [·]))

theorem Built.refl (t : Tree) (D : Location) : Built t t D [] :=
  ⟨[], List.nil_sublist _, by simpa using Tree.Adds.nil t⟩

theorem LockAdded.built {t t₁ t' : Tree} {D : Location} {versions : List String}
    (locked : LockAdded t t₁ D) (adds : t₁.Adds t' ((versions.flatMap scriptNames).map (D ++ [·]))) :
    Built t t' D versions := by
  obtain ⟨lock, sub, first⟩ := locked
  exact ⟨lock, sub, by simpa using first.trans adds⟩

/-- A whole build, from a world where the migration directory exists and has no dangling entry
and the manifest file holds a manifest. On success it has built exactly the versions the chain
check selects, in order, each script holding its commands; on failure the scripts of the targets
before the one it failed on stay, and where there are any, the engine was made and every check
passed. Either way at most the lock file is added besides, and the locks are as before. -/
theorem buildWithProvenance_spec (s : Settings) (target : Option String) (p : Provenance)
    {text : String} {m : Manifest} (parsed : Manifest.parse text = .ok m)
    (named : ∀ v ∈ m.versions, ScriptVersion v) (D : Location)
    (w : Tree × Location × List Location)
    (dirAt : stat w.1 w.2.1 s.migrationDir.bytes = .ok (D, .dir))
    (linked : NoDangling w.1 w.2.1 s.migrationDir D)
    (held : readAt w.1 w.2.1 s.manifest.bytes = .ok text.toUTF8.toList) :
    ⦃fun h => ⌜h.world = w⌝⦄
    buildWithProvenance s target p
    ⦃post⟨fun r h => ⌜∃ ts, (chainOf w.1 w.2.1 s.migrationDir D).selectTargets m target = .ok ts ∧
        r.generated.map GeneratedVersion.version = ts ∧ Built w.1 h.tree D ts ∧ h.cwd = w.2.1 ∧
        h.locks = w.2.2 ∧ ∀ g ∈ r.generated, Generated h.tree s D m p g⌝,
      fun _ h => ⌜∃ done, (done = [] ∨ (∃ engine, s.dialect.engine = .ok engine) ∧ ∃ ts v,
          (chainOf w.1 w.2.1 s.migrationDir D).selectTargets m target = .ok ts ∧
          (∀ u ∈ ts, ∃ spec, m.spec? u = some spec ∧ requireComplete u spec = .ok ()) ∧
          done ++ [v] <+: ts) ∧
        Built w.1 h.tree D done ∧ h.cwd = w.2.1 ∧ h.locks = w.2.2⌝⟩⦄ := by
  have locks := acquireLock_spec s.migrationDir D
  have locked := fun engine => buildLocked_spec s target p engine parsed named D
  have made := createDirAllAt_of_dir dirAt
  mvcgen [buildWithProvenance, Host.ofExcept, Host.createDirAll, Host.change, Host.onPath,
    Host.withLock, Host.releaseLock, locks, locked]
  all_goals simp_all +zetaDelta [Host.world_eq_iff, Built.refl, EStateM.Backtrackable.restore,
    EStateM.dummyRestore]
  · -- the directory and the manifest file are still there once the lock file is open
    rename_i acquired
    have ext := acquired.1.extends
    exact ⟨stat_eq_of_extends ext dirAt, readAt_eq_of_extends ext held⟩
  · -- built: the lock file left the chain as it was
    rename_i acquired built
    obtain ⟨selected, adds, -, -, -⟩ := built
    exact ⟨by rwa [chainOf_lockAdded dirAt linked acquired.1] at selected, acquired.1.built adds⟩
  · -- failed inside the lock: the versions built before the failure stay
    rename_i acquired failed
    rcases failed with ⟨adds, cwdEq, locksEq⟩ |
      ⟨done, ⟨ts, selected, complete, first⟩, adds, cwdEq, locksEq⟩
    · exact .inl ⟨acquired.1.built (by simpa using adds), cwdEq, by simp [locksEq]⟩
    · -- the dialect's engine was made before the lock was taken
      refine .inr ⟨done, ⟨⟨‹Engine›⟩, ts, ?_, complete, first⟩, acquired.1.built adds, cwdEq,
        by simp [locksEq]⟩
      rwa [chainOf_lockAdded dirAt linked acquired.1] at selected
  · -- the lock was held already
    intro locked _ _
    exact .inl (locked.built (Tree.Adds.nil _))

end Migrator
