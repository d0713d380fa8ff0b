import Mathlib
import Migrator.Proofs.Log
import Migrator.Proofs.Resolve

/-! The stages of a whole build. From a ready world a build makes the dialect's engine, opens the
lock file and takes its lock, and then, holding the lock, generates (`Generates`): the chain check
selects the targets, each of them complete, the sources are indexed when there are targets, and the
targets are built. A build succeeds exactly when its stages can be taken (`Stages`), and ends on
the tree they leave (`buildWithProvenance_ok_iff`). Nothing in them reads the log, so they are
fixed by the world the build starts from (`Stages.unique`). -/
namespace Migrator

open Std.Do Files

set_option mvcgen.warning false

/-- The manifest has both action lists of `v`. -/
def Complete (m : Manifest) (v : String) : Prop :=
  ∃ spec, m.spec? v = some spec ∧ requireComplete v spec = .ok ()

theorem not_complete_of_missing {m : Manifest} {v : String} (missing : m.spec? v = none) :
    ¬Complete m v := by
  rintro ⟨spec, found, -⟩
  simp [missing] at found

theorem not_complete_of_error {m : Manifest} {v : String} {spec : BuildSpec} {e : Error}
    (found : m.spec? v = some spec) (failed : requireComplete v spec = .error e) : ¬Complete m v := by
  rintro ⟨spec', found', complete⟩
  rw [found, Option.some.injEq] at found'
  rw [← found', failed] at complete
  contradiction

/-- Looking up a version in the manifest reads nothing and finds its spec, or fails where there
is none. -/
theorem specOf_finds_spec (m : Manifest) (v : String) (w : Tree × Location × List Location)
    (rd : ReadSplit) :
    ⦃fun h => ⌜h.world = w ∧ h.reads = rd⌝⦄ specOf m v
    ⦃post⟨fun spec h => ⌜h.world = w ∧ h.reads = rd ∧ m.spec? v = some spec⌝,
      fun _ h => ⌜h.world = w ∧ h.reads = rd ∧ m.spec? v = none⌝⟩⦄ := by
  mvcgen [-specOf_spec, specOf]
  all_goals simp_all

/-- The inside of a build from the host `g`, which holds the lock: the chain check on the chain
of `g`'s migration directory selects `ts`, each of them complete, the sources index as `index`
when there are targets, and generating the targets returns `r` and leaves `H`. -/
def Generates (s : Settings) (target : Option String) (p : Provenance) (m : Manifest)
    (D : Location) (engine : Engine) (g : Host) (r : BuildResult) (H : Host) : Prop :=
  ∃ ts index, (chainOf g.tree g.cwd s.migrationDir D).selectTargets m target = .ok ts ∧
    (∀ v ∈ ts, Complete m v) ∧
    (ts ≠ [] → (Host.run (indexSources s.sqlSrc engine) g).1 = .ok index) ∧
    Host.run (buildVersions s m index ts p) g = (.ok r, H)

theorem chainOf_of_world {g : Host} {w : Tree × Location × List Location} (world : g.world = w)
    (dir : Path) (D : Location) : chainOf g.tree g.cwd dir D = chainOf w.1 w.2.1 dir D := by
  obtain ⟨tree, cwd, -⟩ := Host.world_eq_iff.mp world
  rw [tree, cwd]

/-- Generating from a host whose chain check selects `ts`: the targets are `ts`. -/
theorem Generates.of_selected {s : Settings} {target : Option String} {p : Provenance}
    {m : Manifest} {D : Location} {engine : Engine} {g : Host} {r : BuildResult} {H : Host}
    {w : Tree × Location × List Location} {ts : List String}
    (generates : Generates s target p m D engine g r H) (world : g.world = w)
    (selected : (chainOf w.1 w.2.1 s.migrationDir D).selectTargets m target = .ok ts) :
    ∃ index, (∀ v ∈ ts, Complete m v) ∧
      (ts ≠ [] → (Host.run (indexSources s.sqlSrc engine) g).1 = .ok index) ∧
      Host.run (buildVersions s m index ts p) g = (.ok r, H) := by
  obtain ⟨ts', index, selected', rest⟩ := generates
  rw [chainOf_of_world world, selected] at selected'
  obtain rfl := Except.ok.inj selected'
  exact ⟨index, rest⟩

theorem buildLocked_generates (s : Settings) (target : Option String) (p : Provenance)
    (engine : Engine) {text : String} {m : Manifest} (parsed : Manifest.parse text = .ok m)
    (D : Location) (w : Tree × Location × List Location) (rd : ReadSplit) :
    ⦃fun h => ⌜h.world = w ∧ h.reads = rd ∧ stat w.1 w.2.1 s.migrationDir.bytes = .ok (D, .dir) ∧
      readAt w.1 w.2.1 s.manifest.bytes = .ok text.toUTF8.toList⌝⦄ buildLocked s target p engine
    ⦃post⟨fun r h => ⌜∀ g : Host, g.world = w → g.reads = rd →
        ∃ H, Generates s target p m D engine g r H ∧ H.world = h.world⌝,
      fun _ _ => ⌜∀ g : Host, g.world = w → g.reads = rd →
        ∀ r H, ¬Generates s target p m D engine g r H⌝⟩⦄ := by
  intro h ⟨world, reads, dirAt, held⟩
  refine (?_ : ⦃fun h => ⌜h.world = w ∧ h.reads = rd⌝⦄ buildLocked s target p engine ⦃_⦄) h
    ⟨world, reads⟩
  have loads := Host.triple_and (loadManifest_spec w s.manifest held parsed)
    ((loadManifest_logBlind s.manifest).keepsReads rd)
  have scans := Host.triple_and (scanArtifacts_spec s.migrationDir w D dirAt)
    ((scanArtifacts_logBlind s.migrationDir).keepsReads rd)
  have emits := fun e => Host.triple_and (Host.emit_spec w e) ((Host.emit_logBlind e).keepsReads rd)
  have specs := fun m' v => specOf_finds_spec m' v w rd
  have indexes := Host.triple_and (indexSources_spec w s.sqlSrc engine)
    ((indexSources_logBlind s.sqlSrc engine).spec w rd)
  have builds := fun m' index ts => (buildVersions_logBlind s m' index ts p).spec w rd
  mvcgen [-Host.emit_spec, -specOf_spec, -indexSources_spec, buildLocked, loads, scans, emits,
    specs, indexes, builds, Host.ofExcept]
  -- the targets checked so far (`r.1.1`) are complete; a failure finds one that is not
  case inv1 =>
    rename_i ts _ _ _ _ _
    exact post⟨fun r h => ⌜h.world = w ∧ h.reads = rd ∧ ∀ u ∈ r.1.1, Complete m u⌝,
      fun _ h => ⌜h.world = w ∧ h.reads = rd ∧ ∃ u ∈ ts, ¬Complete m u⌝⟩
  all_goals clear loads scans emits specs indexes builds
  case vc5.post.success.post.success.post.success.h_1.isTrue.post.success =>
    -- nothing to build: generating no targets leaves the host
    rename_i selected empty _ _ now
    simp only [List.isEmpty_iff] at empty
    subst empty
    obtain ⟨⟨-, rfl⟩, -⟩ := ‹(_ ∧ _ = m) ∧ _›
    obtain ⟨⟨-, rfl⟩, -⟩ := ‹(_ ∧ _ = chainOf w.1 w.2.1 s.migrationDir D) ∧ _›
    intro g world reads
    refine ⟨g, ⟨[], {}, by rw [chainOf_of_world world]; exact selected, by simp, by simp, rfl⟩,
      world.trans now.1.symm⟩
  all_goals simp_all [ExceptConds.entails]
  · -- one more target is complete
    rintro u (before | rfl)
    · exact ‹_ ∧ _ ∧ ∀ u ∈ _, Complete m u›.2.2 u before
    · exact ⟨_, ‹_ ∧ _ ∧ m.spec? _ = some _›.2.2, ‹requireComplete _ _ = .ok _›⟩
  · -- a target is not complete
    exact ⟨_, .inr (.inl rfl),
      not_complete_of_error ‹_ ∧ _ ∧ m.spec? _ = some _›.2.2 ‹requireComplete _ _ = .error _›⟩
  · -- a target is not in the manifest
    intro _ _ _ missing
    exact ⟨_, .inr (.inl rfl), not_complete_of_missing missing⟩
  · -- generating succeeded
    intro _ built g world reads
    have indexed := ‹_ ∧ _ ∧ ∀ g : Host, g.world = w → g.reads = rd →
      (Host.run (indexSources s.sqlSrc engine) g).1 = _ ∧ _›.2.2 g world reads
    obtain ⟨builtHere, here⟩ := built g world reads
    refine ⟨(Host.run (buildVersions s m _ _ p) g).2, ⟨_, _, ?_, ‹_ ∧ _ ∧ ∀ u ∈ _, Complete m u›.2.2,
      fun _ => indexed.1, Prod.ext builtHere rfl⟩, here⟩
    rw [chainOf_of_world world]
    assumption
  · -- generating failed, where it succeeds from any host with the same world
    intro _ failed g world reads r H generates
    obtain ⟨index, -, indexedHere, builtHere⟩ :=
      generates.of_selected world ‹ChainState.selectTargets _ _ _ = .ok _›
    have indexedThere := (‹_ ∧ _ ∧ ∀ g : Host, g.world = w → g.reads = rd →
      (Host.run (indexSources s.sqlSrc engine) g).1 = _ ∧ _›).2.2 g world reads
    obtain rfl := Except.ok.inj ((indexedHere ‹¬_ = []›).symm.trans indexedThere.1)
    have ran := failed g world reads
    rw [builtHere] at ran
    contradiction
  · -- indexing failed
    intro _ _ failed g world reads r H generates
    obtain ⟨index, -, indexedHere, -⟩ :=
      generates.of_selected world ‹ChainState.selectTargets _ _ _ = .ok _›
    have ran := failed g world reads
    rw [indexedHere ‹¬_ = []›] at ran
    contradiction
  · -- a target is not complete
    intro _ _ _ _ u member incomplete g world reads r H generates
    obtain ⟨-, complete, -⟩ := generates.of_selected world ‹ChainState.selectTargets _ _ _ = .ok _›
    exact incomplete (complete u member)
  · -- the chain check failed
    rintro g world reads r H ⟨ts, index, selected, -⟩
    rw [chainOf_of_world world, ‹ChainState.selectTargets _ _ _ = .error _›] at selected
    contradiction

/-- `h` holding the lock at `loc`, its tree `t`. -/
def Host.locked (h : Host) (t : Tree) (loc : Location) : Host :=
  { h with tree := t, locks := loc :: h.locks }

/-- A whole build from `h`: the dialect gives `engine`, the lock file opens at `loc`, leaving the
tree `t₁`, its lock not held yet, and generating from the host holding it returns `r` and leaves
`H`. -/
def Stages (s : Settings) (target : Option String) (p : Provenance) (m : Manifest)
    (D : Location) (h : Host) (r : BuildResult) (H : Host) : Prop :=
  ∃ engine t₁ loc, s.dialect.engine = .ok engine ∧
    openCreateAt h.tree h.cwd (s.migrationDir.join ⟨lockName⟩).bytes = .ok (t₁, loc) ∧
    loc ∉ h.locks ∧ Generates s target p m D engine (h.locked t₁ loc) r H

section Stages

variable {s : Settings} {target : Option String} {p : Provenance} {m : Manifest} {D : Location}
  {h : Host} {r : BuildResult} {H : Host}

/-- The stages of a build are fixed by the dialect and the lock file. -/
theorem Stages.of_opened {engine : Engine} {a : Tree × Location}
    (stages : Stages s target p m D h r H) (made : s.dialect.engine = .ok engine)
    (opened : openCreateAt h.tree h.cwd (s.migrationDir.join ⟨lockName⟩).bytes = .ok a) :
    a.2 ∉ h.locks ∧ Generates s target p m D engine (h.locked a.1 a.2) r H := by
  obtain ⟨engine', t₁, loc, made', opened', free, generates⟩ := stages
  rw [made, Except.ok.injEq] at made'
  rw [opened, Except.ok.injEq] at opened'
  subst made' opened'
  exact ⟨free, generates⟩

/-- Generating no targets leaves the host as it was. -/
theorem buildVersions_nil (s : Settings) (m : Manifest) (index : ObjectIndex) (p : Provenance)
    (g : Host) : Host.run (buildVersions s m index [] p) g = (.ok {}, g) :=
  rfl

/-- Generating from one host is determined by it. -/
theorem Generates.unique {engine : Engine} {g : Host} {r' : BuildResult} {H' : Host}
    (first : Generates s target p m D engine g r H)
    (second : Generates s target p m D engine g r' H') : r = r' ∧ H = H' := by
  obtain ⟨ts, index, selected, -, indexed, ran⟩ := first
  obtain ⟨ts', index', selected', -, indexed', ran'⟩ := second
  rw [selected, Except.ok.injEq] at selected'
  subst selected'
  by_cases empty : ts = []
  · -- no targets: neither run reads its index
    subst empty
    rw [buildVersions_nil, Prod.mk.injEq, Except.ok.injEq] at ran ran'
    obtain ⟨rfl, rfl⟩ := ran
    obtain ⟨rfl, rfl⟩ := ran'
    exact ⟨rfl, rfl⟩
  · have same := (indexed empty).symm.trans (indexed' empty)
    rw [Except.ok.injEq] at same
    subst same
    rw [ran, Prod.mk.injEq, Except.ok.injEq] at ran'
    exact ran'

theorem Stages.unique {r' : BuildResult} {H' : Host} (first : Stages s target p m D h r H)
    (second : Stages s target p m D h r' H') : r = r' ∧ H = H' := by
  obtain ⟨engine, t₁, loc, made, opened, -, generates⟩ := first
  exact generates.unique (second.of_opened made opened).2

end Stages

/-- A whole build from a ready world: it takes its stages where it can, and fails where they
cannot be taken; on success it leaves the tree they leave. -/
theorem buildWithProvenance_stages (s : Settings) (target : Option String) (p : Provenance)
    {text : String} {m : Manifest} (parsed : Manifest.parse text = .ok m) (D : Location) (h : Host)
    (ready : BuildReady s text D h) :
    ⦃fun g => ⌜g = h⌝⦄ buildWithProvenance s target p
    ⦃post⟨fun r g => ⌜∃ H, Stages s target p m D h r H ∧ g.tree = H.tree⌝,
      fun _ _ => ⌜∀ r H, ¬Stages s target p m D h r H⌝⟩⦄ := by
  have locked := fun engine w => buildLocked_generates s target p engine parsed D w h.reads
  have dirMade := createDirAllAt_of_dir ready.dirAt
  mvcgen [buildWithProvenance, Host.ofExcept, Host.createDirAll, Host.change, Host.onPath,
    Host.withLock, Host.releaseLock, Host.acquireLock, locked]
  all_goals simp_all +zetaDelta [Host.world_eq_iff]
  case vc1.h_1.h_1.h_1.isTrue =>
    -- the lock is held already
    rename_i made grown opened held
    subst grown
    exact fun r H stages => (stages.of_opened made opened).1 held
  case vc2.h_1.h_1.h_1.isFalse.pre =>
    rename_i grown opened _
    subst grown
    have ext := (openCreateAt_lock ready.dirAt ready.linked opened).extends
    exact ⟨stat_eq_of_extends ext ready.dirAt, readAt_eq_of_extends ext ready.held⟩
  case vc3.h_1.h_1.h_1.isFalse.post.success =>
    rename_i made grown opened free generates
    subst grown
    obtain ⟨H, generated, tree, -⟩ := generates (h.locked _ _) rfl rfl rfl rfl
    exact ⟨H, ⟨_, _, _, made, opened, free, generated⟩, tree.symm⟩
  case vc4.h_1.h_1.h_1.isFalse.post.except.handle =>
    rename_i made grown opened _ failed
    subst grown
    exact fun r H stages => failed (h.locked _ _) rfl rfl rfl rfl r H (stages.of_opened made opened).2
  case vc5.h_1.h_1.h_2 =>
    -- the lock file does not open
    rename_i grown failed
    subst grown
    rintro r H ⟨_, _, _, _, opened, -⟩
    rw [lock_eq_join, opened] at failed
    cases failed
  case vc7.h_2 =>
    -- the dialect has no engine
    rename_i failed
    rintro r H ⟨_, _, _, made, -⟩
    rw [made] at failed
    cases failed

/-- A build from a ready world succeeds with `r`, ending on the tree `t`, exactly when its stages
can be taken with the result `r` and leave `t`. -/
theorem buildWithProvenance_ok_iff (s : Settings) (target : Option String) (p : Provenance)
    {text : String} {m : Manifest} (parsed : Manifest.parse text = .ok m) (D : Location)
    {h : Host} (ready : BuildReady s text D h) (r : BuildResult) (t : Tree) :
    (∃ h', Host.run (buildWithProvenance s target p) h = (.ok r, h') ∧ h'.tree = t) ↔
      ∃ H, Stages s target p m D h r H ∧ H.tree = t := by
  obtain ⟨succeeded, failed⟩ :=
    Host.run_of_triple (buildWithProvenance_stages s target p parsed D h ready) rfl
  constructor
  · rintro ⟨h', ran, rfl⟩
    obtain ⟨H, stages, tree⟩ := succeeded r h' ran
    exact ⟨H, stages, tree.symm⟩
  · rintro ⟨H, stages, rfl⟩
    rcases ran : Host.run (buildWithProvenance s target p) h with ⟨e | r', h'⟩
    · exact absurd stages (failed e h' ran r H)
    · obtain ⟨H', stages', tree⟩ := succeeded r' h' ran
      obtain ⟨rfl, rfl⟩ := stages'.unique stages
      exact ⟨h', rfl, tree⟩

end Migrator
