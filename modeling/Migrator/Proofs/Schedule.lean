import Mathlib
import Migrator.Proofs.Stages
import Migrator.Proofs.Walk
import Migrator.Proofs.Sources

/-! Builds one after another against one build. From a migration directory with no scripts, a
sequence of successful builds to the targets `t₁, …, tₖ` leaves the tree that one build to the
target reaching as far as all of them leaves (`joinTargets`: no target when one of them has none,
else the greatest), and a build repeated after them has nothing to do
(`builds_in_turn_as_one_build`). Each later build generates the versions between the chain it
finds and its target on the tree the one build has when it comes to them (`Reached`), with the
same index of the sources: the scripts written are never sources, as long as the walk of the
sources stays apart from the migration directory (`walkApart`). -/
namespace Migrator

open Std.Do Files

/-! ### Targets -/

/-- The target of one build that reaches as far as the builds to `a` and to `b`: no target when
either has none, else the greater. -/
def coverTarget : Option String → Option String → Option String
  | some a, some b => some (max a b)
  | _, _ => none

/-- The target of one build that reaches as far as the builds to `t` and then to each of `ts`:
no target when one of them has none, else the greatest. -/
def joinTargets (t : Option String) (ts : List (Option String)) : Option String :=
  ts.foldl coverTarget t

theorem coverTarget_reaches (a b : Option String) (v : String) :
    (coverTarget a b).all (fun t => decide (v ≤ t)) =
      (a.all (fun t => decide (v ≤ t)) || b.all (fun t => decide (v ≤ t))) := by
  cases a <;> cases b <;> simp [coverTarget]

/-- One build to the joined target reaches a version exactly when one of the builds does. -/
theorem joinTargets_reaches (t : Option String) (ts : List (Option String)) (v : String) :
    (joinTargets t ts).all (fun u => decide (v ≤ u)) =
      (t :: ts).any (fun u => u.all (fun w => decide (v ≤ w))) := by
  induction ts generalizing t with
  | nil => simp [joinTargets]
  | cons u us ih =>
    rw [joinTargets, List.foldl_cons, ← joinTargets, ih, List.any_cons, List.any_cons,
      List.any_cons, coverTarget_reaches, Bool.or_assoc]

/-- The joined target is one of the targets, or none. -/
theorem joinTargets_mem (t : Option String) (ts : List (Option String)) :
    joinTargets t ts = none ∨ joinTargets t ts ∈ t :: ts := by
  induction ts generalizing t with
  | nil => exact .inr (List.mem_singleton_self t)
  | cons u us ih =>
    rw [joinTargets, List.foldl_cons, ← joinTargets]
    rcases ih (coverTarget t u) with none | member
    · exact .inl none
    rcases List.mem_cons.mp member with cover | later
    · -- the cover of two targets is one of them, or none
      rw [cover]
      cases t with
      | none => exact .inl rfl
      | some a =>
        cases u with
        | none => exact .inl rfl
        | some b =>
          rcases max_choice a b with same | same <;> simp [coverTarget, same]
    · exact .inr (List.mem_cons_of_mem _ (List.mem_cons_of_mem _ later))

/-- In an ascending list, the elements of a set closed downwards come first, then those of
another set that are not in it: together the elements of either. -/
theorem filter_append_filter_of_lower {l : List String} (sorted : l.Pairwise (· < ·))
    {lower : String → Bool} (closed : ∀ a b, a < b → lower b → lower a) (q : String → Bool) :
    l.filter lower ++ l.filter (fun v => !lower v && q v) = l.filter (fun v => lower v || q v) := by
  induction l with
  | nil => rfl
  | cons a l ih =>
    obtain ⟨above, sorted⟩ := List.pairwise_cons.mp sorted
    by_cases low : lower a = true
    · simp only [List.filter_cons, low, if_true, Bool.not_true, Bool.false_and,
        Bool.false_eq_true, if_false, Bool.true_or, List.cons_append, ih sorted]
    · -- nothing after `a` is in the lower set either
      have none : ∀ b ∈ l, lower b = false := fun b member =>
        Bool.eq_false_iff.mpr fun held => low (closed a b (above b member) held)
      have empty : l.filter lower = [] := List.filter_eq_nil_iff.mpr fun b member => by
        simp [none b member]
      rw [List.filter_cons_of_neg low, empty, List.nil_append]
      refine List.filter_congr fun b member => ?_
      rcases List.mem_cons.mp member with rfl | later
      · simp [low]
      · simp [none b later]

/-- A set of versions closed downwards stays so with the versions a target reaches added. -/
theorem lower_or_reaches {lower : String → Bool} (closed : ∀ a b, a < b → lower b → lower a)
    (t : Option String) (a b : String) (below : a < b)
    (held : (lower b || t.all fun u => decide (b ≤ u)) = true) :
    (lower a || t.all fun u => decide (a ≤ u)) = true := by
  simp only [Bool.or_eq_true] at held ⊢
  rcases held with low | reaches
  · exact .inl (closed a b below low)
  · cases t with
    | none => exact .inr rfl
    | some u =>
      simp only [Option.all_some, decide_eq_true_eq] at reaches ⊢
      exact .inr (le_trans below.le reaches)

/-! ### Generating in parts -/

theorem buildVersions_eq_mapM (s : Settings) (m : Manifest) (index : ObjectIndex) (vs : List String)
    (p : Provenance) :
    buildVersions s m index vs p =
      (fun gs => ({ generated := gs } : BuildResult)) <$> vs.mapM (buildVersion s m index · p) := by
  have push : ∀ xs : Array String, xs.mapM (buildVersion s m index · p) =
      xs.foldlM (fun acc v => acc.push <$> buildVersion s m index v p) #[] := fun xs => by
    rw [Array.mapM_eq_foldlM_push]
    simp only [bind_pure_comp]
  unfold buildVersions
  simp only [bind_pure_comp, List.forIn_yield_eq_foldlM]
  rw [← List.foldlM_toArray, ← push, List.mapM_toArray]
  simp

theorem buildVersions_append {s : Settings} {m : Manifest} {index : ObjectIndex} {p : Provenance}
    {xs ys : List String} {g H H' : Host} {R R' : BuildResult}
    (first : Host.run (buildVersions s m index xs p) g = (.ok R, H))
    (second : Host.run (buildVersions s m index ys p) H = (.ok R', H')) :
    Host.run (buildVersions s m index (xs ++ ys) p) g =
      (.ok ⟨R.generated ++ R'.generated⟩, H') := by
  rw [buildVersions_eq_mapM, map_eq_pure_bind, Host.run_bind] at first second ⊢
  rw [List.mapM_append, Host.run_bind]
  rcases ran : Host.run (xs.mapM (buildVersion s m index · p)) g with ⟨_ | gs, G⟩
  all_goals simp only [ran, Host.run_pure] at first
  · cases first
  cases first
  rcases ran' : Host.run (ys.mapM (buildVersion s m index · p)) H with ⟨_ | gs', G'⟩
  all_goals simp only [ran', Host.run_pure] at second
  · cases second
  cases second
  simp only [Host.run_bind, ran', Host.run_pure]

/-! ### The sources and the lock file in a larger tree -/

theorem findSqlFiles_result (root : Path) (h : Host) :
    (Host.run (findSqlFiles root) h).1 =
      if !isDirAt h.tree h.cwd root.bytes then
        .error (.config ("SQL source directory not found: " ++ root.display))
      else if root.toText?.isNone then
        .error (.config ("SQL source path is not valid UTF-8: " ++ root.display))
      else .ok (sqlFiles h.tree h.cwd root) := by
  unfold findSqlFiles Host.isDir
  by_cases dir : isDirAt h.tree h.cwd root.bytes <;> by_cases text : root.toText?.isNone <;>
    simp [Host.run, sqlFiles, dir, text, bind, EStateM.bind, get, getThe, MonadStateOf.get,
      EStateM.get, pure, EStateM.pure, throw, throwThe, MonadExceptOf.throw, EStateM.throw,
      EStateM.run]

theorem isFileAt_of_mem_sqlFiles {t : Tree} {cwd : Location} {root f : Path}
    (member : f ∈ sqlFiles t cwd root) : isFileAt t cwd f.bytes := by
  unfold sqlFiles at member
  exact (List.mem_filter.mp (List.mem_mergeSort.mp member)).2

/-- Indexing reads the tree only through whether the root is a directory, the files the walk finds
there and their texts: from a host that agrees with another on these, it succeeds alike. -/
theorem indexSources_ok_congr {root : Path} {engine : Engine} {g g' : Host} {I : ObjectIndex}
    (dir : isDirAt g'.tree g'.cwd root.bytes = isDirAt g.tree g.cwd root.bytes)
    (files : sqlFiles g'.tree g'.cwd root = sqlFiles g.tree g.cwd root)
    (texts : ∀ f ∈ sqlFiles g.tree g.cwd root, g'.textOf f = g.textOf f)
    (ran : (Host.run (indexSources root engine) g').1 = .ok I) :
    (Host.run (indexSources root engine) g).1 = .ok I := by
  have listed : (Host.run (findSqlFiles root) g').1 = (Host.run (findSqlFiles root) g).1 := by
    rw [findSqlFiles_result, findSqlFiles_result, dir, files]
  -- indexing from `g'` got past listing the sources
  rcases found : Host.run (findSqlFiles root) g' with ⟨e | fs, g''⟩
  · unfold indexSources at ran
    rw [Host.run_bind, found] at ran
    cases ran
  have foundHere : (Host.run (findSqlFiles root) g).1 = .ok fs := by rw [← listed, found]
  have sources : fs = sqlFiles g.tree g.cwd root := by
    rw [findSqlFiles_result] at foundHere
    split_ifs at foundHere
    exact (Except.ok.inj foundHere).symm
  have there : Host.run (findSqlFiles root) g' = (.ok fs, g') := findSqlFiles_run (by rw [found])
  obtain ⟨succeeded', -⟩ := Host.run_of_triple (indexSources_trace g' there) rfl
  obtain ⟨succeeded, failed⟩ := Host.run_of_triple (indexSources_trace g (findSqlFiles_run foundHere)) rfl
  rcases ranThere : Host.run (indexSources root engine) g' with ⟨e | a', G'⟩
  all_goals rw [ranThere] at ran
  · cases ran
  cases ran
  obtain ⟨readable, rfl, -⟩ := succeeded' _ _ ranThere
  rcases ranHere : Host.run (indexSources root engine) g with ⟨e | a, G⟩
  · -- a failure names a source file that `g'` reads as text
    obtain ⟨pre, f, rest, split, -, unread, -⟩ := failed e G ranHere
    have member : f ∈ fs := by simp [split]
    have read := readable f member
    rw [texts f (sources ▸ member), unread] at read
    contradiction
  · obtain ⟨-, rfl, -⟩ := succeeded a G ranHere
    have inserts : headerInserts engine (fun f => (g.textOf f).getD "") fs =
        headerInserts engine (fun f => (g'.textOf f).getD "") fs :=
      List.filterMap_congr fun f member => by
        dsimp only
        rw [texts f (sources ▸ member)]
    rw [inserts]

section Adds

variable (g g' : Host) {D : Location} {names : List Name}
  (adds : g.tree.Adds g'.tree (names.map (D ++ [·]))) (cwd : g'.cwd = g.cwd)
include adds cwd

theorem textOf_adds {f : Path} (file : isFileAt g.tree g.cwd f.bytes) : g'.textOf f = g.textOf f := by
  obtain ⟨c, read⟩ : ∃ c, readAt g.tree g.cwd f.bytes = .ok c := by
    unfold isFileAt at file
    unfold readAt
    split at file
    · rename_i c held
      exact ⟨c, by rw [held]⟩
    · contradiction
  unfold Host.textOf
  rw [cwd, readAt_eq_of_extends adds.extends read, read]

/-- A walk of the sources that stays apart from `D` indexes alike in a tree with more files in
`D`. -/
theorem indexSources_adds_iff {root : Path} {engine : Engine} {I : ObjectIndex}
    (apart : walkApart g.tree g.cwd D root) :
    (Host.run (indexSources root engine) g').1 = .ok I ↔
      (Host.run (indexSources root engine) g).1 = .ok I := by
  have dir : isDirAt g'.tree g'.cwd root.bytes = isDirAt g.tree g.cwd root.bytes := by
    rw [cwd, isDirAt_eq_of_extends adds.extends]
  have files : sqlFiles g'.tree g'.cwd root = sqlFiles g.tree g.cwd root := by
    rw [cwd, sqlFiles_adds adds apart]
  have texts : ∀ f ∈ sqlFiles g.tree g.cwd root, g'.textOf f = g.textOf f :=
    fun f member => textOf_adds g g' adds cwd (isFileAt_of_mem_sqlFiles member)
  exact ⟨indexSources_ok_congr dir files texts,
    indexSources_ok_congr dir.symm files.symm fun f member => (texts f (files ▸ member)).symm⟩

end Adds

/-- A lookup to create a file that finds a file finds it again in a larger tree. -/
theorem lookupCreate_found_extends {t t' : Tree} (ext : t.Extends t') {cwd : Location}
    {bytes : List UInt8} {loc : Location} {c : List UInt8}
    (found : lookupCreate t cwd bytes true = .ok (.found loc (.file c))) :
    lookupCreate t' cwd bytes true = .ok (.found loc (.file c)) := by
  unfold lookupCreate at found ⊢
  split
  · -- a name before a final slash is never found
    rename_i slash
    rw [if_pos slash] at found
    split at found <;> contradiction
  · rename_i plain
    rw [if_neg plain] at found
    rw [(lookup_grows ext cwd bytes true).eq_of_found found, found]

/-- The lock file, once opened, opens again where it is in any larger tree, adding nothing. -/
theorem openCreateAt_reopen {t t' t'' : Tree} {cwd D loc : Location} {dir : Path}
    (dirAt : stat t cwd dir.bytes = .ok (D, .dir)) (linked : NoDangling t cwd dir D)
    (opened : openCreateAt t cwd (dir.join ⟨lockName⟩).bytes = .ok (t', loc))
    (ext : t'.Extends t'') :
    openCreateAt t'' cwd (dir.join ⟨lockName⟩).bytes = .ok (t'', loc) := by
  suffices held : ∃ c, lookupCreate t' cwd (dir.join ⟨lockName⟩).bytes true =
      .ok (.found loc (.file c)) by
    obtain ⟨c, held⟩ := held
    rw [openCreateAt, lookupCreate_found_extends ext held]
  have plain := plainNames_lock lockName (List.mem_singleton_self _)
  unfold openCreateAt at opened
  split at opened
  · rename_i loc' c found
    obtain ⟨rfl, rfl⟩ := Prod.mk.inj (Except.ok.inj opened)
    exact ⟨c, found⟩
  · contradiction
  · -- the lock file was made where the directory lacked it
    rename_i parent name absent
    obtain ⟨rfl, rfl⟩ := Prod.mk.inj (Except.ok.inj opened)
    have missing := lookupCreate_eq_ok absent
    rcases lookup_join_absent dirAt plain.1 plain.2 missing with ⟨rfl, rfl, empty⟩ | ⟨target, link⟩
    · obtain ⟨b, joined⟩ :=
        lookup_join (stat_eq_of_extends (Tree.extends_set empty []) dirAt) plain.1 plain.2 true
      refine ⟨[], ?_⟩
      rw [lookupCreate_of_getLast (lookup_absent_getLast missing), joined,
        resolve_name_of_file (Tree.get?_set_self (by simp))]
    · exact absurd missing (linked lockName (Tree.mem_children_of_get? link) parent name)
  · contradiction

/-! ### One build and builds in turn -/

/-- Where one build starts: the ready host `h₀`, with a manifest of script versions and no
scripts in the migration directory, whose walk of the sources stays apart from the directory;
the dialect makes `engine`, and the lock file opens at `loc`, leaving `t₁`, with its lock free. -/
structure Opening (s : Settings) (text : String) (m : Manifest) (D : Location) (h₀ : Host)
    (engine : Engine) (t₁ : Tree) (loc : Location) : Prop where
  parsed : Manifest.parse text = .ok m
  named : ∀ v ∈ m.versions, ScriptVersion v
  ready : BuildReady s text D h₀
  empty : chainOf h₀.tree h₀.cwd s.migrationDir D = {}
  apart : walkApart h₀.tree h₀.cwd D s.sqlSrc
  made : s.dialect.engine = .ok engine
  opened : openCreateAt h₀.tree h₀.cwd (s.migrationDir.join ⟨lockName⟩).bytes = .ok (t₁, loc)
  free : loc ∉ h₀.locks

/-- The host `g`, after builds from `h₀`, is where the one build stands once it has generated
`done`, leaving `H`: `g` holds the scripts of `done`, each of them complete, and its lock file
opens on `H`'s tree. -/
structure Reached (s : Settings) (p : Provenance) (m : Manifest) (D : Location) (h₀ : Host)
    (engine : Engine) (t₁ : Tree) (loc : Location) (g : Host) (done : List String) (H : Host) :
    Prop where
  cwd : g.cwd = h₀.cwd
  locks : g.locks = h₀.locks
  reads : g.reads = h₀.reads
  built : Built h₀.tree g.tree D done
  complete : ∀ v ∈ done, Complete m v
  generated : ∃ index R,
    (done ≠ [] → (Host.run (indexSources s.sqlSrc engine) (h₀.locked t₁ loc)).1 = .ok index) ∧
    Host.run (buildVersions s m index done p) (h₀.locked t₁ loc) = (.ok R, H)
  opens : openCreateAt g.tree g.cwd (s.migrationDir.join ⟨lockName⟩).bytes = .ok (H.tree, loc)

variable {s : Settings} {p : Provenance} {text : String} {m : Manifest} {D : Location} {h₀ : Host}
  {engine : Engine} {t₁ : Tree} {loc : Location}

namespace Opening

variable (o : Opening s text m D h₀ engine t₁ loc)
include o

theorem lockAdded : LockAdded h₀.tree t₁ D :=
  openCreateAt_lock o.ready.dirAt o.ready.linked o.opened

/-- The lock file opens in place in every tree that grows from `t₁`. -/
theorem reopen {t : Tree} (ext : t₁.Extends t) :
    openCreateAt t h₀.cwd (s.migrationDir.join ⟨lockName⟩).bytes = .ok (t, loc) :=
  openCreateAt_reopen o.ready.dirAt o.ready.linked o.opened ext

/-- A tree that holds the scripts of versions `done` of the manifest besides `h₀`'s holds the
chain of `done`, both ways. -/
theorem chainOf_built {t : Tree} {done : List String} (built : Built h₀.tree t D done)
    (known : ∀ v ∈ done, v ∈ m.versions) :
    chainOf t h₀.cwd s.migrationDir D = ChainState.ofLists done done := by
  rw [Built.chainOf o.ready.dirAt o.ready.linked (fun v member => o.named v (known v member)) built,
    o.empty]
  rfl

/-- Generating versions of the manifest from the host holding the lock on `t₁` writes their
scripts and keeps the rest of the world and the reads. -/
theorem generated {index : ObjectIndex} {done : List String} {R : BuildResult} {H : Host}
    (ran : Host.run (buildVersions s m index done p) (h₀.locked t₁ loc) = (.ok R, H))
    (known : ∀ v ∈ done, v ∈ m.versions) :
    Built h₀.tree H.tree D done ∧ t₁.Extends H.tree ∧ H.cwd = h₀.cwd ∧
      H.locks = loc :: h₀.locks ∧ H.reads = h₀.reads := by
  have start : (h₀.locked t₁ loc).world = (t₁, h₀.cwd, loc :: h₀.locks) := rfl
  have dirAt := stat_eq_of_extends o.lockAdded.extends o.ready.dirAt
  obtain ⟨succeeded, -⟩ := Host.run_of_triple
    (buildVersions_spec s p D m index done (t₁, h₀.cwd, loc :: h₀.locks))
    ⟨start, dirAt, fun v member => o.named v (known v member)⟩
  obtain ⟨-, adds, cwd, locks, -⟩ := succeeded R H ran
  have reads := (buildVersions_logBlind s m index done p).reads (h₀.locked t₁ loc)
  rw [ran] at reads
  exact ⟨o.lockAdded.built adds, adds.extends, cwd, locks, reads⟩

/-- A host that holds the scripts of some versions besides `h₀`'s indexes the sources alike as
the host holding the lock on `t₁`. -/
theorem index_iff (G : Host) {done : List String} (built : Built h₀.tree G.tree D done)
    (cwd : G.cwd = h₀.cwd) {I : ObjectIndex} :
    (Host.run (indexSources s.sqlSrc engine) G).1 = .ok I ↔
      (Host.run (indexSources s.sqlSrc engine) (h₀.locked t₁ loc)).1 = .ok I := by
  obtain ⟨lock, -, adds⟩ := built
  obtain ⟨lock₁, -, adds₁⟩ := o.lockAdded
  exact (indexSources_adds_iff h₀ G adds cwd o.apart).trans
    (indexSources_adds_iff h₀ (h₀.locked t₁ loc) adds₁ rfl o.apart).symm

end Opening

namespace Reached

variable {g : Host} {done : List String} {H : Host}

/-- The one build, before it generates anything, stands where `h₀` is. -/
theorem start (o : Opening s text m D h₀ engine t₁ loc) :
    Reached s p m D h₀ engine t₁ loc h₀ [] (h₀.locked t₁ loc) :=
  ⟨rfl, rfl, rfl, Built.refl h₀.tree D, fun _ member => absurd member List.not_mem_nil,
    ⟨{}, {}, fun nonempty => absurd rfl nonempty, buildVersions_nil s m {} p _⟩, o.opened⟩

/-- A successful build from a host where the one build stands, having generated the versions
of the manifest in a set closed downwards, generates the versions above them up to its target;
the one build, generating them next, ends on the tree the build leaves. -/
theorem step (o : Opening s text m D h₀ engine t₁ loc)
    (now : Reached s p m D h₀ engine t₁ loc g done H) {lower : String → Bool}
    (closed : ∀ a b, a < b → lower b → lower a) (filtered : done = m.versions.filter lower)
    {target : Option String} {r : BuildResult} {g' : Host}
    (ran : Host.run (buildWithProvenance s target p) g = (.ok r, g')) :
    target.all m.contains ∧ ∃ H', Reached s p m D h₀ engine t₁ loc g'
      (m.versions.filter fun v => lower v || target.all fun u => decide (v ≤ u)) H' ∧
      g'.tree = H'.tree := by
  have ordered := Manifest.parse_ordered o.parsed
  have known : ∀ v ∈ done, v ∈ m.versions :=
    filtered ▸ fun v member => (List.mem_filter.mp member).1
  obtain ⟨index, R, indexed, generated⟩ := now.generated
  obtain ⟨builtH, -, cwdH, locksH, readsH⟩ := o.generated generated known
  -- the build from `g`, whose lock file opens on `H`'s tree
  have ready := o.ready.built (fun v member => o.named v (known v member)) now.built now.cwd
  obtain ⟨H₂, stages, tree⟩ :=
    (buildWithProvenance_ok_iff s target p o.parsed D ready r g'.tree).mp ⟨g', ran, rfl⟩
  obtain ⟨-, V, index', selected, completeV, indexedV, builtV⟩ := stages.of_opened o.made now.opens
  -- it selects the versions above `done` up to its target
  have chain : chainOf H.tree g.cwd s.migrationDir D = ChainState.ofLists done done := by
    rw [now.cwd]
    exact o.chainOf_built builtH known
  change (chainOf H.tree g.cwd s.migrationDir D).selectTargets m target = .ok V at selected
  rw [chain] at selected
  have knownTarget := (ChainState.selectTargets_eq_ok.mp selected).1
  have above : V = m.versions.filter fun v => !lower v && target.all fun u => decide (v ≤ u) := by
    rw [(ChainState.selectTargets_ok_targets ordered selected).1]
    refine List.filter_congr fun v member => ?_
    simp [ChainState.ofLists, mem_sortedSet, filtered, member]
  have together : done ++ V =
      m.versions.filter fun v => lower v || target.all fun u => decide (v ≤ u) := by
    rw [filtered, above]
    exact filter_append_filter_of_lower ordered closed _
  -- one index serves the one build so far and this build's targets
  obtain ⟨index₂, sofar, these, indexedAll⟩ : ∃ index₂,
      Host.run (buildVersions s m index₂ done p) (h₀.locked t₁ loc) = (.ok R, H) ∧
      Host.run (buildVersions s m index₂ V p) (g.locked H.tree loc) = (.ok r, H₂) ∧
      (done ++ V ≠ [] →
        (Host.run (indexSources s.sqlSrc engine) (h₀.locked t₁ loc)).1 = .ok index₂) := by
    by_cases nothing : V = []
    · subst nothing
      rw [buildVersions_nil] at builtV
      exact ⟨index, generated, by rw [buildVersions_nil]; exact builtV,
        fun nonempty => indexed (by simpa using nonempty)⟩
    · have indexL := (o.index_iff (g.locked H.tree loc) builtH now.cwd).mp (indexedV nothing)
      refine ⟨index', ?_, builtV, fun _ => indexL⟩
      by_cases before : done = []
      · subst before
        rw [buildVersions_nil] at generated ⊢
        exact generated
      · have same := (indexed before).symm.trans indexL
        rw [Except.ok.injEq] at same
        exact same ▸ generated
  -- `H` is the host this build generated from but for its log, so the one build generates the
  -- same from it
  have sameWorld : H.world = (g.locked H.tree loc).world :=
    Host.world_eq_iff.mpr ⟨rfl, cwdH.trans now.cwd.symm, locksH.trans (congrArg _ now.locks.symm)⟩
  obtain ⟨H', continued, world⟩ := (buildVersions_logBlind s m index₂ V p).run_ok these sameWorld
    (readsH.trans now.reads.symm)
  have whole := buildVersions_append sofar continued
  have knownAll : ∀ v ∈ done ++ V, v ∈ m.versions :=
    together ▸ fun v member => (List.mem_filter.mp member).1
  obtain ⟨builtAll, extAll, -, -, -⟩ := o.generated whole knownAll
  have treeEq : g'.tree = H'.tree := tree.symm.trans (Host.world_eq_iff.mp world).1.symm
  -- the build keeps the rest of the world and the reads
  obtain ⟨-, -, -, -, cwd', locks', -⟩ := (Host.run_of_triple (buildWithProvenance_spec s target p
    o.parsed o.named D g.world ready.dirAt ready.linked ready.held) rfl).1 r g' ran
  have reads' := (buildWithProvenance_logBlind s target p).reads g
  rw [ran] at reads'
  refine ⟨knownTarget, H', ?_, treeEq⟩
  rw [← together]
  exact ⟨cwd'.trans now.cwd, locks'.trans now.locks, reads'.trans now.reads, treeEq ▸ builtAll,
    fun v member => (List.mem_append.mp member).elim (now.complete v) (completeV v),
    ⟨index₂, _, indexedAll, whole⟩, by rw [treeEq, cwd'.trans now.cwd]; exact o.reopen extAll⟩

/-- Builds in turn from a host where the one build stands on the same tree keep it so: the one
build, having generated also the versions the targets reach, stands where the last build
leaves, on the same tree. -/
theorem builds (o : Opening s text m D h₀ engine t₁ loc) {lower : String → Bool}
    (closed : ∀ a b, a < b → lower b → lower a)
    (now : Reached s p m D h₀ engine t₁ loc g (m.versions.filter lower) H) (same : g.tree = H.tree)
    {targets : List (Option String)} {g' : Host} (runs : Builds s p g targets g') :
    (∀ u ∈ targets, u.all m.contains) ∧ ∃ H', Reached s p m D h₀ engine t₁ loc g'
      (m.versions.filter fun v => lower v || targets.any fun u => u.all fun w => decide (v ≤ w))
      H' ∧ g'.tree = H'.tree := by
  induction runs generalizing lower H with
  | nil =>
    refine ⟨fun _ member => absurd member List.not_mem_nil, H, ?_, same⟩
    simpa only [List.any_nil, Bool.or_false] using now
  | @cons g g₁ g' target targets r ran _ ih =>
    obtain ⟨known, H₁, next, same₁⟩ := now.step o closed rfl ran
    obtain ⟨knownRest, H', last, same'⟩ := ih (lower_or_reaches closed target) next same₁
    refine ⟨List.forall_mem_cons.mpr ⟨known, knownRest⟩, H', ?_, same'⟩
    simpa only [List.any_cons, Bool.or_assoc] using last

end Reached

/-- Builds in turn from a migration directory with no scripts leave what one build leaves. Take
a manifest whose versions name their scripts, a ready world with no scripts in its migration
directory, and sources whose walk stays apart from that directory. If builds to the targets
`t, ts…` succeed one after another, then from the same world one build to `joinTargets t ts`
(no target when one of them has none, else the greatest) succeeds and leaves the same tree, every
file with the same bytes; and after the builds, a build to any of their targets succeeds with an
empty result and writes nothing. -/
theorem builds_in_turn_as_one_build (s : Settings) (p : Provenance) {text : String}
    {m : Manifest} (parsed : Manifest.parse text = .ok m)
    (named : ∀ v ∈ m.versions, ScriptVersion v) {D : Location} {h₀ : Host}
    (ready : BuildReady s text D h₀) (empty : chainOf h₀.tree h₀.cwd s.migrationDir D = {})
    (apart : walkApart h₀.tree h₀.cwd D s.sqlSrc) {t : Option String}
    {ts : List (Option String)} {h' : Host} (runs : Builds s p h₀ (t :: ts) h') :
    (∃ r h₁, Host.run (buildWithProvenance s (joinTargets t ts) p) h₀ = (.ok r, h₁) ∧
      h₁.tree = h'.tree) ∧
    ∀ u ∈ t :: ts, ∃ h₂, Host.run (buildWithProvenance s u p) h' = (.ok {}, h₂) ∧
      h₂.tree = h'.tree := by
  have ordered := Manifest.parse_ordered parsed
  have valid := (runs.valid parsed named ready (empty ▸ ChainState.valid_empty)).2
  -- the first build makes the engine and opens the lock file, as the one build does
  obtain _ | ⟨ran, rest⟩ := runs
  obtain ⟨-, ⟨engine, t₁, loc, made, opened, free, -⟩, -⟩ :=
    (buildWithProvenance_ok_iff s t p parsed D ready _ _).mp ⟨_, ran, rfl⟩
  have o : Opening s text m D h₀ engine t₁ loc :=
    ⟨parsed, named, ready, empty, apart, made, opened, free⟩
  -- nothing is generated before: the empty set of versions, closed downwards
  have nothing : ([] : List String) = m.versions.filter fun _ => false := by simp
  have closed : ∀ a b : String, a < b → (fun _ => false) b = true → (fun _ => false) a = true :=
    fun _ _ _ low => low
  obtain ⟨knownFirst, H₁, first, same₁⟩ := (Reached.start o).step o closed nothing ran
  obtain ⟨knownRest, H', last, same'⟩ := first.builds o (lower_or_reaches closed t) same₁ rest
  have known : ∀ u ∈ t :: ts, u.all m.contains := List.forall_mem_cons.mpr ⟨knownFirst, knownRest⟩
  -- the builds generated the versions the joined target reaches
  have reached : (fun v => ((false || t.all fun u => decide (v ≤ u)) ||
      ts.any fun u => u.all fun w => decide (v ≤ w))) =
      fun v => (joinTargets t ts).all fun u => decide (v ≤ u) := by
    funext v
    rw [joinTargets_reaches, List.any_cons, Bool.false_or]
  rw [reached] at last
  have knownDone : ∀ v ∈ m.versions.filter fun v => (joinTargets t ts).all fun u => decide (v ≤ u),
      v ∈ m.versions := fun v member => (List.mem_filter.mp member).1
  refine ⟨?_, fun u member => ?_⟩
  · -- one build selects them all from the empty chain, and generates them as the builds did
    obtain ⟨index, R, indexed, generated⟩ := last.generated
    have knownJoin : (joinTargets t ts).all m.contains := by
      rcases joinTargets_mem t ts with none | member
      · rw [none]
        rfl
      · exact known _ member
    obtain ⟨V, selected⟩ := ChainState.valid_empty.selectTargets_ok ordered knownJoin
    have selectedAll : (chainOf t₁ h₀.cwd s.migrationDir D).selectTargets m (joinTargets t ts) =
        .ok (m.versions.filter fun v => (joinTargets t ts).all fun u => decide (v ≤ u)) := by
      rw [chainOf_lockAdded ready.dirAt ready.linked o.lockAdded, empty, selected,
        (ChainState.selectTargets_ok_targets ordered selected).1]
      simp
    obtain ⟨h₁, ran₁, tree₁⟩ := (buildWithProvenance_ok_iff s _ p parsed D ready R H'.tree).mpr
      ⟨H', ⟨engine, t₁, loc, made, opened, free, _, index, selectedAll, last.complete, indexed,
        generated⟩, rfl⟩
    exact ⟨R, h₁, ran₁, tree₁.trans same'.symm⟩
  · -- a repeated target finds every version it reaches built
    have chainLast := o.chainOf_built last.built knownDone
    rw [← last.cwd] at chainLast
    rw [chainLast] at valid
    obtain ⟨V, selected⟩ := valid.selectTargets_ok ordered (known u member)
    have none : V = [] := by
      rw [(ChainState.selectTargets_ok_targets ordered selected).1]
      refine List.filter_eq_nil_iff.mpr fun v inM selects => ?_
      obtain ⟨unbuilt, reaches⟩ := Bool.and_eq_true_iff.mp selects
      have joined : (joinTargets t ts).all fun w => decide (v ≤ w) := by
        rw [joinTargets_reaches]
        exact List.any_eq_true.mpr ⟨u, member, reaches⟩
      simp [ChainState.ofLists, mem_sortedSet, inM, joined] at unbuilt
    subst none
    have opens := last.opens
    rw [← same'] at opens
    have readyLast := ready.built (fun v member => named v (knownDone v member)) last.built last.cwd
    obtain ⟨h₂, ran₂, tree₂⟩ := (buildWithProvenance_ok_iff s u p parsed D readyLast {} h'.tree).mpr
      ⟨h'.locked h'.tree loc, ⟨engine, h'.tree, loc, made, opens, last.locks ▸ free, [], {},
        chainLast ▸ selected, fun _ member => absurd member List.not_mem_nil,
        fun nonempty => absurd rfl nonempty, buildVersions_nil s m {} p _⟩, rfl⟩
    exact ⟨h₂, ran₂, tree₂⟩

/-- The manifest of the sample project with two versions, each creating and dropping a schema. -/
def sampleTwoVersions : String :=
  createDropVersion "0001" "s" "schema" ++ createDropVersion "0002" "t" "schema"

/-- Builds of the sample project to the targets in turn, from scratch, each from where the one
before left. -/
def buildSampleInTurn (text : String) (targets : List (Option String)) : Host :=
  targets.foldl (fun h t =>
    (Host.run (buildWithProvenance (Settings.new (.ofString "p")) t sampleProvenance) h).2)
    (sampleProject text [])

set_option maxRecDepth 100000 in
/-- The sample project with two versions, built to `0001` and then to the last version: one build
to the last version leaves the same tree, and either build repeated has nothing to do. -/
theorem sampleProject_builds_in_turn :
    (∃ r h₁, Host.run (buildWithProvenance (Settings.new (.ofString "p"))
        (joinTargets (some "0001") [none]) sampleProvenance) (sampleProject sampleTwoVersions []) =
        (.ok r, h₁) ∧ h₁.tree = (buildSampleInTurn sampleTwoVersions [some "0001", none]).tree) ∧
    ∀ u ∈ [some "0001", none], ∃ h₂, Host.run (buildWithProvenance (Settings.new (.ofString "p")) u
        sampleProvenance) (buildSampleInTurn sampleTwoVersions [some "0001", none]) = (.ok {}, h₂) ∧
      h₂.tree = (buildSampleInTurn sampleTwoVersions [some "0001", none]).tree := by
  -- the facts before the builds, then the two builds, each set evaluated in one pass
  obtain ⟨parsed, dirAt, listed, leads, held, empty, apart⟩ :
      Manifest.parse sampleTwoVersions = .ok ⟨[("0001", createDropSpec "s" "schema"), ("0002", createDropSpec "t" "schema")]⟩ ∧
      stat (sampleProject sampleTwoVersions []).tree [] (Settings.new (.ofString "p")).migrationDir.bytes =
        .ok (sampleMigrations, .dir) ∧
      (sampleProject sampleTwoVersions []).tree.children sampleMigrations = ["manifest.toml".toUTF8.toList] ∧
      lookup (sampleProject sampleTwoVersions []).tree []
        ((Settings.new (.ofString "p")).migrationDir.join ⟨"manifest.toml".toUTF8.toList⟩).bytes true =
        .ok (.found (sampleMigrations ++ ["manifest.toml".toUTF8.toList]) (.file sampleTwoVersions.toUTF8.toList)) ∧
      readAt (sampleProject sampleTwoVersions []).tree [] (Settings.new (.ofString "p")).manifest.bytes =
        .ok sampleTwoVersions.toUTF8.toList ∧
      chainOf (sampleProject sampleTwoVersions []).tree [] (Settings.new (.ofString "p")).migrationDir sampleMigrations = {} ∧
      walkApart (sampleProject sampleTwoVersions []).tree [] sampleMigrations (Settings.new (.ofString "p")).sqlSrc = true := by
    decide +kernel
  obtain ⟨first, second⟩ :
      (Host.run (buildWithProvenance (Settings.new (.ofString "p")) (some "0001") sampleProvenance)
        (sampleProject sampleTwoVersions [])).1.isOk = true ∧
      (Host.run (buildWithProvenance (Settings.new (.ofString "p")) none sampleProvenance)
        (buildSampleInTurn sampleTwoVersions [some "0001"])).1.isOk = true := by
    decide +kernel
  have named : ∀ v ∈ Manifest.versions
      ⟨[("0001", createDropSpec "s" "schema"), ("0002", createDropSpec "t" "schema")]⟩,
      ScriptVersion v := by
    simp only [Manifest.versions, List.map_cons, List.map_nil, List.mem_cons, List.not_mem_nil,
      or_false, forall_eq_or_imp, forall_eq]
    exact ⟨⟨by decide, by decide, by decide⟩, ⟨by decide, by decide, by decide⟩⟩
  have ready := BuildReady.of_single_entry _ _ _ dirAt listed leads held
  -- the two builds in turn succeed
  have ran : ∀ {α : Type} {act : HostM α} {h : Host}, (Host.run act h).1.isOk = true →
      ∃ a, Host.run act h = (.ok a, (Host.run act h).2) := by
    intro α act h ok
    cases result : (Host.run act h).1 with
    | ok a => exact ⟨a, Prod.ext result rfl⟩
    | error e => simp [result, Except.isOk, Except.toBool] at ok
  obtain ⟨r₁, ran₁⟩ := ran first
  obtain ⟨r₂, ran₂⟩ := ran second
  exact builds_in_turn_as_one_build _ _ parsed named ready empty apart
    (.cons ran₁ (.cons ran₂ (.nil _)))

set_option maxRecDepth 100000 in
/-- A version named by the empty text has nothing left to build after a build to it, yet a
repeated build fails: the scan reads no version from the script names `_up.sql` and
`_down.sql`, so the repeat selects the version again and stops at its script, which is there. -/
theorem repeated_build_of_unnamed_version_fails :
    (buildSample (createDropVersion "\"\"" "s" "schema") []).1.isOk = true ∧
    (Host.run (buildWithProvenance (Settings.new (.ofString "p")) none sampleProvenance)
      (buildSample (createDropVersion "\"\"" "s" "schema") []).2).1.isOk = false := by
  decide +kernel

end Migrator
