import Mathlib
import Migrator.Proofs.Host

/-! A run never reads its event log. Each step of a build decides what it does from the tree,
the working directory, the locks and how reads are split, only appends to the log, and leaves how
reads are split as it was; so a run after other events does what it does alone, with those events
kept in front (`Host.LogBlind`). Building versions (`buildVersions_logBlind`) and indexing the
sources (`indexSources_logBlind`) are so, and two runs of such a computation from hosts that differ
only in their logs return alike and leave the same world (`Host.LogBlind.run_congr`). -/
namespace Migrator

open Std.Do Files

namespace Host

/-- `h` with the events `pre` logged before its own. -/
def after (pre : Array Event) (h : Host) : Host := { h with events := pre ++ h.events }

theorem after_quiet (h : Host) : after h.events { h with events := #[] } = h := by
  cases h
  simp only [after, Array.append_empty]

/-- `act` never reads the log: run after the events `pre`, it returns what it returns alone and
leaves what it leaves alone, with `pre` kept before the events it logs. Nor does it change how
reads are split. -/
structure LogBlind {α : Type} (act : HostM α) : Prop where
  logged : ∀ (h : Host) (pre : Array Event), run act (h.after pre) = Prod.map id (after pre) (run act h)
  reads : ∀ h : Host, (run act h).2.reads = h.reads

theorem run_bind {α β : Type} (x : HostM α) (f : α → HostM β) (h : Host) :
    run (x >>= f) h = match run x h with
      | (.ok a, h') => run (f a) h'
      | (.error e, h') => (.error e, h') := by
  unfold run
  simp only [bind, EStateM.bind, EStateM.run]
  cases x h <;> rfl

theorem run_tryCatch {α : Type} (x : HostM α) (handle : Error → HostM α) (h : Host) :
    run (tryCatch x handle) h = match run x h with
      | (.ok a, h') => (.ok a, h')
      | (.error e, h') => run (handle e) h' := by
  unfold run
  simp only [tryCatch, tryCatchThe, MonadExceptOf.tryCatch, EStateM.tryCatch, EStateM.run,
    EStateM.Backtrackable.restore, EStateM.dummyRestore]
  cases x h <;> rfl

@[simp] theorem run_pure {α : Type} (a : α) (h : Host) : run (pure a : HostM α) h = (.ok a, h) :=
  rfl

/-- A triple read off the runs: from every host that meets the precondition, the outcome of the
run meets the postcondition of its kind. -/
theorem triple_of_runs {α : Type} {act : HostM α} {P : Host → Prop} {Q : α → Host → Prop}
    {E : Error → Host → Prop}
    (runs : ∀ h, P h → (∀ a h', run act h = (.ok a, h') → Q a h') ∧
      (∀ e h', run act h = (.error e, h') → E e h')) :
    ⦃fun h => ⌜P h⌝⦄ act ⦃post⟨fun a h => ⌜Q a h⌝, fun e h => ⌜E e h⌝⟩⦄ := by
  intro h pre
  obtain ⟨okCase, errorCase⟩ := runs h pre
  unfold run at okCase errorCase
  simp only [wp, PredTrans.apply]
  cases result : act.run h with
  | ok a h' =>
    rw [result] at okCase
    simpa using okCase a h' rfl
  | error e h' =>
    rw [result] at errorCase
    simpa using errorCase e h' rfl

namespace LogBlind

variable {α β γ : Type}

protected theorem pure (a : α) : LogBlind (pure a : HostM α) := ⟨fun _ _ => rfl, fun _ => rfl⟩

protected theorem throw (e : Error) : LogBlind (throw e : HostM α) := ⟨fun _ _ => rfl, fun _ => rfl⟩

protected theorem bind {x : HostM α} {f : α → HostM β} (first : LogBlind x)
    (next : ∀ a, LogBlind (f a)) : LogBlind (x >>= f) := by
  constructor
  · intro h pre
    rw [run_bind, run_bind, first.logged h pre]
    rcases run x h with ⟨_ | a, h'⟩
    · rfl
    · exact (next a).logged h' pre
  · intro h
    have kept := first.reads h
    rw [run_bind]
    rcases ran : run x h with ⟨_ | a, h'⟩
    all_goals rw [ran] at kept
    · exact kept
    · exact ((next a).reads h').trans kept

protected theorem tryCatch {x : HostM α} {handle : Error → HostM α} (body : LogBlind x)
    (handler : ∀ e, LogBlind (handle e)) : LogBlind (tryCatch x handle) := by
  constructor
  · intro h pre
    rw [run_tryCatch, run_tryCatch, body.logged h pre]
    rcases run x h with ⟨e | a, h'⟩
    · exact (handler e).logged h' pre
    · rfl
  · intro h
    have kept := body.reads h
    rw [run_tryCatch]
    rcases ran : run x h with ⟨e | a, h'⟩
    all_goals rw [ran] at kept
    · exact ((handler e).reads h').trans kept
    · exact kept

protected theorem forIn {xs : List γ} {b : β} {f : γ → β → HostM (ForInStep β)}
    (step : ∀ a b, LogBlind (f a b)) : LogBlind (forIn xs b f) := by
  induction xs generalizing b with
  | nil => exact .pure b
  | cons a rest ih =>
    rw [List.forIn_cons]
    refine .bind (step a b) fun r => ?_
    cases r with
    | done b => exact .pure b
    | yield b => exact ih

/-- Two runs from hosts that differ only in their logs return alike and leave the same world. -/
theorem run_congr {act : HostM α} (blind : LogBlind act) {h h' : Host}
    (world : h'.world = h.world) (reads : h'.reads = h.reads) :
    (run act h').1 = (run act h).1 ∧ (run act h').2.world = (run act h).2.world := by
  obtain ⟨tree, cwd, locks⟩ := world_eq_iff.mp world
  -- both hosts are one host with an empty log, after their own logs
  have same : { h' with events := #[] } = { h with events := #[] } := by
    cases h
    cases h'
    simp only at tree cwd locks reads
    rw [tree, cwd, locks, reads]
    rfl
  rw [← after_quiet h, ← after_quiet h', blind.logged, blind.logged, same]
  exact ⟨rfl, rfl⟩

/-- A successful run from a host succeeds alike from any host with the same world and reads. -/
theorem run_ok {act : HostM α} (blind : LogBlind act) {h h' g : Host} {a : α}
    (ran : run act h = (.ok a, g)) (world : h'.world = h.world) (reads : h'.reads = h.reads) :
    ∃ g', run act h' = (.ok a, g') ∧ g'.world = g.world := by
  obtain ⟨result, world'⟩ := blind.run_congr world reads
  rw [ran] at result world'
  exact ⟨(run act h').2, Prod.ext result rfl, world'⟩

/-- What a computation that never reads the log does from a host with the world `w` and the
reads `rd`: the same as from any other such host, and the reads stay. -/
theorem spec {act : HostM α} (blind : LogBlind act) (w : Tree × Location × List Location)
    (rd : ReadSplit) :
    ⦃fun h => ⌜h.world = w ∧ h.reads = rd⌝⦄ act
    ⦃post⟨fun a h => ⌜h.reads = rd ∧ ∀ g : Host, g.world = w → g.reads = rd →
        (run act g).1 = .ok a ∧ (run act g).2.world = h.world⌝,
      fun e h => ⌜h.reads = rd ∧ ∀ g : Host, g.world = w → g.reads = rd →
        (run act g).1 = .error e⌝⟩⦄ := by
  refine triple_of_runs fun h ⟨world, reads⟩ => ⟨fun a h' ran => ?_, fun e h' ran => ?_⟩
  all_goals
    have kept := blind.reads h
    rw [ran] at kept
    refine ⟨kept.trans reads, fun g gWorld gReads => ?_⟩
    have alike := blind.run_congr (gWorld.trans world.symm) (gReads.trans reads.symm)
    rw [ran] at alike
  · exact alike
  · exact alike.1

theorem keepsReads {act : HostM α} (blind : LogBlind act) (rd : ReadSplit) :
    ⦃fun h => ⌜h.reads = rd⌝⦄ act ⦃post⟨fun _ h => ⌜h.reads = rd⌝, fun _ h => ⌜h.reads = rd⌝⟩⦄ := by
  refine triple_of_runs fun h reads => ⟨fun a h' ran => ?_, fun e h' ran => ?_⟩
  all_goals
    have kept := blind.reads h
    rw [ran] at kept
    exact kept.trans reads

end LogBlind

/-! ### The host's own steps -/

theorem emit_logBlind (e : Event) : LogBlind (emit e) := by
  constructor
  · intro h pre
    simp only [run, emit, after, modify, modifyGet, MonadStateOf.modifyGet, EStateM.modifyGet,
      EStateM.run, Prod.map, id]
    rw [Array.append_push]
  · exact fun _ => rfl

theorem isDir_logBlind (p : Path) : LogBlind (isDir p) := ⟨fun _ _ => rfl, fun _ => rfl⟩

theorem isFile_logBlind (p : Path) : LogBlind (isFile p) := ⟨fun _ _ => rfl, fun _ => rfl⟩

theorem pathExists_logBlind (p : Path) : LogBlind (pathExists p) := ⟨fun _ _ => rfl, fun _ => rfl⟩

theorem tryRead_logBlind (p : Path) : LogBlind (tryRead p) := ⟨fun _ _ => rfl, fun _ => rfl⟩

theorem onPath_logBlind {α : Type} (p : Path) (r : Except IoFault α) : LogBlind (onPath p r) := by
  cases r
  · exact .throw _
  · exact .pure _

theorem listDir_logBlind (p : Path) : LogBlind (listDir p) := by
  constructor
  · intro h pre
    simp only [run, listDir, bind, EStateM.bind, get, getThe, MonadStateOf.get, EStateM.get,
      EStateM.run]
    dsimp only [after]
    cases Files.listAt h.tree h.cwd p.bytes <;> rfl
  · intro h
    simp only [run, listDir, bind, EStateM.bind, get, getThe, MonadStateOf.get, EStateM.get,
      EStateM.run]
    cases Files.listAt h.tree h.cwd p.bytes <;> rfl

theorem readBytes_logBlind (p : Path) : LogBlind (readBytes p) :=
  .bind (tryRead_logBlind p) fun r => onPath_logBlind p r

theorem readText_logBlind (p : Path) : LogBlind (readText p) := by
  unfold readText
  refine .bind (tryRead_logBlind p) fun r => .bind (onPath_logBlind p r) fun bytes => ?_
  split
  · exact .pure _
  · exact .throw _

theorem change_logBlind (p : Path) (f : Files.Tree → Files.Location → Except IoFault Files.Tree) :
    LogBlind (change p f) := by
  constructor
  · intro h pre
    simp only [run, change, bind, EStateM.bind, get, getThe, MonadStateOf.get, EStateM.get,
      EStateM.run]
    dsimp only [after]
    cases f h.tree h.cwd <;> rfl
  · intro h
    simp only [run, change, bind, EStateM.bind, get, getThe, MonadStateOf.get, EStateM.get,
      EStateM.run]
    cases f h.tree h.cwd <;> rfl

theorem createNew_logBlind (p : Path) (content : List UInt8) : LogBlind (createNew p content) :=
  change_logBlind p _

end Host

open Host

/-! ### The steps of a build -/

theorem specOf_logBlind (m : Manifest) (version : String) : LogBlind (specOf m version) := by
  unfold specOf
  split
  · exact .pure _
  · exact .throw _

theorem scanArtifacts_logBlind (dir : Path) : LogBlind (scanArtifacts dir) := by
  unfold scanArtifacts
  refine .bind (pathExists_logBlind dir) fun found => ?_
  split
  · exact .pure _
  refine .bind (listDir_logBlind dir) fun names => .bind (.forIn fun name r => ?_) fun r => .pure _
  refine .bind (isFile_logBlind _) fun file => ?_
  split
  · split <;> exact .pure _
  · exact .pure _

theorem priorUpArtifacts_logBlind (dir : Path) (version : String) :
    LogBlind (priorUpArtifacts dir version) :=
  .bind (scanArtifacts_logBlind dir) fun _ => .pure _

theorem matchInFile_logBlind (path : Path) (name objectType tag : String) :
    LogBlind (matchInFile path name objectType tag) :=
  .bind (readText_logBlind path) fun _ => .pure _

theorem resolvePrevious_logBlind (name objectType : String) (candidates : List Path) (tag : String) :
    LogBlind (resolvePrevious name objectType candidates tag) := by
  unfold resolvePrevious
  refine .bind (.forIn fun c r => .bind (matchInFile_logBlind c name objectType tag) fun found => ?_)
    fun r => ?_
  · split <;> exact .pure _
  · obtain ⟨_ | _, _⟩ := r
    · exact .throw _
    · exact .pure _

theorem compileAction_logBlind (entry : ActionEntry) (ctx : CompileContext) :
    LogBlind (compileAction entry ctx) := by
  unfold compileAction
  extract_lets check
  -- every branch ends in the same emptiness check of its text
  have checked : ∀ sql, LogBlind (check sql) := fun sql => by
    simp only [check]
    split
    · exact .throw _
    · exact .pure _
  split
  · exact .bind (.pure _) checked
  · split
    · exact .bind (.pure _) checked
    · split
      · exact .bind (readText_logBlind _) checked
      · exact .bind (.throw _) checked
  · exact .bind (readText_logBlind _) checked
  · exact .bind (resolvePrevious_logBlind _ _ _ _) fun _ =>
      .bind (emit_logBlind _) fun _ => .bind (.pure _) checked

theorem compileActions_logBlind (version : String) (direction : Direction)
    (entries : List ActionEntry) (ctx : CompileContext) :
    LogBlind (compileActions version direction entries ctx) :=
  .bind (.forIn fun entry _ =>
      .bind (.tryCatch (compileAction_logBlind entry ctx) fun _ => .throw _) fun _ =>
        .bind (emit_logBlind _) fun _ => .pure _)
    fun _ => .pure _

theorem hashFile_logBlind (path : Path) : LogBlind (hashFile path) :=
  .bind (readBytes_logBlind path) fun _ => ⟨fun _ _ => rfl, fun _ => rfl⟩

theorem writeScript_logBlind (path : Path) (commands : List Command) (p : Provenance) (tag : String) :
    LogBlind (writeScript path commands p tag) :=
  .bind (.bind (createNew_logBlind _ _) fun _ => .bind (hashFile_logBlind path) fun _ => .pure _)
    fun _ => .bind (emit_logBlind _) fun _ => .pure _

theorem discardLoneUp_logBlind (upPath : Path) (error : Error) :
    LogBlind (discardLoneUp upPath error) := by
  constructor
  · intro h pre
    simp only [run, discardLoneUp, bind, EStateM.bind, get, getThe, MonadStateOf.get, EStateM.get,
      EStateM.run]
    dsimp only [after]
    cases Files.unlinkAt h.tree h.cwd upPath.bytes with
    | ok t => rfl
    | error f => cases f <;> rfl
  · intro h
    simp only [run, discardLoneUp, bind, EStateM.bind, get, getThe, MonadStateOf.get, EStateM.get,
      EStateM.run]
    cases Files.unlinkAt h.tree h.cwd upPath.bytes with
    | ok t => rfl
    | error f => cases f <;> rfl

theorem buildVersion_logBlind (s : Settings) (m : Manifest) (index : ObjectIndex) (version : String)
    (p : Provenance) : LogBlind (buildVersion s m index version p) := by
  unfold buildVersion
  extract_lets
  refine .bind (specOf_logBlind m version) fun spec => .bind (.forIn fun path r => ?_) fun _ =>
    .bind (priorUpArtifacts_logBlind _ _) fun prior =>
      .bind (compileActions_logBlind _ _ _ _) fun up => .bind (compileActions_logBlind _ _ _ _)
        fun down => .bind (writeScript_logBlind _ _ _ _) fun upSummary =>
          .bind (.tryCatch (writeScript_logBlind _ _ _ _) fun e =>
            .bind (discardLoneUp_logBlind _ e) fun _ => .throw _) fun _ => .pure _
  refine .bind (pathExists_logBlind path) fun found => ?_
  split
  · exact .bind (emit_logBlind _) fun _ => .bind (.throw _) fun _ => .pure _
  · exact .pure _

theorem buildVersions_logBlind (s : Settings) (m : Manifest) (index : ObjectIndex)
    (targets : List String) (p : Provenance) : LogBlind (buildVersions s m index targets p) :=
  .bind (.forIn fun v _ => .bind (buildVersion_logBlind s m index v p) fun _ => .pure _)
    fun _ => .pure _

theorem findSqlFiles_logBlind (root : Path) : LogBlind (findSqlFiles root) := by
  unfold findSqlFiles
  extract_lets listed named
  have listed_blind : ∀ u, LogBlind (listed u) := fun _ => ⟨fun _ _ => rfl, fun _ => rfl⟩
  have named_blind : ∀ u, LogBlind (named u) := fun u => by
    simp only [named]
    split
    · exact .bind (.throw _) listed_blind
    · exact listed_blind ()
  refine .bind (isDir_logBlind root) fun found => ?_
  split
  · exact .bind (.throw _) named_blind
  · exact named_blind ()

theorem indexSources_logBlind (root : Path) (engine : Engine) :
    LogBlind (indexSources root engine) := by
  unfold indexSources
  extract_lets
  refine .bind (findSqlFiles_logBlind root) fun files => .bind (.forIn fun file index => ?_)
    fun index => .bind (emit_logBlind _) fun _ => .pure _
  refine .bind (readText_logBlind file) fun content => ?_
  split
  · exact .bind (emit_logBlind _) fun _ => .pure _
  · split
    split
    · exact .bind (emit_logBlind _) fun _ => .pure _
    · exact .pure _

/-! ### A whole build -/

theorem ofExcept_logBlind {α : Type} (r : Except Error α) : LogBlind (Host.ofExcept r) := by
  cases r
  · exact .throw _
  · exact .pure _

theorem releaseLock_logBlind (loc : Files.Location) : LogBlind (releaseLock loc) :=
  ⟨fun _ _ => rfl, fun _ => rfl⟩

theorem acquireLock_logBlind (dir : Path) : LogBlind (acquireLock dir) := by
  constructor
  · intro h pre
    rcases opened : Files.openCreateAt h.tree h.cwd (dir.push lockFileName).bytes with f | ⟨t, loc⟩
    all_goals
      simp only [run, acquireLock, bind, EStateM.bind, get, getThe, MonadStateOf.get, EStateM.get,
        set, MonadStateOf.set, EStateM.set, EStateM.run, after, opened, onPath, pure, EStateM.pure,
        throw, throwThe, MonadExceptOf.throw, EStateM.throw]
    · rfl
    · by_cases held : h.locks.contains loc = true
      · simp only [held, if_true]
        rfl
      · simp only [held, Bool.false_eq_true, if_false]
        rfl
  · intro h
    rcases opened : Files.openCreateAt h.tree h.cwd (dir.push lockFileName).bytes with f | ⟨t, loc⟩
    all_goals
      simp only [run, acquireLock, bind, EStateM.bind, get, getThe, MonadStateOf.get, EStateM.get,
        set, MonadStateOf.set, EStateM.set, EStateM.run, opened, onPath, pure, EStateM.pure,
        throw, throwThe, MonadExceptOf.throw, EStateM.throw]
    by_cases held : h.locks.contains loc = true
    · simp only [held, if_true]
      rfl
    · simp only [held, Bool.false_eq_true, if_false]
      rfl

theorem withLock_logBlind {α : Type} (dir : Path) {body : HostM α} (blind : LogBlind body) :
    LogBlind (withLock dir body) :=
  .bind (acquireLock_logBlind dir) fun loc =>
    .tryCatch (.bind blind fun _ => .bind (releaseLock_logBlind loc) fun _ => .pure _)
      fun _ => .bind (releaseLock_logBlind loc) fun _ => .throw _

theorem loadManifest_logBlind (path : Path) : LogBlind (loadManifest path) := by
  unfold loadManifest
  refine .bind (.tryCatch (readText_logBlind path) fun e => ?_) fun text => ?_
  · split
    · exact .throw _
    · exact .throw _
  · split
    · exact .pure _
    · exact .throw _

theorem buildLocked_logBlind (s : Settings) (target : Option String) (p : Provenance)
    (engine : Engine) : LogBlind (buildLocked s target p engine) := by
  unfold buildLocked
  refine .bind (loadManifest_logBlind _) fun m => .bind (emit_logBlind _) fun _ =>
    .bind (scanArtifacts_logBlind _) fun state => .bind (ofExcept_logBlind _) fun targets => ?_
  split
  · exact .bind (emit_logBlind _) fun _ => .pure _
  · exact .bind (emit_logBlind _) fun _ => .bind (.forIn fun v _ =>
      .bind (specOf_logBlind m v) fun spec => .bind (ofExcept_logBlind _) fun _ => .pure _)
      fun _ => .bind (indexSources_logBlind _ _) fun index => buildVersions_logBlind _ _ _ _ _

theorem buildWithProvenance_logBlind (s : Settings) (target : Option String) (p : Provenance) :
    LogBlind (buildWithProvenance s target p) :=
  .bind (ofExcept_logBlind _) fun engine => .bind (change_logBlind _ _) fun _ =>
    withLock_logBlind _ (buildLocked_logBlind s target p engine)

end Migrator
