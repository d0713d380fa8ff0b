import Mathlib
import Migrator.Proofs.Resolve
import Migrator.Proofs.Runs

/-! What a rollback restores, over builds one after another from an empty migration directory with
edits of the world between them (`Rebuilt`). Each build keeps an invariant (`ChainCompiled`): every
version of the chain has scripts that render commands compiled for its entries, each rollback
resolved among the up scripts of the manifest's versions below it, the latest first. Where a script
renders commands free of an object's marker lines, its text gives back the first command of that
object (`Renders.find?`), so the search stops at the closest version below that defines the object
(`FirstBlock.eq_closest`) and finds nothing where no version does. Versions must name their scripts:
a version whose name holds a line feed is built but never scanned, and a rollback passes over it
(`rollback_passes_over_version_with_line_feed`). -/
namespace Migrator

open Std.Do Files

/-! ### Reading a script back -/

/-- The footer fields that stay on one line. -/
def Provenance.OneLine (p : Provenance) : Prop := '\n' ∉ p.version.toList ∧ '\n' ∉ p.release.toList

/-- The script of `version` in direction `d`, in the directory found at `D`, renders the commands
`cmds`, one for each entry of that direction with its name and type, under a footer of `q` on one
line. -/
def Renders (t : Tree) (D : Location) (tag : String) (m : Manifest) (version : String)
    (d : Direction) (cmds : List Command) (q : Provenance) : Prop :=
  q.OneLine ∧
    (∃ spec, m.spec? version = some spec ∧ cmds.map Command.key = (spec.actions d).map ActionEntry.key) ∧
    t.get? (D ++ [scriptName version d]) = some (.file (artifactText cmds q tag).toUTF8.toList)

/-- No command holds a marker line of `name`/`objectType`, and the first command of that name and
type does not end in a carriage return. -/
def Unmarked (tag name objectType : String) (cmds : List Command) : Prop :=
  (∀ c ∈ cmds, ¬ (Command.beginMarker ⟨name, objectType, ""⟩ tag).toList <:+: c.sql.toList ∧
    ¬ (Command.endMarker ⟨name, objectType, ""⟩ tag).toList <:+: c.sql.toList) ∧
  ∀ c ∈ cmds.find? (fun c => c.name == name && c.objectType == objectType),
    c.sql.toList.getLast? ≠ some '\r'

instance (tag name objectType : String) (cmds : List Command) :
    Decidable (Unmarked tag name objectType cmds) :=
  inferInstanceAs (Decidable ((∀ c ∈ cmds, ¬ (Command.beginMarker ⟨name, objectType, ""⟩ tag).toList <:+:
      c.sql.toList ∧ ¬ (Command.endMarker ⟨name, objectType, ""⟩ tag).toList <:+: c.sql.toList) ∧
    ∀ c ∈ cmds.find? (fun c => c.name == name && c.objectType == objectType),
      c.sql.toList.getLast? ≠ some '\r'))

/-- Every entry of the manifest has a name and a type that keep a marker line whole, the name on
one line. -/
def Manifest.Framed (m : Manifest) : Prop :=
  ∀ p ∈ m.entries, ∀ e ∈ p.2.up ++ p.2.down,
    Block.Framed e.name.toList e.objectType.toList ∧ '\n' ∉ e.name.toList

instance : DecidablePred Manifest.Framed := fun m =>
  inferInstanceAs (Decidable (∀ p ∈ m.entries, ∀ e ∈ p.2.up ++ p.2.down,
    Block.Framed e.name.toList e.objectType.toList ∧ '\n' ∉ e.name.toList))

theorem Manifest.Framed.entry {m : Manifest} (framed : m.Framed) {version : String}
    {spec : BuildSpec} (found : m.spec? version = some spec) {d : Direction} {e : ActionEntry}
    (member : e ∈ spec.actions d) :
    Block.Framed e.name.toList e.objectType.toList ∧ '\n' ∉ e.name.toList := by
  obtain ⟨pre, post, split, -⟩ := List.lookup_eq_some_iff.mp found
  apply framed (version, spec) (by simp [split])
  cases d <;> simp_all [BuildSpec.actions]

/-- `version`'s up entries include one of `name`/`objectType`. -/
def DefinesUp (m : Manifest) (version name objectType : String) : Prop :=
  ∃ spec ∈ m.spec? version, ∃ f ∈ spec.up, f.name = name ∧ f.objectType = objectType

/-- `w` is the latest version below `v` whose up entries define `name`/`objectType`. -/
def ClosestDefinition (m : Manifest) (v name objectType w : String) : Prop :=
  w ∈ m.versions ∧ w < v ∧ DefinesUp m w name objectType ∧
    ∀ u ∈ m.versions, w < u → u < v → ¬ DefinesUp m u name objectType

instance (m : Manifest) (version name objectType : String) :
    Decidable (DefinesUp m version name objectType) :=
  inferInstanceAs (Decidable (∃ spec ∈ m.spec? version, ∃ f ∈ spec.up,
    f.name = name ∧ f.objectType = objectType))

instance (m : Manifest) (v name objectType w : String) :
    Decidable (ClosestDefinition m v name objectType w) :=
  inferInstanceAs (Decidable (w ∈ m.versions ∧ w < v ∧ DefinesUp m w name objectType ∧
    ∀ u ∈ m.versions, w < u → u < v → ¬ DefinesUp m u name objectType))

section Renders

variable {t : Tree} {D : Location} {tag : String} {m : Manifest} {version : String} {d : Direction}
  {cmds : List Command} {q : Provenance}

/-- A rendered command has the name and type of an entry. -/
theorem Renders.exists_entry (renders : Renders t D tag m version d cmds q) {c : Command}
    (member : c ∈ cmds) :
    ∃ spec, m.spec? version = some spec ∧ ∃ e ∈ spec.actions d, e.name = c.name ∧ e.objectType = c.objectType := by
  obtain ⟨-, ⟨spec, found, keys⟩, -⟩ := renders
  obtain ⟨e, entry, key⟩ := List.mem_map.mp (keys ▸ List.mem_map_of_mem member : c.key ∈ _)
  simp only [Command.key, ActionEntry.key, Prod.mk.injEq] at key
  exact ⟨spec, found, e, entry, key⟩

/-- An up script renders a command of a name and type exactly when the version's up entries
define them. -/
theorem Renders.find?_isSome_iff (renders : Renders t D tag m version .up cmds q)
    {name objectType : String} :
    (cmds.find? fun c => c.name == name && c.objectType == objectType).isSome ↔
      DefinesUp m version name objectType := by
  obtain ⟨-, ⟨spec, found, keys⟩, -⟩ := renders
  rw [List.find?_isSome]
  constructor
  · rintro ⟨c, member, picked⟩
    obtain ⟨e, entry, key⟩ := List.mem_map.mp (keys ▸ List.mem_map_of_mem member : c.key ∈ _)
    simp only [Command.key, ActionEntry.key, Prod.mk.injEq] at key
    simp only [Bool.and_eq_true, beq_iff_eq] at picked
    exact ⟨spec, found, e, entry, key.1.trans picked.1, key.2.trans picked.2⟩
  · rintro ⟨spec', found', e, entry, rfl, rfl⟩
    obtain rfl : spec' = spec := Option.some.inj (found'.symm.trans found)
    obtain ⟨c, member, key⟩ := List.mem_map.mp (keys.symm ▸ List.mem_map_of_mem entry : e.key ∈ _)
    simp only [Command.key, ActionEntry.key, Prod.mk.injEq] at key
    exact ⟨c, member, by simp [key]⟩

/-- What the script renders is what its path reads as. -/
theorem Renders.readsText {cwd : Location} {dir : Path} (dirAt : stat t cwd dir.bytes = .ok (D, .dir))
    (named : ScriptVersion version) (renders : Renders t D tag m version d cmds q) :
    ReadsText t cwd (artifactPath dir version d) (artifactText cmds q tag) := by
  refine ⟨_, ?_, Text.Utf8.decode?_toUTF8 _⟩
  rw [artifactPath_eq_join]
  exact readAt_join_of_file dirAt (slash_not_mem_scriptName named d) (ofPart_scriptName version d)
    renders.2.2

/-- The first block of a name and type on one line, in a rendered script, is the SQL of the first
command with that name and type. -/
theorem Renders.find? (plain : Block.PlainTag tag.toList) (framed : m.Framed)
    (renders : Renders t D tag m version d cmds q) {name objectType : String}
    (query : '\n' ∉ name.toList ∧ '\n' ∉ objectType.toList) (unmarked : Unmarked tag name objectType cmds) :
    Block.find? (artifactText cmds q tag) name objectType tag =
      (cmds.find? fun c => c.name == name && c.objectType == objectType).map Command.sql := by
  -- the commands carry the entries' names and types, which keep marker lines whole
  have whole : ∀ c ∈ cmds, Block.Framed c.name.toList c.objectType.toList := fun c member => by
    obtain ⟨spec, found, e, entry, named, typed⟩ := renders.exists_entry member
    rw [← named, ← typed]
    exact (framed.entry found entry).1
  have clean := unmarked.1
  simp only [Block.beginMarker_toList, Block.endMarker_toList] at clean
  rw [Block.find?_eq_search, Block.beginMarker_toList, Block.endMarker_toList,
    Block.search_artifactText plain query renders.1 cmds whole clean unmarked.2, Option.map_map]
  congr 1
  funext c
  simp

end Renders

/-! ### The search among the earlier up scripts -/

theorem mem_priorScripts {dir : Path} {built : List String} {v : String} {c : Path} :
    c ∈ priorScripts dir built v ↔ ∃ u ∈ built, u < v ∧ artifactPath dir u .up = c := by
  simp [priorScripts, -String.lt_iff_ltb, and_assoc]

theorem sortedSet_eq_self {xs : List String} (sorted : xs.Pairwise (· < ·)) : sortedSet xs = xs :=
  (pairwise_sortedSet xs).eq_of_mem_iff sorted fun _ => mem_sortedSet

/-- A gapless prefix holds every version of the manifest below one of its own. -/
theorem GaplessPrefix.mem_of_lt {m : Manifest} {built : List String} (gapless : GaplessPrefix m built)
    {u v : String} (above : v ∈ built) (member : u ∈ m.versions) (below : u < v) : u ∈ built := by
  by_contra missing
  exact lt_asymm below (((gapless v).mp above).2 u member missing)

/-- The up scripts below a target, over the chain the target is built on, are those of the
manifest's versions below it. -/
theorem priorScripts_targets {dir : Path} {m : Manifest} {S : ChainState} {target : Option String}
    {ts : List String} {v : String} (ordered : m.Ordered) (selected : S.selectTargets m target = .ok ts)
    (member : v ∈ ts) : priorScripts dir (sortedSet (S.up ++ ts)) v = priorScripts dir m.versions v := by
  have gapless := ChainState.gaplessPrefix_append_targets ordered selected
  have same : ∀ u, u < v → (u ∈ S.up ++ ts ↔ u ∈ m.versions) := fun u below =>
    ⟨fun built => ((gapless u).mp built).1,
      fun inM => gapless.mem_of_lt (List.mem_append_right _ member) inM below⟩
  rw [priorScripts_sortedSet_congr same, sortedSet_eq_self ordered]

section Search

variable {t : Tree} {cwd : Location} {dir : Path} {m : Manifest} {name objectType tag : String}

theorem ReadsText.unique {t : Tree} {cwd : Location} {path : Path} {text text' : String}
    (reads : ReadsText t cwd path text) (reads' : ReadsText t cwd path text') : text = text' := by
  obtain ⟨bytes, read, decoded⟩ := reads
  obtain ⟨bytes', read', decoded'⟩ := reads'
  obtain rfl : bytes = bytes' := Except.ok.inj (read.symm.trans read')
  exact Option.some.inj (decoded.symm.trans decoded')

/-- No first block is found where every candidate reads as a text without one. -/
theorem FirstBlock.false_of_all_none {candidates : List Path} {body : String} {source : Path}
    (first : FirstBlock t cwd name objectType tag candidates body source)
    (none : ∀ c ∈ candidates, ∃ text, ReadsText t cwd c text ∧ Block.find? text name objectType tag = none) :
    False := by
  obtain ⟨pre, rest, split, -, text, reads, found⟩ := first
  obtain ⟨text', reads', missing⟩ := none source (by simp [split])
  rw [reads.unique reads', missing] at found
  simp at found

/-- Among the up scripts below `v`, the latest first, the first block is the one in the up script
of `w` when `w` has one and none of the versions between them has. -/
theorem FirstBlock.eq_closest (ordered : m.Ordered) {v w bodyW body : String} {source : Path}
    (first : FirstBlock t cwd name objectType tag (priorScripts dir m.versions v) body source)
    (member : w ∈ m.versions) (below : w < v)
    (atW : ∃ text, ReadsText t cwd (artifactPath dir w .up) text ∧
      Block.find? text name objectType tag = some bodyW)
    (between : ∀ u ∈ m.versions, w < u → u < v → ∃ text,
      ReadsText t cwd (artifactPath dir u .up) text ∧ Block.find? text name objectType tag = none) :
    source = artifactPath dir w .up ∧ body = bodyW := by
  obtain ⟨pre, rest, split, passed, text, reads, found⟩ := first
  obtain ⟨textW, readsW, foundW⟩ := atW
  -- the source is the up script of a version `u` below `v`, the versions before it all above it
  obtain ⟨front, back, versions, rfl, atSource⟩ := List.map_eq_append_iff.mp split
  obtain ⟨u, later, rfl, rfl, -⟩ := List.map_eq_cons_iff.mp atSource
  have descending : (front ++ u :: later).Pairwise (· > ·) :=
    versions ▸ List.pairwise_reverse.mpr (ordered.filter _)
  have listed : ∀ x, x ∈ front ++ u :: later ↔ x ∈ m.versions ∧ x < v := fun x => by
    rw [← versions, List.mem_reverse, List.mem_filter, decide_eq_true_iff]
  obtain ⟨inM, low⟩ := (listed u).mp (by simp)
  rcases lt_trichotomy u w with older | rfl | newer
  · -- `w` lies above the source, so its script came before and held no block
    have early : w ∈ front := by
      rcases List.mem_append.mp ((listed w).mpr ⟨member, below⟩) with early | late
      · exact early
      · rcases List.mem_cons.mp late with rfl | after
        · exact absurd older (lt_irrefl _)
        · exact absurd (List.rel_of_pairwise_cons (List.pairwise_append.mp descending).2.1 after)
            (lt_asymm older)
    obtain ⟨text', reads', missing⟩ := passed _ (List.mem_map_of_mem early)
    rw [readsW.unique reads', missing] at foundW
    simp at foundW
  · rw [reads.unique readsW, foundW] at found
    exact ⟨rfl, (Option.some.inj found).symm⟩
  · obtain ⟨text', reads', missing⟩ := between u inM newer low
    rw [reads.unique reads', missing] at found
    simp at found

end Search

/-! ### Builds one after another, with edits between them -/

section Moved

variable {t t' : Tree} {cwd cwd' : Location}

/-- A first block found among candidates that read the same in another tree is found there too. -/
theorem FirstBlock.congr {name objectType tag : String} {candidates : List Path} {body : String}
    {source : Path} (same : ∀ c ∈ candidates, readAt t' cwd' c.bytes = readAt t cwd c.bytes)
    (first : FirstBlock t cwd name objectType tag candidates body source) :
    FirstBlock t' cwd' name objectType tag candidates body source := by
  have moved : ∀ c ∈ candidates, ∀ text, ReadsText t cwd c text → ReadsText t' cwd' c text :=
    fun c member text ⟨bytes, read, decoded⟩ => ⟨bytes, (same c member).trans read, decoded⟩
  obtain ⟨pre, rest, split, passed, text, reads, found⟩ := first
  refine ⟨pre, rest, split, fun c member => ?_, text, moved source (by simp [split]) text reads, found⟩
  obtain ⟨text', reads', missing⟩ := passed c member
  exact ⟨text', moved c (by simp [split, member]) text' reads', missing⟩

/-- Scripts stay compiled in another tree that holds them and reads their candidates the same. -/
theorem Compiled.congr {s : Settings} {D : Location} {m : Manifest} {p : Provenance}
    {prior : List Path} {log log' : List Event} {version : String}
    (compiled : Compiled t cwd s D m p prior log version)
    (scripts : ∀ d, t'.get? (D ++ [scriptName version d]) = t.get? (D ++ [scriptName version d]))
    (same : ∀ c ∈ prior, readAt t' cwd' c.bytes = readAt t cwd c.bytes) (grown : log <:+: log') :
    Compiled t' cwd' s D m p prior log' version := by
  obtain ⟨spec, found, written⟩ := compiled
  refine ⟨spec, found, fun d => ?_⟩
  obtain ⟨commands, file, resolved⟩ := written d
  refine ⟨commands, (scripts d).trans file, resolved.imp fun e c resolves => ⟨resolves.1, fun rollback => ?_⟩⟩
  obtain ⟨source, first, reported⟩ := resolves.2 rollback
  exact ⟨source, first.congr same, reported.trans grown⟩

end Moved

/-- A change to the world between builds, such as an edit of the sources: the world stays ready
for a build from the same working directory, the log only grows, and the migration directory keeps
its chain and the scripts of every version built. -/
structure Edit (s : Settings) (text : String) (D : Location) (h h₁ : Host) : Prop where
  ready : BuildReady s text D h₁
  cwd : h₁.cwd = h.cwd
  log : h.events.toList <+: h₁.events.toList
  chain : chainOf h₁.tree h₁.cwd s.migrationDir D = chainOf h.tree h.cwd s.migrationDir D
  scripts : ∀ v ∈ (chainOf h.tree h.cwd s.migrationDir D).up, ∀ d,
    h₁.tree.get? (D ++ [scriptName v d]) = h.tree.get? (D ++ [scriptName v d])

/-- `h'` follows from `h` by successful builds, each with a footer on one line, and edits between
them. -/
inductive Rebuilt (s : Settings) (text : String) (D : Location) : Host → Host → Prop
  | refl (h : Host) : Rebuilt s text D h h
  | build {h h₁ h' : Host} {target : Option String} {p : Provenance} {r : BuildResult} :
      p.OneLine → Host.run (buildWithProvenance s target p) h = (.ok r, h₁) →
      Rebuilt s text D h₁ h' → Rebuilt s text D h h'
  | edit {h h₁ h' : Host} : Edit s text D h h₁ → Rebuilt s text D h₁ h' → Rebuilt s text D h h'

/-- What builds keep: the world is ready, the chain valid, and each version built has scripts
compiled for its entries under a footer on one line, its rollbacks resolved among the up scripts
of the manifest's versions below it and reported in the log. -/
structure ChainCompiled (s : Settings) (text : String) (m : Manifest) (D : Location) (h : Host) :
    Prop where
  ready : BuildReady s text D h
  valid : (chainOf h.tree h.cwd s.migrationDir D).Valid m
  compiled : ∀ v ∈ (chainOf h.tree h.cwd s.migrationDir D).up, ∃ p, p.OneLine ∧
    Compiled h.tree h.cwd s D m p (priorScripts s.migrationDir m.versions v) h.events.toList v

namespace ChainCompiled

variable {s : Settings} {text : String} {m : Manifest} {D : Location} {h h₁ h' : Host}

theorem of_empty (ready : BuildReady s text D h)
    (empty : (Host.run (scanArtifacts s.migrationDir) h).1 = .ok {}) : ChainCompiled s text m D h := by
  have start : chainOf h.tree h.cwd s.migrationDir D = {} := Except.ok.inj (ready.scan.symm.trans empty)
  refine ⟨ready, by rw [start]; exact ChainState.valid_empty, fun v member => ?_⟩
  rw [start] at member
  exact absurd member List.not_mem_nil

/-- A build adds its targets to the chain, each compiled over the chain with the targets before it,
so among the up scripts of all versions below it. -/
theorem build (parsed : Manifest.parse text = .ok m) (named : ∀ v ∈ m.versions, ScriptVersion v)
    (before : ChainCompiled s text m D h) {target : Option String} {p : Provenance} {r : BuildResult}
    (oneLine : p.OneLine) (ran : Host.run (buildWithProvenance s target p) h = (.ok r, h₁)) :
    ChainCompiled s text m D h₁ := by
  have ordered := Manifest.parse_ordered parsed
  obtain ⟨ts, selected, -, built, cwd, -, ⟨evs, grown⟩, compiled⟩ :=
    (Host.run_of_triple (buildWithProvenance_resolves h.world h.events.toList s target p parsed named D
      before.ready.dirAt before.ready.linked before.ready.held) ⟨rfl, rfl⟩).1 r h₁ ran
  simp only [Host.world_tree, Host.world_cwd] at selected built cwd compiled
  have targetsNamed : ∀ v ∈ ts, ScriptVersion v :=
    fun v member => named v (ChainState.mem_versions_of_selectTargets selected member)
  have chain := built.chainOf before.ready.dirAt before.ready.linked targetsNamed
  refine ⟨before.ready.built targetsNamed built cwd, ?_, fun v member => ?_⟩
  · rw [cwd, chain]
    exact ChainState.valid_append_targets ordered selected
  · rw [cwd, chain] at member
    rw [cwd]
    simp only [ChainState.ofLists, mem_sortedSet, List.mem_append] at member
    rcases member with old | new
    · obtain ⟨q, oneLine', compiled'⟩ := before.compiled v old
      exact ⟨q, oneLine', compiled'.extends built.extends
        (by rw [grown]; exact (List.prefix_append _ _).isInfix)⟩
    · exact ⟨p, oneLine, priorScripts_targets ordered selected new ▸ compiled v new⟩

/-- An edit keeps the scripts of the chain, so the up scripts their rollbacks looked in read the
same. -/
theorem edit (named : ∀ v ∈ m.versions, ScriptVersion v) (before : ChainCompiled s text m D h)
    (edit : Edit s text D h h₁) : ChainCompiled s text m D h₁ := by
  refine ⟨edit.ready, by rw [edit.chain]; exact before.valid, fun v member => ?_⟩
  rw [edit.chain] at member
  obtain ⟨q, oneLine, compiled⟩ := before.compiled v member
  refine ⟨q, oneLine, compiled.congr (edit.scripts v member) (fun c listed => ?_) edit.log.isInfix⟩
  -- a candidate is the up script of a version below `v`, built too, so a file the edit kept
  obtain ⟨u, inM, below, rfl⟩ := mem_priorScripts.mp listed
  have built := before.valid.2.mem_of_lt member inM below
  obtain ⟨_, -, spec, -, written⟩ := before.compiled u built
  obtain ⟨commands, file, -⟩ := written .up
  rw [artifactPath_eq_join,
    readAt_join_of_file edit.ready.dirAt (slash_not_mem_scriptName (named u inM) .up)
      (ofPart_scriptName u .up) ((edit.scripts u built .up).trans file),
    readAt_join_of_file before.ready.dirAt (slash_not_mem_scriptName (named u inM) .up)
      (ofPart_scriptName u .up) file]

end ChainCompiled

/-- Builds and edits from a world where the chain compiled keep it so. -/
theorem Rebuilt.chainCompiled {s : Settings} {text : String} {m : Manifest} {D : Location}
    (parsed : Manifest.parse text = .ok m) (named : ∀ v ∈ m.versions, ScriptVersion v) {h h' : Host}
    (runs : Rebuilt s text D h h') (start : ChainCompiled s text m D h) : ChainCompiled s text m D h' := by
  induction runs with
  | refl => exact start
  | build oneLine ran _ ih => exact ih (start.build parsed named oneLine ran)
  | edit edit _ ih => exact ih (start.edit named edit)

/-! ### What a rollback restores -/

theorem exists_getElem?_of_forall₂ {α β : Type} {R : α → β → Prop} {xs : List α} {ys : List β}
    (related : List.Forall₂ R xs ys) {i : Nat} {x : α} (found : xs[i]? = some x) :
    ∃ y, ys[i]? = some y ∧ R x y := by
  induction related generalizing i with
  | nil => simp at found
  | cons head _ ih =>
    cases i with
    | zero =>
      obtain rfl := Option.some.inj found
      exact ⟨_, rfl, head⟩
    | succ i => exact ih found

theorem keys_eq_of_resolves {t : Tree} {cwd : Location} {tag : String} {prior : List Path}
    {log : List Event} {version : String} {d : Direction} {entries : List ActionEntry}
    {cmds : List Command} (resolved : List.Forall₂ (Resolves t cwd tag prior log version d) entries cmds) :
    cmds.map Command.key = entries.map ActionEntry.key := by
  induction resolved with
  | nil => rfl
  | cons head _ ih => simp [head.1, ih]

theorem scriptName_ne_lockName (version : String) (d : Direction) : scriptName version d ≠ lockName := by
  intro same
  have last := congrArg List.getLast? same
  simp [scriptName_eq, lockName_eq] at last

theorem scriptName_inj {u v : String} {d d' : Direction} (same : scriptName u d = scriptName v d') :
    u = v ∧ d = d' := by
  have names : artifactFileName u d = artifactFileName v d' := by
    simpa only [scriptName, Text.Utf8.decodeLossy_toUTF8] using congrArg Text.Utf8.decodeLossy same
  exact Prod.mk.inj (artifactFileName_injective (show Function.uncurry artifactFileName (u, d) =
    Function.uncurry artifactFileName (v, d') from names))

/-- A build that leaves `version` out of what it built leaves both of its scripts as they were. -/
theorem Built.get?_script {t t' : Tree} {D : Location} {done : List String} {version : String}
    (built : Built t t' D done) (left : version ∉ done) (d : Direction) :
    t'.get? (D ++ [scriptName version d]) = t.get? (D ++ [scriptName version d]) := by
  obtain ⟨lock, sub, adds⟩ := built
  refine adds.get?_of_not_mem fun added => ?_
  obtain ⟨n, member, same⟩ := List.mem_map.mp added
  obtain rfl : n = scriptName version d := List.singleton_inj.mp (List.append_cancel_left same)
  rcases List.mem_append.mp member with locked | written
  · exact scriptName_ne_lockName version d (List.mem_singleton.mp (sub.subset locked))
  · obtain ⟨u, doneU, named⟩ := List.mem_flatMap.mp written
    obtain ⟨d', same'⟩ : ∃ d', scriptName version d = scriptName u d' := by
      simp only [scriptNames, List.mem_cons, List.not_mem_nil, or_false] at named
      rcases named with up | down
      · exact ⟨.up, up⟩
      · exact ⟨.down, down⟩
    exact left ((scriptName_inj same').1 ▸ doneU)

section Rollback

variable {t : Tree} {cwd : Location} {s : Settings} {D : Location} {m : Manifest} {p : Provenance}
  {log : List Event} {v : String} {spec : BuildSpec} {d : Direction} {e : ActionEntry}

/-- A compiled script renders its commands, and entry `i` has its command at place `i`. -/
theorem Compiled.command {prior : List Path} (compiled : Compiled t cwd s D m p prior log v)
    (oneLine : p.OneLine) (found : m.spec? v = some spec) {i : Nat} (entry : (spec.actions d)[i]? = some e) :
    ∃ cmds, Renders t D s.markerTag m v d cmds p ∧ ∃ c, cmds[i]? = some c ∧
      Resolves t cwd s.markerTag prior log v d e c := by
  obtain ⟨spec', found', written⟩ := compiled
  obtain rfl : spec' = spec := Option.some.inj (found'.symm.trans found)
  obtain ⟨cmds, file, resolved⟩ := written d
  obtain ⟨c, placed, resolves⟩ := exists_getElem?_of_forall₂ resolved entry
  exact ⟨cmds, ⟨oneLine, ⟨spec', found', keys_eq_of_resolves resolved⟩, file⟩, c, placed, resolves⟩

variable (plain : Block.PlainTag s.markerTag.toList) (framed : m.Framed)
  (named : ∀ v ∈ m.versions, ScriptVersion v)
include plain framed named

/-- A compiled rollback needs a version below whose up entries define the object, wherever the up
scripts below render commands free of the object's marker lines: the search would find no block. -/
theorem Compiled.definesUp_of_rollback (dirAt : stat t cwd s.migrationDir.bytes = .ok (D, .dir))
    (compiled : Compiled t cwd s D m p (priorScripts s.migrationDir m.versions v) log v)
    (oneLine : p.OneLine) (found : m.spec? v = some spec) (entry : e ∈ spec.actions d)
    (rollback : e.action = .rollback)
    (clean : ∀ u ∈ m.versions, u < v → ∃ cmds q, Renders t D s.markerTag m u .up cmds q ∧
      Unmarked s.markerTag e.name e.objectType cmds) :
    ∃ u ∈ m.versions, u < v ∧ DefinesUp m u e.name e.objectType := by
  obtain ⟨i, placed⟩ := List.mem_iff_getElem?.mp entry
  obtain ⟨-, -, c, -, -, resolved⟩ := compiled.command oneLine found placed
  obtain ⟨source, first, -⟩ := resolved rollback
  have query := framed.entry found entry
  by_contra undefined
  refine first.false_of_all_none fun c listed => ?_
  obtain ⟨u, inM, below, rfl⟩ := mem_priorScripts.mp listed
  obtain ⟨cmds, q, renders, unmarked⟩ := clean u inM below
  refine ⟨_, renders.readsText dirAt (named u inM), ?_⟩
  rw [renders.find? plain framed ⟨query.2, query.1.typeNoBreak⟩ unmarked, Option.map_eq_none_iff,
    ← Option.not_isSome_iff_eq_none, renders.find?_isSome_iff]
  exact fun defines => undefined ⟨u, inM, below, defines⟩

end Rollback

namespace ChainCompiled

variable {s : Settings} {text : String} {m : Manifest} {D : Location} {h : Host} {v : String}
  {spec : BuildSpec} {d : Direction} {e : ActionEntry}
  (plain : Block.PlainTag s.markerTag.toList) (framed : m.Framed)
  (named : ∀ v ∈ m.versions, ScriptVersion v)
include plain framed named

/-- A rollback in a version of the chain took the first command of its object in the up script of
the closest version below that defines it, when the up scripts from there to below the version
render commands free of the object's marker lines; the log reports that script as the source. -/
theorem rollback_closest (ordered : m.Ordered) (chain : ChainCompiled s text m D h)
    (built : v ∈ (chainOf h.tree h.cwd s.migrationDir D).up) (found : m.spec? v = some spec) {i : Nat}
    (entry : (spec.actions d)[i]? = some e) (rollback : e.action = .rollback) {w : String}
    (closest : ClosestDefinition m v e.name e.objectType w)
    (clean : ∀ u ∈ m.versions, w ≤ u → u < v → ∃ cmds q, Renders h.tree D s.markerTag m u .up cmds q ∧
      Unmarked s.markerTag e.name e.objectType cmds) :
    ∃ cmds q, Renders h.tree D s.markerTag m v d cmds q ∧ ∃ c, cmds[i]? = some c ∧
      (∀ cmdsW qW, Renders h.tree D s.markerTag m w .up cmdsW qW →
        Unmarked s.markerTag e.name e.objectType cmdsW →
        (cmdsW.find? fun c => c.name == e.name && c.objectType == e.objectType).map Command.sql =
          some c.sql) ∧
      [.rollbackResolved e.name e.objectType (artifactPath s.migrationDir w .up),
        .commandCompiled v d.name e.name e.objectType] <:+: h.events.toList := by
  obtain ⟨p, oneLine, compiled⟩ := chain.compiled v built
  obtain ⟨cmds, renders, c, placed, -, resolved⟩ := compiled.command oneLine found entry
  obtain ⟨source, first, reported⟩ := resolved rollback
  obtain ⟨inW, below, defines, between⟩ := closest
  have framedE := framed.entry found (List.mem_of_getElem? entry)
  have query : '\n' ∉ e.name.toList ∧ '\n' ∉ e.objectType.toList := ⟨framedE.2, framedE.1.typeNoBreak⟩
  have dirAt := chain.ready.dirAt
  -- the scripts of the versions between `w` and `v` hold no block of the object
  have missing : ∀ u ∈ m.versions, w < u → u < v → ∃ text,
      ReadsText h.tree h.cwd (artifactPath s.migrationDir u .up) text ∧
        Block.find? text e.name e.objectType s.markerTag = none := by
    intro u inM above low
    obtain ⟨cmdsU, q, rendersU, unmarkedU⟩ := clean u inM above.le low
    refine ⟨_, rendersU.readsText dirAt (named u inM), ?_⟩
    rw [rendersU.find? plain framed query unmarkedU, Option.map_eq_none_iff,
      ← Option.not_isSome_iff_eq_none, rendersU.find?_isSome_iff]
    exact between u inM above low
  -- the script of `w` holds the block of its first command of the object
  obtain ⟨cmdsW, qW, rendersW, unmarkedW⟩ := clean w inW le_rfl below
  obtain ⟨cW, firstW⟩ := Option.isSome_iff_exists.mp (rendersW.find?_isSome_iff.mpr defines)
  have foundW : Block.find? (artifactText cmdsW qW s.markerTag) e.name e.objectType s.markerTag =
      some cW.sql := by
    rw [rendersW.find? plain framed query unmarkedW, firstW, Option.map_some]
  have readsW := rendersW.readsText dirAt (named w inW)
  obtain ⟨rfl, same⟩ := first.eq_closest ordered inW below ⟨_, readsW, foundW⟩ missing
  refine ⟨cmds, p, renders, c, placed, fun cmdsW' qW' rendersW' unmarkedW' => ?_, reported⟩
  rw [← rendersW'.find? plain framed query unmarkedW',
    (rendersW'.readsText dirAt (named w inW)).unique readsW, foundW, same]

/-- A build that selects a version rolling back an object no version below defines fails, and
writes neither script of that version, when the up scripts below it render commands free of the
object's marker lines: compiling the version would find no block. -/
theorem rollback_undefined_fails (parsed : Manifest.parse text = .ok m)
    (chain : ChainCompiled s text m D h) (found : m.spec? v = some spec) (entry : e ∈ spec.actions d)
    (rollback : e.action = .rollback)
    (undefined : ∀ u ∈ m.versions, u < v → ¬ DefinesUp m u e.name e.objectType)
    {target : Option String} {p : Provenance} {r : Except Error BuildResult} {h' : Host}
    (oneLine : p.OneLine) (ran : Host.run (buildWithProvenance s target p) h = (r, h'))
    {ts : List String} (selected : (chainOf h.tree h.cwd s.migrationDir D).selectTargets m target = .ok ts)
    (targeted : v ∈ ts)
    (clean : ∀ u ∈ m.versions, u < v → ∃ cmds q, Renders h'.tree D s.markerTag m u .up cmds q ∧
      Unmarked s.markerTag e.name e.objectType cmds) :
    (∃ err, r = .error err) ∧
      ∀ d', h'.tree.get? (D ++ [scriptName v d']) = h.tree.get? (D ++ [scriptName v d']) := by
  have ordered := Manifest.parse_ordered parsed
  obtain ⟨succeeded, failed⟩ := Host.run_of_triple (buildWithProvenance_resolves h.world h.events.toList
    s target p parsed named D chain.ready.dirAt chain.ready.linked chain.ready.held) ⟨rfl, rfl⟩
  -- the version's scripts, compiled in the tree left, would have resolved the rollback
  have never : ∀ log, stat h'.tree h.cwd s.migrationDir.bytes = .ok (D, .dir) →
      ¬ Compiled h'.tree h.cwd s D m p (priorScripts s.migrationDir m.versions v) log v :=
    fun log dirAt compiled => by
      obtain ⟨u, inM, below, defines⟩ :=
        compiled.definesUp_of_rollback plain framed named dirAt oneLine found entry rollback clean
      exact undefined u inM below defines
  rcases r with err | result
  · obtain ⟨done, stage, built, -, -⟩ := failed err h' ran
    simp only [Host.world_tree, Host.world_cwd] at stage built
    refine ⟨⟨err, rfl⟩, built.get?_script fun doneV => ?_⟩
    rcases stage with rfl | ⟨ts', v', selected', -, compiled⟩
    · exact List.not_mem_nil doneV
    · obtain rfl : ts' = ts := Except.ok.inj (selected'.symm.trans selected)
      obtain ⟨log, compiledV⟩ := compiled v doneV
      rw [priorScripts_targets ordered selected targeted] at compiledV
      exact never log (stat_eq_of_extends built.extends chain.ready.dirAt) compiledV
  · obtain ⟨ts', selected', -, built, -, -, -, compiled⟩ := succeeded result h' ran
    simp only [Host.world_tree, Host.world_cwd] at selected' built compiled
    obtain rfl : ts' = ts := Except.ok.inj (selected'.symm.trans selected)
    have compiledV := compiled v targeted
    rw [priorScripts_targets ordered selected targeted] at compiledV
    exact absurd compiledV (never _ (stat_eq_of_extends built.extends chain.ready.dirAt))

end ChainCompiled

/-- The manifest table of a version, under the TOML key `key`, with the up action `up` and the down
action `down` on the object `name` of type `objectType`. -/
def actionsVersion (key name objectType up down : String) : String :=
  "[" ++ key ++ "]\nup = [\x7bname = \"" ++ name ++ "\", type = \"" ++ objectType ++
    "\", action = \"" ++ up ++ "\"\x7d]\ndown = [\x7bname = \"" ++ name ++ "\", type = \"" ++
    objectType ++ "\", action = \"" ++ down ++ "\"\x7d]\n"

/-- A schema the first version creates and the second drops, restored when the second is undone. -/
def restoreSample : String :=
  actionsVersion "0001" "s" "schema" "create" "drop" ++
    actionsVersion "0002" "s" "schema" "drop" "rollback"

/-- The spec the second version of `restoreSample` reads as. -/
def restoreSpec : BuildSpec := ⟨[⟨"s", "schema", .drop⟩], [⟨"s", "schema", .rollback⟩]⟩

/-- Three versions on one schema, the second under a key that holds a line feed: the first drops the
schema, the second creates it, and the third rolls it back. -/
def lineFeedSample : String :=
  actionsVersion "0001" "s" "schema" "drop" "drop" ++
    actionsVersion "\"0002\\n\"" "s" "schema" "create" "drop" ++
    actionsVersion "0003" "s" "schema" "rollback" "drop"

end Migrator
