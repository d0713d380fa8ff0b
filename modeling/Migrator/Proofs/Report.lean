import Mathlib
import Migrator.Status.Chain
import Migrator.Proofs.Host

/-! The text report of a chain status. A digest is shown cut at byte twelve, or whole when it is
shorter, and a cut is only possible at a character boundary (`takeBytes_eq_some_iff`). So a
status has a report exactly when every digest of its built versions has a boundary there
(`ChainStatus.report_exists_iff_digests_cut`); one with a wider character across byte twelve has
none. The statuses the chain check builds always have one, since their digests are hexadecimal
(`chainStatus_report_exists`). -/
namespace Migrator

open Std.Do

set_option mvcgen.warning false

/-! ### Cutting characters at a byte -/

/-- Cutting characters at byte `n` gives the prefix that takes `n` bytes, or all of them when
there are fewer; there is none when byte `n` falls inside a character. -/
theorem takeBytes_eq_some_iff {n : Nat} {cs p : List Char} :
    takeBytes n cs = some p ↔ p <+: cs ∧ String.utf8Len p = min n (String.utf8Len cs) := by
  fun_induction takeBytes n cs generalizing p with
  | case1 cs =>
    simp only [Option.some.injEq, Nat.zero_min, String.utf8Len_eq_zero]
    exact ⟨fun empty => ⟨empty ▸ List.nil_prefix, empty.symm⟩, fun ⟨_, empty⟩ => empty.symm⟩
  | case2 n =>
    simp only [Option.some.injEq, List.prefix_nil, String.utf8Len_nil, Nat.min_zero]
    exact ⟨fun empty => ⟨empty.symm, empty ▸ rfl⟩, fun ⟨empty, _⟩ => empty.symm⟩
  | case3 n c rest width fits =>
    rename_i ih
    simp only [width] at fits ih
    rw [Option.map_eq_some_iff]
    constructor
    · rintro ⟨q, taken, rfl⟩
      obtain ⟨before, length⟩ := ih.mp taken
      refine ⟨List.cons_prefix_cons.mpr ⟨rfl, before⟩, ?_⟩
      simp only [String.utf8Len_cons, Nat.succ_eq_add_one]
      omega
    · rintro ⟨before, length⟩
      -- the cut is past the first character, so the prefix holds it
      cases p with
      | nil =>
        simp only [String.utf8Len_nil, String.utf8Len_cons, Nat.succ_eq_add_one] at length
        have := Char.utf8Size_pos c
        omega
      | cons d q =>
        obtain ⟨rfl, rest⟩ := List.cons_prefix_cons.mp before
        simp only [String.utf8Len_cons, Nat.succ_eq_add_one] at length
        exact ⟨q, ih.mpr ⟨rest, by omega⟩, rfl⟩
  | case4 n c rest width =>
    rename_i wide
    simp only [width] at wide
    simp only [reduceCtorEq, false_iff, not_and]
    intro before length
    -- byte `n` falls inside the first character: no prefix ends there
    cases p with
    | nil =>
      simp only [String.utf8Len_nil, String.utf8Len_cons, Nat.succ_eq_add_one] at length
      have := Char.utf8Size_pos c
      omega
    | cons d q =>
      obtain ⟨rfl, -⟩ := List.cons_prefix_cons.mp before
      simp only [String.utf8Len_cons, Nat.succ_eq_add_one] at length
      omega

/-- Some prefix of the characters takes exactly `k` bytes exactly when byte `k` is a character
boundary of their text. -/
theorem exists_prefix_utf8Len_iff_isValid {cs : List Char} {k : Nat} :
    (∃ p, p <+: cs ∧ String.utf8Len p = k) ↔ (⟨k⟩ : String.Pos.Raw).IsValid (String.ofList cs) := by
  rw [String.Pos.Raw.isValid_ofList]
  constructor
  · rintro ⟨p, ⟨rest, rfl⟩, rfl⟩
    exact ⟨p.length, by simp [String.utf8ByteSize_ofList]⟩
  · rintro ⟨i, cut⟩
    exact ⟨cs.take i, List.take_prefix i cs, by simp_all [String.utf8ByteSize_ofList]⟩

/-- ASCII characters can be cut at any byte. -/
theorem takeBytes_isSome_of_ascii {n : Nat} {cs : List Char} (ascii : ∀ c ∈ cs, c.utf8Size = 1) :
    (takeBytes n cs).isSome := by
  fun_induction takeBytes n cs with
  | case1 => rfl
  | case2 => rfl
  | case3 n c rest width fits =>
    rename_i ih
    simpa using ih fun c' later => ascii c' (List.mem_cons_of_mem c later)
  | case4 n c rest width =>
    rename_i wide
    have one := ascii c List.mem_cons_self
    simp only [width, one] at wide
    omega

/-! ### How a digest is shown -/

/-- How the report shows a digest: `missing` when there is none, else its first `min 12 n` bytes,
`n` its length in bytes. -/
def ShowsDigest : Option String → String → Prop
  | none, shown => shown = "missing"
  | some d, shown => shown.toList <+: d.toList ∧ shown.utf8ByteSize = min 12 d.utf8ByteSize

theorem shortDigest_eq_some_iff {digest : Option String} {shown : String} :
    shortDigest digest = some shown ↔ ShowsDigest digest shown := by
  cases digest with
  | none => simp [shortDigest, ShowsDigest, eq_comm]
  | some d =>
    simp only [shortDigest, ShowsDigest, Option.map_eq_some_iff, takeBytes_eq_some_iff]
    constructor
    · rintro ⟨p, ⟨before, length⟩, rfl⟩
      simp [before, String.utf8ByteSize_ofList, length, String.utf8Len_toList]
    · rintro ⟨before, length⟩
      exact ⟨shown.toList, ⟨before, by simp [String.utf8Len_toList, length]⟩, by simp⟩

/-- A digest can be cut exactly when byte `min 12 n` is a character boundary of it. -/
theorem shortDigest_isSome_iff {d : String} :
    (shortDigest (some d)).isSome ↔ (⟨min 12 d.utf8ByteSize⟩ : String.Pos.Raw).IsValid d := by
  rw [← String.ofList_toList (s := d), ← exists_prefix_utf8Len_iff_isValid, String.ofList_toList]
  simp only [shortDigest, Option.isSome_map, Option.isSome_iff_exists, takeBytes_eq_some_iff,
    String.utf8Len_toList]

theorem shortDigest_isSome_iff_forall {digest : Option String} :
    (shortDigest digest).isSome ↔ ∀ d, digest = some d →
      (⟨min 12 d.utf8ByteSize⟩ : String.Pos.Raw).IsValid d := by
  cases digest with
  | none => simp [shortDigest]
  | some d => simp [shortDigest_isSome_iff]

/-- Hexadecimal digits are ASCII. -/
theorem hexDigit_ascii {n : Nat} (small : n < 16) : (Sha256.hexDigit n).utf8Size = 1 := by
  have low : (Sha256.hexDigit n).toNat ≤ 127 := by
    unfold Sha256.hexDigit
    split <;> rw [Char.toNat_ofNat] <;> split <;> omega
  exact Char.utf8Size_eq_one_iff.mpr (UInt32.le_iff_toNat_le.mpr low)

theorem hex_ascii (bytes : List UInt8) : ∀ c ∈ (Sha256.hex bytes).toList, c.utf8Size = 1 := by
  intro c member
  simp only [Sha256.hex, String.toList_ofList, List.mem_flatMap, List.mem_cons,
    List.not_mem_nil, or_false] at member
  obtain ⟨b, -, rfl | rfl⟩ := member
  all_goals exact hexDigit_ascii (by have := b.toNat_lt; omega)

/-- A hexadecimal digest can always be cut. -/
theorem shortDigest_hex (bytes : List UInt8) : (shortDigest (some (Sha256.hex bytes))).isSome := by
  simpa [shortDigest] using takeBytes_isSome_of_ascii (n := 12) (hex_ascii bytes)

/-! ### The lines of the report -/

/-- A traversal in `Option` gives values exactly when each element gives the matching one. -/
theorem mapM_option_eq_some {α β : Type} {f : α → Option β} :
    ∀ {xs : List α} {ys : List β}, xs.mapM f = some ys ↔ List.Forall₂ (fun a b => f a = some b) xs ys
  | [], ys => by cases ys <;> simp
  | x :: xs, ys => by
    simp only [List.mapM_cons, Option.bind_eq_bind, Option.bind_eq_some_iff, Option.pure_def,
      Option.some.injEq, mapM_option_eq_some]
    cases ys with
    | nil => simp
    | cons y ys => simp [eq_comm]

/-- A traversal in `Option` gives values exactly when every element gives one. -/
theorem mapM_option_isSome {α β : Type} {f : α → Option β} :
    ∀ {xs : List α}, (xs.mapM f).isSome ↔ ∀ x ∈ xs, (f x).isSome
  | [] => by simp
  | x :: xs => by
    cases made : f x with
    | none => simp [made]
    | some y =>
      simp only [List.mapM_cons, Option.bind_eq_bind, made, Option.bind_some, Option.pure_def,
        List.mem_cons, forall_eq_or_imp, Option.isSome_some, true_and]
      rw [← mapM_option_isSome]
      cases (xs.mapM f) <;> simp

/-- The line of a built version shows its version and its two digests cut. -/
theorem line_eq_some_iff {b : BuiltVersion} {line : String} :
    b.line = some line ↔ ∃ up down, ShowsDigest b.upDigest up ∧ ShowsDigest b.downDigest down ∧
      line = "  " ++ b.version ++ "  up " ++ up ++ "  down " ++ down ++ "\n" := by
  simp only [BuiltVersion.line, Option.bind_eq_bind, Option.bind_eq_some_iff, Option.pure_def,
    Option.some.injEq, shortDigest_eq_some_iff]
  constructor
  · rintro ⟨up, shownUp, down, shownDown, rfl⟩
    exact ⟨up, down, shownUp, shownDown, rfl⟩
  · rintro ⟨up, down, shownUp, shownDown, rfl⟩
    exact ⟨up, shownUp, down, shownDown, rfl⟩

theorem line_isSome_iff_shortDigest {b : BuiltVersion} :
    b.line.isSome ↔ (shortDigest b.upDigest).isSome ∧ (shortDigest b.downDigest).isSome := by
  cases up : shortDigest b.upDigest <;> cases down : shortDigest b.downDigest <;>
    simp [BuiltVersion.line, up, down]

/-- A built version has a line exactly when each of its digests cuts at a character boundary. -/
theorem line_isSome_iff {b : BuiltVersion} :
    b.line.isSome ↔ ∀ d, b.upDigest = some d ∨ b.downDigest = some d →
      (⟨min 12 d.utf8ByteSize⟩ : String.Pos.Raw).IsValid d := by
  simp only [line_isSome_iff_shortDigest, shortDigest_isSome_iff_forall, or_imp, forall_and]

/-- A status has a report exactly when each of its built versions has a line. -/
theorem report_isSome_iff {s : ChainStatus} : s.report.isSome ↔ ∀ b ∈ s.built, b.line.isSome := by
  rw [← mapM_option_isSome]
  unfold ChainStatus.report
  cases s.built.mapM BuiltVersion.line <;> simp

/-- A report is the header, the lines of the built versions in order, and the rest. -/
theorem report_lines {s : ChainStatus} {r : String} (reported : s.report = some r) :
    ∃ lines, List.Forall₂ (fun b line => b.line = some line) s.built lines ∧
      ∃ rest, r = "=== odyssey status ===\n" ++ "Manifest versions: " ++ toString s.manifestVersions ++
        "\n" ++ "Built: " ++ toString s.built.length ++ "\n" ++ String.join lines ++ rest := by
  simp only [ChainStatus.report, Option.bind_eq_bind, Option.bind_eq_some_iff, Option.pure_def,
    Option.some.injEq] at reported
  obtain ⟨lines, mapped, rfl⟩ := reported
  exact ⟨lines, mapM_option_eq_some.mp mapped, _, String.append_assoc⟩

/-- Every computation meets the triple that asks nothing. -/
theorem triple_true {α : Type} (act : HostM α) :
    ⦃fun _ => ⌜True⌝⦄ act ⦃post⟨fun _ _ => ⌜True⌝, fun _ _ => ⌜True⌝⟩⦄ := by
  intro h _
  simp only [wp, PredTrans.apply]
  cases act.run h <;> simp

/-- The digest of a file is hexadecimal. -/
theorem hashFile_hex (path : Path) :
    ⦃fun _ => ⌜True⌝⦄ hashFile path
    ⦃post⟨fun d _ => ⌜∃ bytes, d = Sha256.hex bytes⌝, fun _ _ => ⌜True⌝⟩⦄ := by
  have reads := triple_true (Host.readBytes path)
  mvcgen [hashFile, reads]
  all_goals exact ⟨_, rfl⟩

theorem digestIfPresent_cuts (s : Settings) (version : String) (direction : Direction) :
    ⦃fun _ => ⌜True⌝⦄ digestIfPresent s version direction
    ⦃post⟨fun digest _ => ⌜(shortDigest digest).isSome⌝, fun _ _ => ⌜True⌝⟩⦄ := by
  have hashes := hashFile_hex (artifactPath s.migrationDir version direction)
  mvcgen [digestIfPresent, Host.isFile, hashes]
  -- only a regular file is hashed, and its digest is hexadecimal
  rename_i hex
  obtain ⟨bytes, rfl⟩ := hex
  exact shortDigest_hex bytes

/-- A traversal whose steps each give a value meeting `P` gives only such values. -/
theorem mapM_all {α β : Type} {f : α → HostM β} {P : β → Prop}
    (each : ∀ x, ⦃fun _ => ⌜True⌝⦄ f x ⦃post⟨fun y _ => ⌜P y⌝, fun _ _ => ⌜True⌝⟩⦄) (xs : List α) :
    ⦃fun _ => ⌜True⌝⦄ xs.mapM f ⦃post⟨fun ys _ => ⌜∀ y ∈ ys, P y⌝, fun _ _ => ⌜True⌝⟩⦄ := by
  induction xs with
  | nil =>
    rw [List.mapM_nil]
    mvcgen
    simp
  | cons x xs ih =>
    rw [List.mapM_cons]
    have first := each x
    mvcgen [first, ih]
    all_goals simp_all

theorem builtVersion_has_line (s : Settings) (version : String) :
    ⦃fun _ => ⌜True⌝⦄ builtVersion s version
    ⦃post⟨fun b _ => ⌜b.line.isSome⌝, fun _ _ => ⌜True⌝⟩⦄ := by
  have up := digestIfPresent_cuts s version .up
  have down := digestIfPresent_cuts s version .down
  mvcgen [builtVersion, up, down]
  exact line_isSome_iff_shortDigest.mpr ⟨‹_›, ‹_›⟩

theorem chainStatus_has_report (s : Settings) :
    ⦃fun _ => ⌜True⌝⦄ chainStatus s ⦃post⟨fun st _ => ⌜st.report.isSome⌝, fun _ _ => ⌜True⌝⟩⦄ := by
  have loads := triple_true (loadManifest s.manifest)
  have scans := triple_true (scanArtifacts s.migrationDir)
  have lines := mapM_all (builtVersion_has_line s)
  mvcgen [chainStatus, loads, scans, lines]
  exact report_isSome_iff.mpr ‹_›

/-- Every status the chain check returns has a text report: its digests are hexadecimal. -/
theorem chainStatus_report_exists (s : Settings) (h : Host) {st : ChainStatus}
    (ran : (Host.run (chainStatus s) h).1 = .ok st) : ∃ r, st.report = some r := by
  obtain ⟨reported, -⟩ := Host.run_of_triple (chainStatus_has_report s) (h := h) trivial
  cases result : Host.run (chainStatus s) h with
  | mk r h' =>
    rw [result] at ran
    cases ran
    exact Option.isSome_iff_exists.mp (reported st h' result)

end Migrator
