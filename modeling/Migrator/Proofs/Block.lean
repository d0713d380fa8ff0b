import Mathlib
import Migrator.Artifact
import Migrator.Command.Block
import Migrator.Settings

/-! Finding a command again in the artifact it was written to. An artifact is the rendering
of its commands followed by the footer; the block finder, asked for a name and type, returns
the SQL of the first command with that name and type, and nothing when there is none
(`find?_artifactText`). This needs the markers to stand on lines of their own: no `|` in names
and types, types without line feeds or a trailing blank or carriage return, SQL that holds no
marker of the name and type asked for and does not end in a carriage return, a footer without
line feeds, and a name and type asked for without line feeds. A line feed in the type asked
for lets its begin marker run over into the next line (`find?_artifactText_type_with_newline`).

The proof reads the finder as a plain search over start positions (`search`), then walks the
artifact line by line: no block of the name and type asked for starts inside a marker line of
another command, inside SQL, or in the footer. -/
namespace Migrator.Block

/-! ### The finder without its table -/

/-- The body of a block that starts at the front of `cs`, read directly: the begin marker, the
rest of its line, then the shortest body. -/
def blockFrom (beginMarker endMarker cs : List Char) : Option (List Char) :=
  match afterPrefix beginMarker cs with
  | some rest => (beginLineLength rest).bind fun n => bodyFrom endMarker (rest.drop n)
  | none => none

/-- The first block of `cs`, trying each start in order. -/
def search (beginMarker endMarker : List Char) : List Char → Option (List Char)
  | [] => none
  | c :: rest => (blockFrom beginMarker endMarker (c :: rest)).or (search beginMarker endMarker rest)

theorem afterPrefix_eq_some {marker cs rest : List Char} :
    afterPrefix marker cs = some rest ↔ cs = marker ++ rest := by
  induction marker generalizing cs with
  | nil => simp [afterPrefix, eq_comm]
  | cons m ms ih =>
    cases cs with
    | nil => simp [afterPrefix]
    | cons c cs =>
      by_cases same : m = c
      · subst same; simp [afterPrefix, ih]
      · simp [afterPrefix, same, Ne.symm same]

theorem drop_takeWhile_length (p : Char → Bool) (cs : List Char) :
    cs.drop (cs.takeWhile p).length = cs.dropWhile p := by
  induction cs with
  | nil => rfl
  | cons c cs ih => cases held : p c <;> simp [held, ih]

/-- A begin line ends at its first line feed, after blanks and an optional carriage return. -/
theorem beginLineLength_eq_some {cs : List Char} {k : Nat} (line : beginLineLength cs = some k) :
    ∃ pre post, cs = pre ++ '\n' :: post ∧ k = pre.length + 1 ∧
      ∀ x ∈ pre, isSpaceTab x = true ∨ x = '\r' := by
  unfold beginLineLength at line
  dsimp only at line
  rw [drop_takeWhile_length] at line
  have whole : cs = cs.takeWhile isSpaceTab ++ cs.dropWhile isSpaceTab :=
    List.takeWhile_append_dropWhile.symm
  have blanks : ∀ x ∈ cs.takeWhile isSpaceTab, isSpaceTab x = true ∨ x = '\r' :=
    fun x member => .inl (List.mem_takeWhile_imp member)
  split at line
  · -- the line ends in `\r\n`: the carriage return belongs to the line
    rename_i post after
    refine ⟨cs.takeWhile isSpaceTab ++ ['\r'], post, ?_, ?_, ?_⟩
    · rw [after] at whole
      simpa using whole
    · simp only [Option.some.injEq] at line
      simp [← line]
    · intro x member
      rcases List.mem_append.mp member with blank | cr
      · exact blanks x blank
      · exact .inr (List.mem_singleton.mp cr)
  · rename_i post after
    refine ⟨cs.takeWhile isSpaceTab, post, ?_, ?_, blanks⟩
    · rwa [after] at whole
    · simp only [Option.some.injEq] at line
      exact line.symm
  · contradiction

theorem beginLineLength_le {rest : List Char} {n : Nat} (line : beginLineLength rest = some n) :
    n ≤ rest.length := by
  obtain ⟨pre, post, rfl, rfl, -⟩ := beginLineLength_eq_some line
  simp

theorem headD_drop_bodyTable (endMarker cs : List Char) {k : Nat} (within : k ≤ cs.length) :
    ((bodyTable endMarker cs).drop k).headD none = bodyFrom endMarker (cs.drop k) := by
  induction cs generalizing k with
  | nil =>
    obtain rfl : k = 0 := by simpa using within
    rfl
  | cons c rest ih =>
    cases k with
    | zero => exact headD_bodyTable endMarker (c :: rest)
    | succ k =>
      rw [bodyTable_cons, List.drop_succ_cons, List.drop_succ_cons]
      exact ih (by simpa using within)

theorem blockAt_bodyTable (beginMarker endMarker cs : List Char) :
    blockAt beginMarker cs (bodyTable endMarker cs) = blockFrom beginMarker endMarker cs := by
  unfold blockAt blockFrom
  cases opened : afterPrefix beginMarker cs with
  | none => rfl
  | some rest =>
    dsimp only
    obtain rfl := afterPrefix_eq_some.mp opened
    cases line : beginLineLength rest with
    | none => rfl
    | some n =>
      have within : beginMarker.length + n ≤ (beginMarker ++ rest).length := by
        simpa using beginLineLength_le line
      simp only [Option.bind_some, headD_drop_bodyTable endMarker _ within,
        List.drop_length_add_append]

/-- The table lookups of `first` read the same bodies as the plain search. -/
theorem first_bodyTable (beginMarker endMarker cs : List Char) :
    first beginMarker cs (bodyTable endMarker cs) = search beginMarker endMarker cs := by
  induction cs with
  | nil => rfl
  | cons c rest ih =>
    simp only [first, search, blockAt_bodyTable]
    rw [bodyTable_cons, List.tail_cons, ih]
    cases blockFrom beginMarker endMarker (c :: rest) <;> rfl

theorem find?_eq_search (content name objectType tag : String) :
    find? content name objectType tag =
      (search (Command.beginMarker ⟨name, objectType, ""⟩ tag).toList
        (Command.endMarker ⟨name, objectType, ""⟩ tag).toList content.toList).map String.ofList := by
  simp only [find?, first_bodyTable]

/-! ### Lines -/

/-- A text without the separator `x` that opens a text with an `x` lies before that `x`. -/
theorem eq_append_of_append_cons {x : Char} {marker u v rest : List Char} (noSep : x ∉ marker)
    (h : u ++ x :: v = marker ++ rest) : ∃ w, u = marker ++ w ∧ rest = w ++ x :: v := by
  rcases List.append_eq_append_iff.mp h with ⟨a, rfl, tail⟩ | ⟨c, rfl, rfl⟩
  · cases a with
    | nil => exact ⟨[], by simp, by simpa using tail.symm⟩
    | cons y a =>
      obtain ⟨rfl, -⟩ := List.cons_eq_cons.mp tail
      exact absurd (by simp) noSep
  · exact ⟨c, rfl, rfl⟩

/-- Splitting at the first `x` is unique. -/
theorem eq_of_append_cons_eq {x : Char} {a b c d : List Char} (noSepA : x ∉ a) (noSepC : x ∉ c)
    (h : a ++ x :: b = c ++ x :: d) : a = c ∧ b = d := by
  obtain ⟨w, rfl, tail⟩ := eq_append_of_append_cons noSepC h
  cases w with
  | nil => simpa using tail.symm
  | cons y w =>
    obtain ⟨rfl, -⟩ := List.cons_eq_cons.mp tail
    exact absurd (by simp) noSepA

theorem isPrefix_of_closesHere {endMarker u z : List Char} (noBreak : '\n' ∉ endMarker)
    (closes : closesHere endMarker (u ++ '\n' :: z) = true) : endMarker <+: u := by
  unfold closesHere at closes
  split at closes
  · rename_i rest opened
    obtain ⟨w, rfl, -⟩ := eq_append_of_append_cons noBreak (afterPrefix_eq_some.mp opened)
    exact List.prefix_append _ _
  · contradiction

theorem bodyFrom_nil {endMarker : List Char} (nonempty : endMarker ≠ []) :
    bodyFrom endMarker [] = none := by
  obtain ⟨m, ms, rfl⟩ := List.exists_cons_of_ne_nil nonempty
  simp [bodyFrom, bodyEnds, closesHere, afterPrefix]

theorem closesHere_self (endMarker ys : List Char) :
    closesHere endMarker (endMarker ++ '\n' :: ys) = true := by
  have opened : afterPrefix endMarker (endMarker ++ '\n' :: ys) = some ('\n' :: ys) :=
    afterPrefix_eq_some.mpr rfl
  simp [closesHere, opened, isSpaceTab, atLineEnd]

/-- No body ends inside a line that holds no end marker, unless the line is a lone `\r`. -/
theorem bodyEnds_eq_false {endMarker u z : List Char} (noBreak : '\n' ∉ endMarker)
    (absent : ¬ endMarker <:+: u) (nonempty : u ≠ []) (notCR : u ≠ ['\r']) :
    bodyEnds endMarker (u ++ '\n' :: z) = false := by
  have inside : ∀ u', u' <:+ u → closesHere endMarker (u' ++ '\n' :: z) = false := by
    intro u' suffix
    by_contra closes
    exact absent ((isPrefix_of_closesHere noBreak (Bool.not_eq_false _ ▸ closes)).isInfix.trans
      suffix.isInfix)
  obtain ⟨x, u', rfl⟩ := List.exists_cons_of_ne_nil nonempty
  simp only [bodyEnds, Bool.or_eq_false_iff]
  refine ⟨⟨⟨inside _ (List.suffix_refl _), ?_⟩, ?_⟩, ?_⟩
  · -- a `\r\n` line end: `\r` and then the line feed of `u'` or the one after it
    by_cases cr : x = '\r'
    · subst cr
      cases u' with
      | nil => exact absurd rfl notCR
      | cons y u'' =>
        by_cases lf : y = '\n'
        · subst lf
          simpa using inside u'' ((List.suffix_cons _ _).trans (List.suffix_cons _ _))
        · simp [lf]
    · simp [cr]
  · by_cases cr : x = '\r'
    · subst cr; simpa using inside u' (List.suffix_cons _ _)
    · simp [cr]
  · by_cases lf : x = '\n'
    · subst lf; simpa using inside u' (List.suffix_cons _ _)
    · simp [lf]

/-- The shortest body before a closing end marker is the text up to it, when that text holds no
end marker and does not end in `\r`. -/
theorem bodyFrom_append_end {endMarker body ys : List Char} (noBreak : '\n' ∉ endMarker)
    (absent : ¬ endMarker <:+: body) (noCR : body.getLast? ≠ some '\r') :
    bodyFrom endMarker (body ++ '\n' :: (endMarker ++ '\n' :: ys)) = some body := by
  induction body with
  | nil =>
    simp [bodyFrom, bodyStep, bodyEnds, closesHere_self]
  | cons x body ih =>
    have rest : ¬ endMarker <:+: body := fun inner => absent (inner.trans (List.suffix_cons _ _).isInfix)
    have restCR : body.getLast? ≠ some '\r' := by
      cases body with
      | nil => simp
      | cons y body => simpa using noCR
    have notLone : x :: body ≠ ['\r'] := by
      rintro ⟨rfl, rfl⟩
      exact noCR rfl
    have ends : bodyEnds endMarker (x :: (body ++ '\n' :: (endMarker ++ '\n' :: ys))) = false :=
      bodyEnds_eq_false noBreak absent (List.cons_ne_nil _ _) notLone
    simp [bodyFrom, bodyStep, ends, ih rest restCR]

/-! ### Where no block starts -/

/-- The search passes over a line in which no block starts, and its line feed. -/
theorem search_skipLine {beginMarker endMarker u ys : List Char}
    (noBlock : ∀ w, w <:+ u → blockFrom beginMarker endMarker (w ++ '\n' :: ys) = none) :
    search beginMarker endMarker (u ++ '\n' :: ys) = search beginMarker endMarker ys := by
  induction u with
  | nil =>
    have here := noBlock [] List.nil_suffix
    rw [List.nil_append] at here ⊢
    rw [search, here, Option.none_or]
  | cons x u ih =>
    have here := noBlock (x :: u) (List.suffix_refl _)
    have later : ∀ w, w <:+ u → blockFrom beginMarker endMarker (w ++ '\n' :: ys) = none :=
      fun w suffix => noBlock w (suffix.trans (List.suffix_cons _ _))
    rw [List.cons_append] at here
    rw [List.cons_append, search, here, ih later, Option.none_or]

theorem search_eq_of_blockFrom {beginMarker endMarker cs body : List Char} (nonempty : cs ≠ [])
    (found : blockFrom beginMarker endMarker cs = some body) :
    search beginMarker endMarker cs = some body := by
  cases cs with
  | nil => contradiction
  | cons c cs => rw [search, found, Option.some_or]

theorem blockFrom_marker_append (beginMarker endMarker v : List Char) :
    blockFrom beginMarker endMarker (beginMarker ++ v) =
      (beginLineLength v).bind fun k => bodyFrom endMarker (v.drop k) := by
  rw [blockFrom, afterPrefix_eq_some.mpr rfl]

/-- A begin marker without line feeds opens no block at a line it does not open. -/
theorem blockFrom_eq_none_of_not_prefix {beginMarker endMarker w ys : List Char}
    (noBreak : '\n' ∉ beginMarker) (elsewhere : ¬ beginMarker <+: w) :
    blockFrom beginMarker endMarker (w ++ '\n' :: ys) = none := by
  unfold blockFrom
  cases opened : afterPrefix beginMarker (w ++ '\n' :: ys) with
  | none => rfl
  | some rest =>
    obtain ⟨v, rfl, -⟩ := eq_append_of_append_cons noBreak (afterPrefix_eq_some.mp opened)
    exact absurd (List.prefix_append _ _) elsewhere

/-- A begin marker followed on its line by something other than blanks opens no block. -/
theorem blockFrom_eq_none_of_trailing {beginMarker endMarker v ys : List Char}
    (noBreak : '\n' ∉ v) (stray : ∃ x ∈ v, isSpaceTab x = false ∧ x ≠ '\r') :
    blockFrom beginMarker endMarker (beginMarker ++ v ++ '\n' :: ys) = none := by
  rw [List.append_assoc, blockFrom_marker_append]
  cases line : beginLineLength (v ++ '\n' :: ys) with
  | none => rfl
  | some k =>
    obtain ⟨pre, post, split, -, blanks⟩ := beginLineLength_eq_some line
    have preLine : '\n' ∉ pre := fun member => by
      rcases blanks _ member with blank | cr
      · exact absurd blank (by decide)
      · exact absurd cr (by decide)
    obtain ⟨rfl, -⟩ := eq_of_append_cons_eq preLine noBreak split.symm
    obtain ⟨x, member, notBlank, notCR⟩ := stray
    rcases blanks x member with blank | cr
    · exact absurd blank (by simp [notBlank])
    · exact absurd cr notCR

/-- Nothing follows the last line, so no block starts in it. -/
theorem blockFrom_lastLine {beginMarker endMarker w : List Char} (noBreak : '\n' ∉ beginMarker)
    (nonempty : endMarker ≠ []) (lastLine : '\n' ∉ w) :
    blockFrom beginMarker endMarker (w ++ ['\n']) = none := by
  cases opened : afterPrefix beginMarker (w ++ ['\n']) with
  | none => simp [blockFrom, opened]
  | some rest =>
    obtain ⟨v, rfl, rfl⟩ := eq_append_of_append_cons noBreak (afterPrefix_eq_some.mp opened)
    rw [List.append_assoc, blockFrom_marker_append]
    cases line : beginLineLength (v ++ ['\n']) with
    | none => rfl
    | some k =>
      obtain ⟨pre, post, split, rfl, blanks⟩ := beginLineLength_eq_some line
      have preLine : '\n' ∉ pre := fun member => by
        rcases blanks _ member with blank | cr
        · exact absurd blank (by decide)
        · exact absurd cr (by decide)
      obtain ⟨rfl, rfl⟩ :=
        eq_of_append_cons_eq preLine (fun member => lastLine (by simp [member])) split.symm
      simp [bodyFrom_nil nonempty]

/-! ### Marker lines -/

/-- A marker line as characters: `-- TAG WORD |name|type`. -/
def markerLine (tag word name type : List Char) : List Char :=
  '-' :: '-' :: ' ' :: (tag ++ ' ' :: (word ++ ' ' :: '|' :: (name ++ '|' :: type)))

theorem beginMarker_toList (c : Command) (tag : String) :
    (c.beginMarker tag).toList =
      markerLine tag.toList "BEGIN".toList c.name.toList c.objectType.toList := by
  simp [Command.beginMarker, markerLine]

theorem endMarker_toList (c : Command) (tag : String) :
    (c.endMarker tag).toList =
      markerLine tag.toList "END".toList c.name.toList c.objectType.toList := by
  simp [Command.endMarker, markerLine]

theorem count_pipe_markerLine (tag word name type : List Char) (noPipe : '|' ∉ tag)
    (plainWord : '|' ∉ word) :
    (markerLine tag word name type).count '|' = name.count '|' + type.count '|' + 2 := by
  simp [markerLine, List.count_eq_zero_of_not_mem noPipe,
    List.count_eq_zero_of_not_mem plainWord]
  omega

/-- A marker opening with a dash, met in a text whose front has no dash, lies in the rest and
carries no more `|` than it. -/
theorem count_le_of_prefix_suffix {front rest w marker : List Char} (noDash : '-' ∉ front)
    (dash : marker.head? = some '-') (suffix : w <:+ front ++ rest) (opens : marker <+: w) :
    marker.count '|' ≤ rest.count '|' := by
  induction front with
  | nil => exact (opens.count_le '|').trans (suffix.count_le '|')
  | cons x front ih =>
    rcases List.suffix_cons_iff.mp suffix with rfl | later
    · cases marker with
      | nil => simp at dash
      | cons m marker =>
        have same : m = x := (List.cons_prefix_cons.mp opens).1
        simp only [List.head?_cons, Option.some.injEq] at dash
        exact absurd (by simp [← same, dash]) noDash
    · exact ih (fun member => noDash (List.mem_cons_of_mem _ member)) later

section MarkerLines

variable {tag name type n t : List Char}

/-- Past its first character, a marker line holds no marker of its own tag: such a marker
needs two `|`, and only one is left after the dashes. -/
theorem not_prefix_of_suffix_tail {word w : List Char} (noDash : '-' ∉ tag) (noPipe : '|' ∉ tag)
    (plainWord : '-' ∉ word) (nameNoPipe : '|' ∉ name) (typeNoPipe : '|' ∉ type)
    (suffix : w <:+ (markerLine tag word name type).tail) :
    ¬ markerLine tag "BEGIN".toList n t <+: w := by
  intro opens
  have front : (markerLine tag word name type).tail =
      '-' :: ' ' :: ((tag ++ ' ' :: (word ++ [' ', '|'])) ++ (name ++ '|' :: type)) := by
    simp [markerLine]
  rw [front] at suffix
  rcases List.suffix_cons_iff.mp suffix with rfl | suffix
  · simp [markerLine] at opens
  rcases List.suffix_cons_iff.mp suffix with rfl | suffix
  · simp [markerLine] at opens
  have fewer := count_le_of_prefix_suffix (by simp [noDash, plainWord]) (by simp [markerLine])
    suffix opens
  rw [count_pipe_markerLine _ _ _ _ noPipe (by decide)] at fewer
  simp [List.count_eq_zero_of_not_mem nameNoPipe, List.count_eq_zero_of_not_mem typeNoPipe]
    at fewer

/-- A begin marker never opens an end marker line. -/
theorem begin_not_prefix_end :
    ¬ markerLine tag "BEGIN".toList n t <+: markerLine tag "END".toList name type := by
  simp [markerLine]

/-- A begin marker opening another begin line names the same command, with a type that the
line's type goes on from. -/
theorem eq_of_begin_prefix_begin (nameNoPipe : '|' ∉ name) (typeNoPipe : '|' ∉ type)
    (opens : markerLine tag "BEGIN".toList n t <+: markerLine tag "BEGIN".toList name type) :
    name = n ∧ ∃ v, type = t ++ v := by
  obtain ⟨v, line⟩ := opens
  simp only [markerLine, List.cons_append, List.append_assoc, List.cons.injEq,
    List.append_cancel_left_eq, true_and] at line
  obtain ⟨rfl, -, rfl⟩ := (List.append_cons_inj_of_notMem nameNoPipe typeNoPipe).mp line.symm
  exact ⟨rfl, v, rfl⟩

end MarkerLines

/-- A tag that keeps marker lines apart: no dash, no `|`, no line feed. -/
structure PlainTag (tag : List Char) : Prop where
  noDash : '-' ∉ tag
  noPipe : '|' ∉ tag
  noBreak : '\n' ∉ tag

/-- A name and type that keep a marker line whole: neither holds a `|`, the type holds no line
feed, and it does not end in a space, a tab or a carriage return. -/
structure Framed (name type : List Char) : Prop where
  nameNoPipe : '|' ∉ name
  typeNoPipe : '|' ∉ type
  typeNoBreak : '\n' ∉ type
  typeEnd : type.getLast? ∉ [some ' ', some '\t', some '\r']

instance (name type : List Char) : Decidable (Framed name type) :=
  decidable_of_iff ('|' ∉ name ∧ '|' ∉ type ∧ '\n' ∉ type ∧
      type.getLast? ∉ [some ' ', some '\t', some '\r'])
    ⟨fun ⟨nameNoPipe, typeNoPipe, typeNoBreak, typeEnd⟩ =>
      ⟨nameNoPipe, typeNoPipe, typeNoBreak, typeEnd⟩,
      fun ⟨nameNoPipe, typeNoPipe, typeNoBreak, typeEnd⟩ =>
      ⟨nameNoPipe, typeNoPipe, typeNoBreak, typeEnd⟩⟩

theorem markerLine_append (tag word name type v : List Char) :
    markerLine tag word name (type ++ v) = markerLine tag word name type ++ v := by
  simp [markerLine]

theorem newline_not_mem_markerLine {tag word name type : List Char} (tagLine : '\n' ∉ tag)
    (wordLine : '\n' ∉ word) (nameLine : '\n' ∉ name) (typeLine : '\n' ∉ type) :
    '\n' ∉ markerLine tag word name type := by
  simp [markerLine, tagLine, wordLine, nameLine, typeLine]

section Lines

variable {tag n t name type endMarker ys w : List Char}

/-- No block of `n`/`t` starts within the begin line of another command. -/
theorem blockFrom_beginLine (plain : PlainTag tag) (query : '\n' ∉ n ∧ '\n' ∉ t)
    (framed : Framed name type) (other : ¬ (name = n ∧ type = t))
    (suffix : w <:+ markerLine tag "BEGIN".toList name type) :
    blockFrom (markerLine tag "BEGIN".toList n t) endMarker (w ++ '\n' :: ys) = none := by
  have noBreak := newline_not_mem_markerLine plain.noBreak (by decide : '\n' ∉ "BEGIN".toList)
    query.1 query.2
  rcases List.suffix_cons_iff.mp suffix with rfl | inner
  · by_cases opens : markerLine tag "BEGIN".toList n t <+: markerLine tag "BEGIN".toList name type
    · -- the marker of `n`/`t` opens the line, so the line's type goes on past `t`
      obtain ⟨rfl, v, rfl⟩ := eq_of_begin_prefix_begin framed.nameNoPipe framed.typeNoPipe opens
      have longer : v ≠ [] := by
        rintro rfl
        exact other ⟨rfl, by simp⟩
      obtain ⟨x, last⟩ := List.getLast?_isSome.mpr longer |> Option.isSome_iff_exists.mp
      have typeLast : (t ++ v).getLast? = some x := by
        rw [List.getLast?_append_of_ne_nil _ longer, last]
      have stray : isSpaceTab x = false ∧ x ≠ '\r' := by
        have lastChar := framed.typeEnd
        rw [typeLast] at lastChar
        simp only [List.mem_cons, Option.some.injEq, List.not_mem_nil, or_false, not_or]
          at lastChar
        simp [isSpaceTab, lastChar]
      show blockFrom _ endMarker (markerLine tag "BEGIN".toList name (t ++ v) ++ '\n' :: ys) = none
      rw [markerLine_append]
      exact blockFrom_eq_none_of_trailing
        (fun inV => framed.typeNoBreak (List.mem_append_right _ inV))
        ⟨x, List.mem_of_getLast? last, stray⟩
    · exact blockFrom_eq_none_of_not_prefix noBreak opens
  · exact blockFrom_eq_none_of_not_prefix noBreak
      (not_prefix_of_suffix_tail plain.noDash plain.noPipe (by decide) framed.nameNoPipe
        framed.typeNoPipe inner)

/-- No block starts within an end line. -/
theorem blockFrom_endLine (plain : PlainTag tag) (query : '\n' ∉ n ∧ '\n' ∉ t)
    (framed : Framed name type) (suffix : w <:+ markerLine tag "END".toList name type) :
    blockFrom (markerLine tag "BEGIN".toList n t) endMarker (w ++ '\n' :: ys) = none := by
  have noBreak := newline_not_mem_markerLine plain.noBreak (by decide : '\n' ∉ "BEGIN".toList)
    query.1 query.2
  rcases List.suffix_cons_iff.mp suffix with rfl | inner
  · exact blockFrom_eq_none_of_not_prefix noBreak begin_not_prefix_end
  · exact blockFrom_eq_none_of_not_prefix noBreak
      (not_prefix_of_suffix_tail plain.noDash plain.noPipe (by decide) framed.nameNoPipe
        framed.typeNoPipe inner)

end Lines

/-! ### Artifacts -/

theorem digits_padded (width n : Nat) :
    ∀ x ∈ (Timestamp.padded width n).toList, x.isDigit = true := by
  intro x member
  simp only [Timestamp.padded, String.toList_append, String.toList_ofList, List.mem_append,
    List.mem_replicate] at member
  rcases member with ⟨-, rfl⟩ | digit
  · decide
  · rw [Nat.toString_eq_ofList_toDigits, String.toList_ofList] at digit
    exact Nat.isDigit_of_mem_toDigits (by decide) (by decide) digit

/-- The text of an instant stays on one line. -/
theorem newline_not_mem_toText (t : Timestamp) : '\n' ∉ t.toText.toList := by
  have pad : ∀ w n, '\n' ∉ (Timestamp.padded w n).toList :=
    fun w n member => absurd (digits_padded w n _ member) (by decide)
  have year : ∀ y, '\n' ∉ (Timestamp.yearText y).toList := by
    intro y
    unfold Timestamp.yearText
    split_ifs <;> simp [pad]
  unfold Timestamp.toText
  generalize Timestamp.civilFromDays (t.seconds / 86400) = date
  obtain ⟨y, m, d⟩ := date
  simp [pad, year]

/-- A tag that validation accepts is made of ASCII letters, digits and underscores. -/
theorem plainTag_of_validateMarkerTag {raw tag : String}
    (accepted : validateMarkerTag raw = .ok tag) : PlainTag tag.toList := by
  unfold validateMarkerTag at accepted
  dsimp only at accepted
  split at accepted
  · contradiction
  · rename_i valid
    cases accepted
    simp only [Bool.or_eq_true, Bool.not_eq_true', not_or, Bool.not_eq_false] at valid
    have chars := List.all_eq_true.mp valid.2
    exact ⟨fun member => absurd (chars _ member) (by decide),
      fun member => absurd (chars _ member) (by decide),
      fun member => absurd (chars _ member) (by decide)⟩

theorem render_toList (c : Command) (tag : String) :
    (c.render tag).toList = '\n' :: ((c.beginMarker tag).toList ++ '\n' ::
      (c.sql.toList ++ '\n' :: ((c.endMarker tag).toList ++ ['\n']))) := by
  simp [Command.render]

theorem artifactText_cons (c : Command) (cs : List Command) (p : Provenance) (tag : String) :
    artifactText (c :: cs) p tag = c.render tag ++ artifactText cs p tag := by
  simp [artifactText, String.join_cons, String.append_assoc]

theorem footer_toList (p : Provenance) (tag : String) :
    (p.footer tag).toList = ("-- " ++ tag ++ " - Build Time UTC: " ++ p.builtAt.toText ++
      " - VERSION: " ++ p.version ++ " - RELEASE: " ++ p.release).toList ++ ['\n'] := by
  simp [Provenance.footer]

theorem beginLineLength_newline (ys : List Char) : beginLineLength ('\n' :: ys) = some 1 := by
  simp [beginLineLength, isSpaceTab]

section Search

variable {tag n t : String}

/-- The search passes over a line feed: no marker opens with one. -/
theorem search_newline {beginMarker endMarker : List Char} (noBreak : '\n' ∉ beginMarker)
    (nonempty : beginMarker ≠ []) (ys : List Char) :
    search beginMarker endMarker ('\n' :: ys) = search beginMarker endMarker ys := by
  have here : blockFrom beginMarker endMarker ([] ++ '\n' :: ys) = none :=
    blockFrom_eq_none_of_not_prefix noBreak fun opens => nonempty (List.prefix_nil.mp opens)
  rw [List.nil_append] at here
  rw [search, here, Option.none_or]

/-- The footer holds no block. -/
theorem search_footer (plain : PlainTag tag.toList) (query : '\n' ∉ n.toList ∧ '\n' ∉ t.toList)
    {p : Provenance} (stamp : '\n' ∉ p.version.toList ∧ '\n' ∉ p.release.toList) :
    search (markerLine tag.toList "BEGIN".toList n.toList t.toList)
      (markerLine tag.toList "END".toList n.toList t.toList) (p.footer tag).toList = none := by
  have noBreak := newline_not_mem_markerLine plain.noBreak (by decide : '\n' ∉ "BEGIN".toList)
    query.1 query.2
  have lastLine : '\n' ∉ ("-- " ++ tag ++ " - Build Time UTC: " ++ p.builtAt.toText ++
      " - VERSION: " ++ p.version ++ " - RELEASE: " ++ p.release).toList := by
    simp [plain.noBreak, newline_not_mem_toText, stamp.1, stamp.2]
  rw [footer_toList, search_skipLine fun w suffix =>
    blockFrom_lastLine noBreak (by simp [markerLine]) fun member => lastLine (suffix.subset member)]
  rfl

/-- One rendered command: the search returns its SQL when it is the command asked for, and
otherwise goes on past it. -/
theorem search_render_append (plain : PlainTag tag.toList)
    (query : '\n' ∉ n.toList ∧ '\n' ∉ t.toList) {c : Command}
    (framed : Framed c.name.toList c.objectType.toList)
    (unmarked : ¬ markerLine tag.toList "BEGIN".toList n.toList t.toList <:+: c.sql.toList ∧
      ¬ markerLine tag.toList "END".toList n.toList t.toList <:+: c.sql.toList)
    (noCR : c.name = n ∧ c.objectType = t → c.sql.toList.getLast? ≠ some '\r') (rest : List Char) :
    search (markerLine tag.toList "BEGIN".toList n.toList t.toList)
        (markerLine tag.toList "END".toList n.toList t.toList) ((c.render tag).toList ++ rest) =
      if c.name = n ∧ c.objectType = t then some c.sql.toList
      else search (markerLine tag.toList "BEGIN".toList n.toList t.toList)
        (markerLine tag.toList "END".toList n.toList t.toList) rest := by
  have noBreak := newline_not_mem_markerLine plain.noBreak (by decide : '\n' ∉ "BEGIN".toList)
    query.1 query.2
  have endBreak := newline_not_mem_markerLine plain.noBreak (by decide : '\n' ∉ "END".toList)
    query.1 query.2
  rw [render_toList, beginMarker_toList, endMarker_toList]
  simp only [List.cons_append, List.append_assoc, List.nil_append]
  rw [search_newline noBreak (by simp [markerLine])]
  by_cases same : c.name = n ∧ c.objectType = t
  · -- the command's own begin line opens its block, which closes at its own end line
    obtain ⟨named, typed⟩ := same
    rw [if_pos ⟨named, typed⟩, named, typed]
    apply search_eq_of_blockFrom (by simp [markerLine])
    rw [blockFrom_marker_append, beginLineLength_newline, Option.bind_some, List.drop_one,
      List.tail_cons]
    exact bodyFrom_append_end endBreak unmarked.2 (noCR ⟨named, typed⟩)
  · rw [if_neg same]
    have other : ¬ (c.name.toList = n.toList ∧ c.objectType.toList = t.toList) := by
      simpa [String.toList_inj] using same
    rw [search_skipLine fun w suffix => blockFrom_beginLine plain query framed other suffix,
      search_skipLine fun w suffix => blockFrom_eq_none_of_not_prefix noBreak fun opens =>
        unmarked.1 (opens.isInfix.trans suffix.isInfix),
      search_skipLine fun w suffix => blockFrom_endLine plain query framed suffix]

/-- The search over a whole artifact stops at the first command asked for. -/
theorem search_artifactText (plain : PlainTag tag.toList)
    (query : '\n' ∉ n.toList ∧ '\n' ∉ t.toList) {p : Provenance}
    (stamp : '\n' ∉ p.version.toList ∧ '\n' ∉ p.release.toList) (cs : List Command)
    (framed : ∀ c ∈ cs, Framed c.name.toList c.objectType.toList)
    (unmarked : ∀ c ∈ cs, ¬ markerLine tag.toList "BEGIN".toList n.toList t.toList <:+: c.sql.toList ∧
      ¬ markerLine tag.toList "END".toList n.toList t.toList <:+: c.sql.toList)
    (noCR : ∀ c ∈ cs.find? (fun c => c.name == n && c.objectType == t),
      c.sql.toList.getLast? ≠ some '\r') :
    search (markerLine tag.toList "BEGIN".toList n.toList t.toList)
        (markerLine tag.toList "END".toList n.toList t.toList) (artifactText cs p tag).toList =
      (cs.find? fun c => c.name == n && c.objectType == t).map (·.sql.toList) := by
  induction cs with
  | nil => simpa [artifactText] using search_footer plain query stamp
  | cons c cs ih =>
    have ownCR : c.name = n ∧ c.objectType = t → c.sql.toList.getLast? ≠ some '\r' := by
      intro same
      apply noCR c
      simp [same]
    rw [artifactText_cons, String.toList_append,
      search_render_append plain query (framed c (by simp)) (unmarked c (by simp)) ownCR]
    by_cases same : c.name = n ∧ c.objectType = t
    · rw [if_pos same, List.find?_cons_of_pos (by simp [same]), Option.map_some]
    · have skipped : (c.name == n && c.objectType == t) = false := by simpa using same
      rw [List.find?_cons_of_neg (by simp [skipped])] at noCR
      rw [if_neg same, List.find?_cons_of_neg (by simp [skipped])]
      exact ih (fun c member => framed c (by simp [member]))
        (fun c member => unmarked c (by simp [member])) noCR

end Search

/-- An artifact gives back, for a name and type on one line, the SQL of the first command with
that name and type, and nothing when there is none. -/
theorem find?_artifactText {raw tag n t : String} {cs : List Command} {p : Provenance}
    (accepted : validateMarkerTag raw = .ok tag)
    (framed : ∀ c ∈ cs, Framed c.name.toList c.objectType.toList)
    (unmarked : ∀ c ∈ cs,
      ¬ (Command.beginMarker ⟨n, t, ""⟩ tag).toList <:+: c.sql.toList ∧
        ¬ (Command.endMarker ⟨n, t, ""⟩ tag).toList <:+: c.sql.toList)
    (noCR : ∀ c ∈ cs.find? (fun c => c.name == n && c.objectType == t),
      c.sql.toList.getLast? ≠ some '\r')
    (stamp : '\n' ∉ p.version.toList ∧ '\n' ∉ p.release.toList)
    (query : '\n' ∉ n.toList ∧ '\n' ∉ t.toList) :
    find? (artifactText cs p tag) n t tag =
      (cs.find? fun c => c.name == n && c.objectType == t).map Command.sql := by
  simp only [beginMarker_toList, endMarker_toList] at unmarked
  rw [find?_eq_search, beginMarker_toList, endMarker_toList,
    search_artifactText (plainTag_of_validateMarkerTag accepted) query stamp cs framed unmarked noCR,
    Option.map_map]
  congr 1
  funext c
  simp

/-- The first of two commands named `users` of type `table` is found, past a command whose type
only starts with `table`. -/
theorem find?_artifactText_users_table :
    find? (artifactText [⟨"users", "table x", "create table x (\n  id int\n);"⟩,
        ⟨"users", "table", "create table users (id int);"⟩, ⟨"users", "table", "drop table users;"⟩]
        ⟨⟨1704164645, false⟩, "0.3", "0.3.0"⟩ "ODESSEY") "users" "table" "ODESSEY" =
      some "create table users (id int);" :=
  (find?_artifactText (by decide : validateMarkerTag "ODESSEY" = .ok "ODESSEY") (by decide)
    (by decide) (by decide) (by decide) (by decide)).trans (by decide)

/-- A type asked for with a line feed in it reaches past the begin line: the finder returns the
empty SQL of the command `a`/`b`, though no command has the type `b` and a line feed. -/
theorem find?_artifactText_type_with_newline :
    validateMarkerTag "ODESSEY" = .ok "ODESSEY" ∧
      (∀ c ∈ ([⟨"a", "b", ""⟩, ⟨"c", "d", "e"⟩] : List Command),
        Framed c.name.toList c.objectType.toList ∧
        ¬ (Command.beginMarker ⟨"a", "b\n", ""⟩ "ODESSEY").toList <:+: c.sql.toList ∧
        ¬ (Command.endMarker ⟨"a", "b\n", ""⟩ "ODESSEY").toList <:+: c.sql.toList) ∧
      find? (artifactText [⟨"a", "b", ""⟩, ⟨"c", "d", "e"⟩] ⟨⟨1704164645, false⟩, "0.3", "0.3.0"⟩
        "ODESSEY") "a" "b\n" "ODESSEY" = some "" ∧
      ([⟨"a", "b", ""⟩, ⟨"c", "d", "e"⟩] : List Command).find?
        (fun c => c.name == "a" && c.objectType == "b\n") = none :=
  ⟨by decide, by decide, by decide +kernel, by decide⟩

end Migrator.Block
