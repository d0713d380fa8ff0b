import Migrator.Cli.Pattern
import Migrator.Event
import Migrator.Text.Alnum
import Migrator.Text.Blank
import Migrator.Text.Utf8

/-!
Events as log lines, and which of them a run prints. A line is the level, the message, then the
event's fields as `name=value`. Without `RUST_LOG` a run prints events at level info and above,
or debug and above when verbose.

`RUST_LOG` holds comma-separated directives. A directive that reads as a level (a name in any
ASCII case, or a number from 0 to 5, a `+` allowed) is that level for every target. Otherwise it
is read character by character after trimming white space: a target (up to `=` or `[`), a span
in brackets, field names in braces inside them, and `=level` (trace when the level is empty).
Positions found in the trimmed text cut the text as given, so white space around a directive
stays in its target or level. A directive with a span, or with a field value, never applies to
these events, though the value must still be a boolean, a number or a pattern that compiles. A
target applies when it is a prefix of the events' target, and field names when the event has
them. The most specific applicable directive decides. A value with a directive that does not
read leaves the default.
-/
namespace Migrator.Cli

/-- The target every build event is logged under. -/
def eventTarget : String := "odyssey_db::events"

/-- The line a log shows for an event, without its time stamp. -/
def logLine (e : Event) : String :=
  let body := match e with
    | .noObjectHeader file => "no object header found, skipping file=" ++ file.display
    | .duplicateObject t n kept ignored =>
      "duplicate object definition, keeping first object_type=" ++ t ++ " name=" ++ n ++
        " kept=" ++ kept.display ++ " ignored=" ++ ignored.display
    | .sourcesIndexed files objects =>
      "indexed SQL sources files=" ++ toString files ++ " objects=" ++ toString objects
    | .manifestLoaded path versions =>
      "loaded manifest path=" ++ path.display ++ " versions=" ++ toString versions
    | .targetsSelected versions => "selected build targets targets=" ++ ", ".intercalate versions
    | .nothingToBuild => "all manifest versions are built"
    | .commandCompiled v d n t =>
      "compiled command version=" ++ v ++ " direction=" ++ d ++ " name=" ++ n ++ " object_type=" ++ t
    | .rollbackResolved n t source =>
      "resolved previous definition name=" ++ n ++ " object_type=" ++ t ++ " source=" ++
        source.display
    | .artifactExists path => "artifact already exists path=" ++ path.display
    | .artifactWritten path commands digest =>
      "wrote artifact path=" ++ path.display ++ " commands=" ++ toString commands ++ " digest=" ++
        digest
    | .failed category message => message ++ " category=" ++ category.name
  e.level.name ++ " " ++ body

/-- How much a level shows: 0 for off up to 5 for trace. -/
def levelVerbosity : Level → Nat
  | .error => 1
  | .warn => 2
  | .info => 3
  | .debug => 4

/-- The names of the fields an event's log line carries, its message included. -/
def fieldNames : Event → List String
  | .noObjectHeader .. => ["file", "message"]
  | .duplicateObject .. => ["object_type", "name", "kept", "ignored", "message"]
  | .sourcesIndexed .. => ["files", "objects", "message"]
  | .manifestLoaded .. => ["path", "versions", "message"]
  | .targetsSelected .. => ["targets", "message"]
  | .nothingToBuild => ["message"]
  | .commandCompiled .. => ["version", "direction", "name", "object_type", "message"]
  | .rollbackResolved .. => ["name", "object_type", "source", "message"]
  | .artifactExists .. => ["path", "message"]
  | .artifactWritten .. => ["path", "commands", "digest", "message"]
  | .failed .. => ["category", "message"]

/-- One filter directive: an optional target prefix, the span it is limited to if any, the field
names it asks for, whether it asks for a field's value, and a level from 0 (off) to 5 (trace). -/
structure Directive where
  target : Option String
  span : Option String
  fields : List String
  fieldValue : Bool
  level : Nat
deriving DecidableEq, Repr

/-- A level filter as text: a number from 0 (off) to 5 (trace), with an optional `+`, or a level
name in any ASCII case; the empty text is error. -/
def parseLevel (s : String) : Option Nat :=
  let cs := s.toList
  let digits := match cs with
    | '+' :: rest => rest
    | _ => cs
  let number := digits.foldl (fun n c => 10 * n + (c.toNat - 48)) 0
  if !digits.isEmpty && digits.all Char.isDigit then
    if number ≤ 5 then some number else none
  else
    match String.ofList (cs.map Char.toLower) with
    | "" | "error" => some 1
    | "off" => some 0
    | "warn" => some 2
    | "info" => some 3
    | "debug" => some 4
    | "trace" => some 5
    | _ => none

/-- Where the reader of one directive stands: before anything, in a target or level (from a
byte position), in a span, in a field name, after the fields, after a span, in a level, or done. -/
inductive DirectiveState where
  | start
  | levelOrTarget (from_ : Nat)
  | span (from_ : Nat)
  | field (from_ : Nat)
  | fields
  | target
  | level (from_ : Nat)
  | complete
deriving DecidableEq, Repr

/-- A field filter `name` or `name=value` (the text up to a second `=`), answering the name and
whether a value is asked for; the name may not be empty, and the value must be one a directive
accepts. -/
def fieldOf (s : String) : Option (String × Bool) :=
  match s.splitOn "=" with
  | [] | "" :: _ => none
  | [name] => some (name, false)
  | name :: value :: _ => if Pattern.acceptsValue value then some (name, true) else none

/-- One step of the directive reader at byte position `i` of the trimmed directive; `cut` takes
the text between two positions of the directive as given. -/
def directiveStep (cut : Nat → Nat → Option String) (acc : DirectiveState × Directive)
    (step : Nat × Char) : Option (DirectiveState × Directive) :=
  let (state, d) := acc
  let (i, c) := step
  match state, c with
  | .start, '[' => some (.span (i + 1), d)
  | .start, c =>
    if c == '-' || c == ':' || c == '_' || Text.isAlphanumeric c then some (.levelOrTarget i, d)
    else none
  | .levelOrTarget a, '=' => do some (.level (i + 1), { d with target := some (← cut a i) })
  | .levelOrTarget a, '[' => do some (.span (i + 1), { d with target := some (← cut a i) })
  | .levelOrTarget a, ',' => do some (.complete, { d with target := some (← cut a i) })
  | .levelOrTarget a, _ => some (.levelOrTarget a, d)
  | .target, '=' => some (.level (i + 1), d)
  | .span a, ']' => do some (.target, { d with span := some (← cut a i) })
  | .span a, '{' => do
    let name ← cut a i
    some (.field (i + 1), { d with span := if name.isEmpty then none else some name })
  | .span a, _ => some (.span a, d)
  | .field a, '}' => do
    let (name, value) ← fieldOf (← cut a i)
    some (.fields, { d with fields := d.fields ++ [name], fieldValue := d.fieldValue || value })
  | .field a, ',' => do
    let (name, value) ← fieldOf (← cut a i)
    some (.field (i + 1), { d with fields := d.fields ++ [name], fieldValue := d.fieldValue || value })
  | .field a, _ => some (.field a, d)
  | .fields, ']' => some (.target, d)
  | .level a, ',' => do
    let text ← cut a i
    some (.complete, { d with level := ← if text.isEmpty then some 5 else parseLevel text })
  | .level a, _ => some (.level a, d)
  | _, _ => none

/-- The characters of a text with the byte position where each starts. -/
def withPositions (cs : List Char) : List (Nat × Char) :=
  (cs.foldl (fun (acc : List (Nat × Char) × Nat) c => ((acc.2, c) :: acc.1, acc.2 + c.utf8Size))
    ([], 0)).1.reverse

/-- Reads one directive. -/
def parseDirective (s : String) : Option Directive :=
  match parseLevel s with
  | some l => some ⟨none, none, [], false, l⟩
  | none => do
    let bytes := s.toUTF8.toList
    let cut (a b : Nat) : Option String := Text.Utf8.decode? ((bytes.drop a).take (b - a))
    let (state, d) ← (withPositions (Text.trim s).toList).foldlM (directiveStep cut)
      (DirectiveState.start, ⟨none, none, [], false, 5⟩)
    match state with
    | .levelOrTarget a => do some { d with target := some (← cut a bytes.length) }
    | .level a => do
      let text ← cut a bytes.length
      some { d with level := ← if text.isEmpty then some 5 else parseLevel text }
    | .target | .complete => some d
    | _ => none

/-- Reads a `RUST_LOG` value: its directives, or `none` when one does not read. -/
def parseFilter (spec : String) : Option (List Directive) :=
  ((spec.splitOn ",").filter (· ≠ "")).mapM parseDirective

/-- Whether a directive speaks about an event: it names no span and asks for no field value, its
target prefixes the events' target, and the event has the fields it names. -/
def Directive.governs (d : Directive) (e : Event) : Bool :=
  d.span.isNone && !d.fieldValue && d.target.all (·.isPrefixOf eventTarget) &&
    d.fields.all (fieldNames e).contains

/-- Whether `a` is at least as specific as `b`: a longer target, then more field names, then
the later field names. -/
def Directive.atLeastAsSpecific (a b : Directive) : Bool :=
  let len (d : Directive) : Nat := (d.target.map fun t => t.length + 1).getD 0
  len a > len b || (len a == len b &&
    (a.fields.length > b.fields.length || (a.fields.length == b.fields.length &&
      decide (b.fields.toArray ≤ a.fields.toArray))))

/-- Whether directives let an event through: the most specific directive that speaks about it
decides, the later of two equal ones; with none, nothing shows. -/
def enabledBy (directives : List Directive) (e : Event) : Bool :=
  let best := (directives.filter (·.governs e)).foldl (fun acc d => match acc with
    | none => some d
    | some b => if d.atLeastAsSpecific b then some d else some b) none
  match best with
  | some d => levelVerbosity e.level ≤ d.level
  | none => false

/-- The directives of a run: from `RUST_LOG` when it reads, else info or, when verbose, debug. -/
def logDirectives (rustLog : Option String) (verbose : Bool) : List Directive :=
  let fallback : List Directive := [⟨none, none, [], false, if verbose then 4 else 3⟩]
  match rustLog with
  | some spec => (parseFilter spec).getD fallback
  | none => fallback

end Migrator.Cli
