import Migrator.Cli.Args
import Migrator.Cli.Json
import Migrator.Cli.Log
import Migrator.Build
import Migrator.Status.Chain
import Migrator.Migrate
import Migrator.Settings.Load

/-!
A run of the command line over the world. Settings come from the named file or the default one,
then the path options replace their fields as given (relative to the working directory) and
`--dialect` is read. Each command prints its result on standard output; the log lines of the
events go to standard error, followed by `Error: <message>` when the run fails, with the
system's own message under `Caused by:` for a file-system error. A failed run exits with 1; a
refused command line with 2.
-/
namespace Migrator.Cli

/-- What a run prints and how it exits. -/
structure Outcome where
  status : Nat
  stdout : String
  stderr : String
deriving DecidableEq, Repr

/-- Why a run failed: a library error, or a message of its own. -/
inductive Failure where
  | error (e : Error)
  | message (m : String)
deriving DecidableEq, Repr

/-- The text a failure ends standard error with. -/
def Failure.text : Failure → String
  | .error e =>
    "Error: " ++ e.message ++
      (match e.cause? with
        | some f => "\n\nCaused by:\n    " ++ f.message
        | none => "") ++ "\n"
  | .message m => "Error: " ++ m ++ "\n"

/-- The settings of a run. -/
def loadSettings (inv : Invocation) : HostM Settings := do
  let s ← Settings.load (inv.config.map Path.ofString)
  let s := match inv.sqlSrc with
    | some v => { s with sqlSrc := Path.ofString v }
    | none => s
  let s := match inv.migrationDir with
    | some v => { s with migrationDir := Path.ofString v }
    | none => s
  let s := match inv.manifest with
    | some v => { s with manifest := Path.ofString v }
    | none => s
  match inv.dialect with
  | some d => pure { s with dialect := ← Host.ofExcept (Dialect.parse d) }
  | none => pure s

/-- Lines, each ended by a line break. -/
def linesText (lines : List String) : String := String.join (lines.map (· ++ "\n"))

/-- The status of a chain as printed by `status --json`. -/
def statusDocument (s : ChainStatus) : JsonValue :=
  let opt (o : Option String) : JsonValue := match o with
    | some d => .str d
    | none => .null
  .obj [("manifest_versions", .num s.manifestVersions),
    ("built", .arr (s.built.map fun b =>
      .obj [("version", .str b.version), ("up_digest", opt b.upDigest),
        ("down_digest", opt b.downDigest)])),
    ("pending", .arr (s.pending.map .str)), ("integrity_error", opt s.integrityError)]

/-- The index as printed by `index --json`; none when a file path is not UTF-8 text, which
JSON cannot hold. -/
def indexDocument? (idx : ObjectIndex) : Option JsonValue := do
  let buckets ← idx.buckets.mapM fun (k, es) => do
    let entries ← es.mapM fun e => do
      pure (JsonValue.obj [("name", .str e.name), ("file", .str (← e.file.toText?))])
    pure (k, JsonValue.arr entries)
  pure (.obj [("buckets", .obj buckets)])

/-- The index as printed by `index`: each type, then its objects indented. -/
def indexText (idx : ObjectIndex) : String :=
  linesText (idx.buckets.flatMap fun (k, es) =>
    k :: es.map fun e => "  " ++ e.name ++ "  " ++ e.file.display)

/-- Performs a task: what it prints on standard output, and its failure if it fails. -/
def perform (s : Settings) (task : Task) (p : Provenance) : HostM (String × Option Failure) :=
  match task with
  | .build target => do
    let result ← build s target p
    if result.generated.isEmpty then pure ("Nothing to build\n", none)
    else pure (linesText (result.generated.flatMap fun g => [g.up.path.display, g.down.path.display]), none)
  | .migrate direction target => do
    let target := target.filter fun t => !(eqAsciiCase t "latest")
    let files ← planMigrationFiles s direction target
    pure (linesText (files.map Path.display), none)
  | .fixture action => pure ("", some (.message ("fixture " ++ action ++ " is not implemented")))
  | .status json => do
    let status ← chainStatus s
    let out := if json then (statusDocument status).pretty 0 ++ "\n" else (status.report.getD "")
    pure (out, status.integrityError.map .message)
  | .index json => do
    let engine ← Host.ofExcept s.dialect.engine
    let idx ← indexSources s.sqlSrc engine
    if json then
      match indexDocument? idx with
      | some doc => pure (doc.pretty 0 ++ "\n", none)
      | none => pure ("", some (.message "path contains invalid UTF-8 characters"))
    else pure (indexText idx, none)

/-- Runs the command line `args` with the environment `env`, stamping scripts with `clock`. -/
def run (args : List String) (env : List (String × String)) (clock : Timestamp) : HostM Outcome := do
  match parseRequest args env with
  | .version => pure ⟨0, "odyssey " ++ currentRelease ++ "\n", ""⟩
  | .help => pure ⟨0, "Database-first migration builder" ++ usageTail, ""⟩
  | .refuse message => pure ⟨2, "", message⟩
  | .run inv =>
    modify fun h => { h with events := #[] }
    let tool := (ToolVersion.ofRelease currentRelease).toOption.getD ⟨"0.3", currentRelease⟩
    let (out, failure) ← tryCatch (do perform (← loadSettings inv) inv.task (.ofTool tool clock))
      fun e => pure ("", some (.error e))
    let directives := logDirectives (env.lookup "RUST_LOG") inv.verbose
    let logs := (← get).events.toList.filter fun e => enabledBy directives e
    let stderr := linesText (logs.map logLine) ++ (failure.map Failure.text).getD ""
    pure ⟨if failure.isSome then 1 else 0, out, stderr⟩

end Migrator.Cli
