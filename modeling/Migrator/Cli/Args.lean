import Migrator.Manifest.Basic

/-!
The command line: `odyssey [OPTIONS] <COMMAND>`. The options `-c`/`--config`, `--sql-src`,
`--migration-dir`, `--manifest`, `--dialect` and `-v`/`--verbose` may stand before or after the
command; each path option falls back to its `ODYSSEY_*` variable. The commands are `build
[-t TARGET]`, `migrate [up|down] [-t TARGET]`, `fixture load|dump`, `status [--json]` and
`index [--json]`; `-V`/`--version` before the command prints the version. A value follows its
option as the next argument, after `=`, or (for a short option) right after the letter; a path
may not be empty. Anything else is refused with a usage message.
-/
namespace Migrator.Cli

/-- What a run does. -/
inductive Task where
  | build (target : Option String)
  | migrate (direction : Direction) (target : Option String)
  | fixture (action : String)
  | status (json : Bool)
  | index (json : Bool)
deriving DecidableEq, Repr

/-- A command line that asks for a run. -/
structure Invocation where
  config : Option String := none
  sqlSrc : Option String := none
  migrationDir : Option String := none
  manifest : Option String := none
  dialect : Option String := none
  verbose : Bool := false
  task : Task
deriving DecidableEq, Repr

/-- What a command line asks for. -/
inductive Request where
  | run (inv : Invocation)
  | version
  | help
  /-- A command line that does not parse, with the message that says why. -/
  | refuse (message : String)
deriving DecidableEq, Repr

/-- The options that take a value and may stand anywhere, by long name. -/
def globalOptions : List String := ["config", "sql-src", "migration-dir", "manifest", "dialect"]

/-- The commands. -/
def commands : List String := ["build", "migrate", "fixture", "status", "index", "help"]

/-- The usage lines that end a refusal. -/
def usageTail : String :=
  "\n\nUsage: odyssey [OPTIONS] <COMMAND>\n\nFor more information, try '--help'.\n"

/-- A refusal: the message, then the usage lines. -/
def refusal (message : String) : Request := .refuse ("error: " ++ message ++ usageTail)

/-- A command line read so far. -/
structure Parsed where
  options : List (String × String) := []
  verbose : Bool := false
  command : Option String := none
  target : Option String := none
  json : Bool := false
  positionals : List String := []
  onlyPositionals : Bool := false

namespace Parsed

/-- Records a value of an option, refusing a second one and an empty path. -/
def setOption (p : Parsed) (name value : String) : Except Request Parsed :=
  if name == "target" then
    if p.target.isSome then .error (refusal ("the argument '--target <TARGET>' cannot be used multiple times"))
    else .ok { p with target := some value }
  else if (p.options.lookup name).isSome then
    .error (refusal ("the argument '--" ++ name ++ "' cannot be used multiple times"))
  else if value.isEmpty && name != "dialect" then
    .error (refusal ("a value is required for '--" ++ name ++ "' but none was supplied"))
  else .ok { p with options := p.options ++ [(name, value)] }

/-- Sets the verbose flag, refusing a second one. -/
def setVerbose (p : Parsed) : Except Request Parsed :=
  if p.verbose then .error (refusal "the argument '--verbose' cannot be used multiple times")
  else .ok { p with verbose := true }

/-- Whether the command takes `--target`. -/
def takesTarget (p : Parsed) : Bool := p.command == some "build" || p.command == some "migrate"

/-- Whether the command takes `--json`. -/
def takesJson (p : Parsed) : Bool := p.command == some "status" || p.command == some "index"

/-- Records a positional argument: the command first, then its arguments. -/
def positional (p : Parsed) (a : String) : Except Request Parsed :=
  match p.command with
  | none =>
    if commands.contains a then .ok { p with command := some a }
    else .error (refusal ("unrecognized subcommand '" ++ a ++ "'"))
  | some _ => .ok { p with positionals := p.positionals ++ [a] }

end Parsed

/-- The value of an option: given after `=` or in the same argument, else the next argument,
which may not look like an option. -/
def takeValue (name : String) (inline : Option String) (rest : List String) :
    Except Request (String × List String) :=
  match inline with
  | some v => .ok (v, rest)
  | none =>
    match rest with
    | v :: more =>
      if v.startsWith "-" && v.length > 1 then
        .error (refusal ("a value is required for '--" ++ name ++ "' but none was supplied"))
      else .ok (v, more)
    | [] => .error (refusal ("a value is required for '--" ++ name ++ "' but none was supplied"))

/-- Reads a long option `--name` or `--name=value`. -/
def longOption (p : Parsed) (body : String) (rest : List String) :
    Except Request (Parsed × List String) :=
  let (name, inline) := match body.splitOn "=" with
    | [n] => (n, none)
    | n :: vs => (n, some ("=".intercalate vs))
    | [] => (body, none)
  if globalOptions.contains name || (name == "target" && p.takesTarget) then do
    let (v, rest) ← takeValue name inline rest
    pure (← p.setOption name v, rest)
  else if inline.isSome then .error (refusal ("unexpected argument '--" ++ body ++ "' found"))
  else if name == "verbose" then do pure (← p.setVerbose, rest)
  else if name == "json" && p.takesJson then pure ({ p with json := true }, rest)
  else if name == "version" && p.command.isNone then .error .version
  else if name == "help" then .error .help
  else .error (refusal ("unexpected argument '--" ++ body ++ "' found"))

/-- Reads a cluster of short options after `-`. -/
def shortCluster (p : Parsed) : List Char → List String → Except Request (Parsed × List String)
  | [], rest => .ok (p, rest)
  | 'v' :: more, rest => do shortCluster (← p.setVerbose) more rest
  | 'V' :: _, _ => if p.command.isNone then .error .version
    else .error (refusal "unexpected argument '-V' found")
  | 'h' :: _, _ => .error .help
  | c :: more, rest =>
    let name := if c == 'c' then some "config" else if c == 't' && p.takesTarget then some "target" else none
    match name with
    | none => .error (refusal ("unexpected argument '-" ++ c.toString ++ "' found"))
    | some n => do
      let inline := match more with
        | [] => none
        | '=' :: v => some (String.ofList v)
        | v => some (String.ofList v)
      let (v, rest) ← takeValue n inline rest
      pure (← p.setOption n v, rest)

/-- Reads the arguments in order. -/
def readArgs : Nat → Parsed → List String → Except Request Parsed
  | 0, p, _ => .ok p
  | _, p, [] => .ok p
  | fuel + 1, p, a :: rest =>
    if p.onlyPositionals then do readArgs fuel (← p.positional a) rest
    else if a == "--" then readArgs fuel { p with onlyPositionals := true } rest
    else if a.startsWith "--" then do
      let (p, rest) ← longOption p (a.drop 2).copy rest
      readArgs fuel p rest
    else if a.startsWith "-" && a.length > 1 then do
      let (p, rest) ← shortCluster p (a.drop 1).copy.toList rest
      readArgs fuel p rest
    else do readArgs fuel (← p.positional a) rest

/-- The task of a read command line. -/
def Parsed.task (p : Parsed) : Except Request Task :=
  let extra (a : String) : Except Request Task := .error (refusal ("unexpected argument '" ++ a ++ "' found"))
  match p.command, p.positionals with
  | some "build", [] => .ok (.build p.target)
  | some "migrate", [] => .ok (.migrate .up p.target)
  | some "migrate", ["up"] => .ok (.migrate .up p.target)
  | some "migrate", ["down"] => .ok (.migrate .down p.target)
  | some "migrate", [d] => .error (refusal ("invalid value '" ++ d ++ "' for '[DIRECTION]'"))
  | some "fixture", ["load"] => .ok (.fixture "load")
  | some "fixture", ["dump"] => .ok (.fixture "dump")
  | some "fixture", [] => .error (refusal "the following required arguments were not provided:\n  <ACTION>")
  | some "fixture", [a] => .error (refusal ("invalid value '" ++ a ++ "' for '<ACTION>'"))
  | some "status", [] => .ok (.status p.json)
  | some "index", [] => .ok (.index p.json)
  | some "help", _ => .error .help
  | some _, a :: _ => extra a
  | none, _ => .error .help
  | some c, [] => .error (refusal ("unrecognized subcommand '" ++ c ++ "'"))

/-- Reads a command line, with `env` giving the environment. -/
def parseRequest (args : List String) (env : List (String × String)) : Request :=
  let result : Except Request Invocation := do
    let p ← readArgs (args.length + 1) {} args
    let task ← p.task
    let pick (name envName : String) : Except Request (Option String) :=
      match p.options.lookup name with
      | some v => .ok (some v)
      | none =>
        match env.lookup envName with
        | some v =>
          if v.isEmpty && name != "dialect" then
            .error (refusal ("a value is required for '--" ++ name ++ "' but none was supplied"))
          else .ok (some v)
        | none => .ok none
    pure { config := ← pick "config" "ODYSSEY_CONFIG", sqlSrc := ← pick "sql-src" "ODYSSEY_SQL_SRC",
           migrationDir := ← pick "migration-dir" "ODYSSEY_MIGRATION_DIR",
           manifest := ← pick "manifest" "ODYSSEY_MANIFEST", dialect := ← pick "dialect" "ODYSSEY_DIALECT",
           verbose := p.verbose, task }
  match result with
  | .ok inv => .run inv
  | .error r => r

end Migrator.Cli
