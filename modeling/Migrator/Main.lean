import Migrator.Cli.Run

/-!
The `odyssey` command. The program's work is `Cli.run`, a function of the arguments, the
environment and a world; this entry point gives it the process's arguments and the variables
it reads, runs it over a fresh world rooted at `/`, prints what it printed and exits with its
status.
-/
namespace Migrator

/-- The environment variables a run reads. -/
def cliVariables : List String :=
  ["RUST_LOG", "ODYSSEY_CONFIG", "ODYSSEY_SQL_SRC", "ODYSSEY_MIGRATION_DIR", "ODYSSEY_MANIFEST",
    "ODYSSEY_DIALECT"]

end Migrator

/-- Runs the command line with the process's arguments and environment, over a fresh world. -/
def main (args : List String) : IO UInt32 := do
  let mut env : List (String × String) := []
  for name in Migrator.cliVariables do
    if let some v ← IO.getEnv name then env := env ++ [(name, v)]
  let (result, _) := Migrator.Host.run (Migrator.Cli.run args env ⟨946684800, false⟩) {}
  match result with
  | .ok o =>
    IO.print o.stdout
    IO.eprint o.stderr
    pure o.status.toUInt32
  | .error e =>
    IO.eprint ("Error: " ++ e.message ++ "\n")
    pure 1
