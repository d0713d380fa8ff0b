import Migrator.Text.Blank
import Migrator.Text.Word
import Migrator.Text.Alnum
import Migrator.Text.Case
import Migrator.Text.Utf8
import Migrator.Digest.Sha256
import Migrator.Path
import Migrator.Error
import Migrator.Time
import Migrator.Source.Header
import Migrator.Dialect
import Migrator.Command
import Migrator.Command.Block
import Migrator.Manifest.Basic
import Migrator.Manifest.Read
import Migrator.Manifest.Load
import Migrator.Chain
import Migrator.Chain.Scan
import Migrator.Index
import Migrator.Event
import Migrator.Settings
import Migrator.Settings.Read
import Migrator.Settings.Load
import Migrator.Artifact
import Migrator.Artifact.Write
import Migrator.Status.Report
import Migrator.Status.Chain
import Migrator.Toml.Value
import Migrator.Toml.Lexical
import Migrator.Toml.Document
import Migrator.Files.Tree
import Migrator.Files.Resolve
import Migrator.Files.Host
import Migrator.Files.Glob
import Migrator.Sources
import Migrator.Compile
import Migrator.Build
import Migrator.Migrate
import Migrator.Cli.Json
import Migrator.Cli.Pattern
import Migrator.Cli.Log
import Migrator.Cli.Args
import Migrator.Cli.Run
import Migrator.Main
import Migrator.Proofs.Chain
import Migrator.Proofs.Block
import Migrator.Proofs.Build
import Migrator.Proofs.Manifest
import Migrator.Proofs.Runs
import Migrator.Proofs.Index
import Migrator.Proofs.Sources
import Migrator.Proofs.Header
import Migrator.Proofs.Events
import Migrator.Proofs.Decode
import Migrator.Proofs.Status
import Migrator.Proofs.Plan
import Migrator.Proofs.Report
import Migrator.Proofs.Resolve
import Migrator.Proofs.Rollback
import Migrator.Proofs.Log
import Migrator.Proofs.Walk
import Migrator.Proofs.Stages
import Migrator.Proofs.Schedule
