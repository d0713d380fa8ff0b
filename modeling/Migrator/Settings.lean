import Migrator.Dialect

/-!
Project settings and the tool version. Settings are rooted at a base directory; the source tree,
the migration directory and the manifest default to `src`, `migrations` and
`migrations/manifest.toml` under it, and relative paths given elsewhere are joined to it. The
marker tag ends up inside marker lines, so it is limited to ASCII letters, digits and `_`.
-/
namespace Migrator

/-- The marker tag used when settings name none. -/
def defaultMarkerTag : String := "ODESSEY"

/-- The name of the settings file looked for in the working directory. -/
def defaultSettingsFile : String := "odyssey.toml"

/-- A marker tag, trimmed, if it is non-empty and made of ASCII letters, digits and `_`. -/
def validateMarkerTag (tag : String) : Except Error String :=
  let t := Text.trim tag
  if t.isEmpty || !t.toList.all (fun c => (c.isAlphanum && c.toNat < 128) || c == '_') then
    .error (.config ("Invalid marker tag '" ++ t ++ "': use letters, digits and underscores"))
  else .ok t

/-- The version stamped into artifact footers: `MAJOR.MINOR`, and the full release. -/
structure ToolVersion where
  version : String
  release : String
deriving DecidableEq, Repr

/-- The tool version of a release text: its first two dot-separated parts, both non-empty. -/
def ToolVersion.ofRelease (release : String) : Except Error ToolVersion :=
  let trimmed := Text.trim release
  match trimmed.splitOn "." with
  | major :: minor :: _ =>
    if major.isEmpty || minor.isEmpty then
      .error (.config ("Cannot derive tool version from release '" ++ release ++ "'"))
    else .ok ⟨major ++ "." ++ minor, trimmed⟩
  | _ => .error (.config ("Cannot derive tool version from release '" ++ release ++ "'"))

/-- The release of this tool. -/
def currentRelease : String := "0.3.0"

/-- Where a project's sources, scripts and manifest are, and how they are read. -/
structure Settings where
  /-- The project root; relative `execute` locations resolve against it. -/
  baseDir : Path
  sqlSrc : Path
  migrationDir : Path
  manifest : Path
  dialect : Dialect
  markerTag : String
deriving DecidableEq, Repr

namespace Settings

/-- The default settings rooted at `base`. -/
def new (base : Path) : Settings where
  baseDir := base
  sqlSrc := base.push "src"
  migrationDir := base.push "migrations"
  manifest := (base.push "migrations").push "manifest.toml"
  dialect := .postgres
  markerTag := defaultMarkerTag

/-- A path resolved against the project root, unless absolute. -/
def resolve (s : Settings) (p : Path) : Path := s.baseDir.join p

end Settings

end Migrator
