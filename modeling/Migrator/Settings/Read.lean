import Migrator.Settings
import Migrator.Toml.Document

/-!
Reading settings from TOML text. The document may hold only the texts `sql_src`,
`migration_dir`, `manifest`, `dialect` and `marker_tag`; any other key or kind of value makes
the settings invalid. Paths are joined to the base directory, then the dialect is read, then the
marker tag is checked.
-/
namespace Migrator

namespace Settings

/-- Settings rooted at `base`, with the fields that `text` gives. -/
def ofToml (text : String) (base : Path) : Except Error Settings := do
  let fields ← match Toml.parse text with
    | some es =>
      if es.all fun (k, v) =>
          ["sql_src", "migration_dir", "manifest", "dialect", "marker_tag"].contains k &&
            v.asText?.isSome then
        pure (es.filterMap fun (k, v) => v.asText?.map fun t => (k, t))
      else throw (.config "Invalid settings")
    | none => throw (.config "Invalid settings")
  let s := Settings.new base
  let s := match fields.lookup "sql_src" with
    | some p => { s with sqlSrc := s.resolve (Path.ofString p) }
    | none => s
  let s := match fields.lookup "migration_dir" with
    | some p => { s with migrationDir := s.resolve (Path.ofString p) }
    | none => s
  let s := match fields.lookup "manifest" with
    | some p => { s with manifest := s.resolve (Path.ofString p) }
    | none => s
  let s ← match fields.lookup "dialect" with
    | some d => do pure { s with dialect := ← Dialect.parse d }
    | none => pure s
  match fields.lookup "marker_tag" with
  | some t => do pure { s with markerTag := ← validateMarkerTag t }
  | none => pure s

end Settings

end Migrator
