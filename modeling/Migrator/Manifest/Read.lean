import Migrator.Manifest.Basic
import Migrator.Toml.Document
import Migrator.Text.Blank
import Migrator.Text.Case

/-!
Reading a manifest from its TOML text. The document maps each version to a table with optional
`up` and `down` arrays; each action is a table with the texts `name`, `type` and `action` and an
optional text `location`, and nothing else. A record may also be written as an array, its fields
by position: every field of an action then, and items after the last field are not read. Any
other shape makes the manifest invalid as a whole.

Actions are then checked version by version in ascending order, `up` before `down`, in order:
the keyword (trimmed, any case) must be one of the four, `execute` needs a location, and no
other action may have one.
-/
namespace Migrator

open Toml

/-- One action as written, before its keyword is checked. -/
structure RawAction where
  name : String
  objectType : String
  action : String
  location : Option String
deriving DecidableEq, Repr

/-- Whether a table has only the given keys. -/
def onlyKeys (allowed : List String) (entries : List (String × Value)) : Bool :=
  entries.all fun (k, _) => allowed.contains k

/-- An action record, from a table or by position from an array. -/
def RawAction.read? : Value → Option RawAction
  | .table es =>
    if !onlyKeys ["name", "type", "action", "location"] es then none
    else do
      let name ← (es.lookup "name").bind Value.asText?
      let objectType ← (es.lookup "type").bind Value.asText?
      let action ← (es.lookup "action").bind Value.asText?
      let location ← match es.lookup "location" with
        | none => some none
        | some v => v.asText?.map some
      some { name, objectType, action, location }
  | .array (n :: t :: a :: l :: _) => do
    some { name := ← n.asText?, objectType := ← t.asText?, action := ← a.asText?,
           location := some (← l.asText?) }
  | _ => none

/-- A list of action records. -/
def readActions? : Value → Option (List RawAction)
  | .array items => items.mapM RawAction.read?
  | _ => none

/-- The optional action list of a version: absent means empty. -/
def readActionsOpt? : Option Value → Option (List RawAction)
  | none => some []
  | some v => readActions? v

/-- A version's two action lists, from a table or by position from an array. -/
def readBuild? : Value → Option (List RawAction × List RawAction)
  | .table es =>
    if !onlyKeys ["up", "down"] es then none
    else do some (← readActionsOpt? (es.lookup "up"), ← readActionsOpt? (es.lookup "down"))
  | .array items => do some (← readActionsOpt? items[0]?, ← readActionsOpt? items[1]?)
  | _ => none

/-- Checks one action: `position` counts from zero within its list. -/
def RawAction.decode (raw : RawAction) (version : String) (direction : Direction)
    (position : Nat) : Except Error ActionEntry :=
  let fail (message : String) : Except Error ActionEntry :=
    .error (.config ("Manifest version " ++ version ++ " " ++ direction.name ++ "[" ++
      toString position ++ "] ('" ++ raw.name ++ "'): " ++ message))
  let entry (action : Action) : Except Error ActionEntry :=
    .ok { name := raw.name, objectType := raw.objectType, action }
  let keyword := Text.toLower (Text.trim raw.action)
  if !(["create", "drop", "execute", "rollback"].contains keyword) then
    fail ("Invalid action '" ++ raw.action ++ "'. Valid actions: create, drop, execute, rollback")
  else
    match keyword == "execute", raw.location with
    | true, some location => entry (.execute (Path.ofString location))
    | true, none => fail "execute actions require a location"
    | false, some _ => fail ("location is only valid for execute actions, not " ++ raw.action)
    | false, none =>
      entry (if keyword == "create" then .create else if keyword == "drop" then .drop else .rollback)

/-- Checks a list of actions in order. -/
def decodeActions (version : String) (direction : Direction) (raws : List RawAction) :
    Except Error (List ActionEntry) :=
  (raws.zipIdx.mapM fun (raw, i) => raw.decode version direction i)

/-- A manifest as its document gives it: each version with its `up` and `down` actions as
written, in document order. -/
abbrev RawManifest := List (String × List RawAction × List RawAction)

/-- The versions of a TOML text, each with its two action lists; `none` when the text is not
TOML or some version or action has another shape. -/
def RawManifest.read? (text : String) : Option RawManifest := do
  let root ← Toml.parse text
  root.mapM fun (v, b) => (readBuild? b).map fun r => (v, r)

/-- Checks one version's actions, `up` before `down`. -/
def Manifest.decodeVersion : String × List RawAction × List RawAction →
    Except Error (String × BuildSpec)
  | (version, up, down) => do
    let up ← decodeActions version .up up
    let down ← decodeActions version .down down
    pure (version, { up, down })

/-- Checks the actions of every version, versions in ascending order. -/
def Manifest.decode (raw : RawManifest) : Except Error Manifest := do
  let ordered := raw.foldl (fun acc entry => insertByKey entry.1 entry.2 acc) []
  let entries ← ordered.mapM Manifest.decodeVersion
  pure ⟨entries⟩
where
  /-- Inserts into a list ordered by key. -/
  insertByKey {α : Type} (k : String) (a : α) : List (String × α) → List (String × α)
    | [] => [(k, a)]
    | (k', b) :: rest => if k < k' then (k, a) :: (k', b) :: rest else (k', b) :: insertByKey k a rest

/-- Reads a manifest from its TOML text. -/
def Manifest.parse (text : String) : Except Error Manifest :=
  match RawManifest.read? text with
  | some raw => Manifest.decode raw
  | none => throw (.config "Invalid manifest")

end Migrator
