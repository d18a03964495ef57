/-
StartupReport/Configuration/Merge.lean

Settings put on top of defaults.

A setting replaces the default of the same key, except that two mappings are
merged entry by entry, at any depth.  Keys keep the places that they have in
the defaults, and new ones follow.
-/
import StartupReport.Value

namespace StartupReport.Configuration

mutual

/-- Defaults with settings on top of them. -/
def merge (defaults : Mapping) : (settings : List (Value × Value)) → Mapping
  | [] => defaults
  | (k, v) :: rest =>
    merge (Value.write defaults k (mergeAt (Value.lookup? defaults k) v)) rest

/-- A setting on top of what it replaces, if there is anything. -/
def mergeAt (previous : Option Value) : (setting : Value) → Value
  | .map settings =>
    match previous with
    | some (.map defaults) => .map (merge defaults settings)
    | _ => .map settings
  | setting => setting

end

/-- The merger of two values, of which both should be mappings.  A list can stand
for the defaults as long as there is no setting to write to it. -/
def mergeValues (defaults settings : Value) : Except Misuse Value :=
  match defaults with
  | .map ds => return .map (merge ds (← settings.entriesFor "items"))
  | .list items => do
    match ← settings.entriesFor "items" with
    | [] => return .list items
    | _ => throw (.assignment .list)
  | v => .error (.member v.shape "copy")

/-- A configuration in which the component has a name of its own, if one is
given. -/
def withComponent (config component : Value) : Except Misuse Value :=
  match component with
  | .null => .ok config
  | _ => do
    let es ← config.entriesFor "setdefault"
    match (Value.lookup? es (.str "banner")).getD (.map []) with
    | .map banner =>
      let named := Value.write banner (.str "component_name") component
      return .map (Value.write es (.str "banner") (.map named))
    | v => throw (.assignment v.shape)

end StartupReport.Configuration
