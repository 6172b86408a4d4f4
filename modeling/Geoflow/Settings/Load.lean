import Geoflow.Settings.Basic
import Geoflow.Settings.Variable
import Geoflow.Toml.Reader

set_option autoImplicit false

namespace Geoflow

mutual

/-- Puts a document over another: objects are merged name by name, anything else is replaced. -/
def Json.overlay : Json → Json → Json
  | .obj below, .obj above => .obj (overlayEntries below above)
  | _, above => above

def Json.overlayEntries (below : List (String × Json)) : List (String × Json) → List (String × Json)
  | [] => below
  | (name, v) :: rest =>
    let merged := match below.lookup name with
      | some old => old.overlay v
      | none => v
    Json.overlayEntries (insertEntry name merged below) rest

end

abbrev Environment := List (String × String)

namespace Settings

def variableStem : List Char := "GEOETL_".toList

/-- Splits a name at points and double underscores; three underscores are two and one. -/
def segments : List Char → List (List Char)
  | [] => [[]]
  | '_' :: '_' :: rest => [] :: segments rest
  | c :: rest =>
    if c = '.' then [] :: segments rest
    else match segments rest with
      | [] => [[c]]
      | part :: parts => (c :: part) :: parts

def pathOf? (name : String) : Option (List String) :=
  let cs := Text.trimmed name.toList
  if (cs.take variableStem.length).map Char.toUpper = variableStem then
    let parts := segments (Text.trimmed (cs.drop variableStem.length))
    if parts.any List.isEmpty then none
    else some (parts.map fun part => String.ofList (part.map Char.toLower))
  else none

def nested : List String → Json → Json
  | [], v => v
  | name :: path, v => .obj [(name, nested path v)]

/-- The layer of an environment; later variables count over earlier ones. -/
def ofEnvironment (env : Environment) : Json :=
  env.foldl (fun layer (name, text) => match pathOf? name with
    | some path => layer.overlay (nested path (Variable.read text))
    | none => layer) (.obj [])

def errorCode : String := "CONFIG_ERROR"

def errorText (text : String) : String := "Configuration error: " ++ text

/-- Why settings cannot be loaded. -/
inductive LoadError where
  | notToml
  | unreadable (error : ReadError)
  | refused (fault : Fault)
  deriving DecidableEq, Repr

def LoadError.message : LoadError → String
  | .notToml => errorText "the settings file is not TOML"
  | .unreadable error => errorText error.message
  | .refused fault => errorText fault.message

/-- Loads settings in three layers: defaults, the text of a file if there is one, and an
environment. Of two values the one of the later layer counts. -/
def load (home : Option String) (file : Option String) (env : Environment) :
    Except LoadError Settings := do
  let layer ← match file with
    | none => pure (.obj [])
    | some text => match Toml.read? text with
      | some layer => pure layer
      | none => throw .notToml
  let settings ← (Settings.read home (layer.overlay (ofEnvironment env))).mapError .unreadable
  settings.check.mapError .refused

end Settings

end Geoflow
