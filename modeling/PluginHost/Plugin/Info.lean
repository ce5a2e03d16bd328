import PluginHost.Json.Printer
import PluginHost.Plugin.Basic
import PluginHost.Text.Quoted

/-!
# What is known about a plugin

`PluginInfo` is the entry of a plugin in a listing, `Plugin.summary` a line for developers.
-/

namespace PluginHost

structure PluginInfo where
  id : PluginId
  name : String
  version : Version
  apiVersion : Version
  author : String
  description : String
  path : Option Path
  generation : Generation
  builtIn : Bool
  loaded : Bool
  features : FeatureSet
  positionalEnabled : Bool
  positionalActive : Bool
deriving DecidableEq, Repr

namespace PluginInfo

def toJson (i : PluginInfo) : Json := .object [
  ("id", .nat i.id.toNat),
  ("name", .string i.name),
  ("version", .string i.version.text),
  ("api_version", .string i.apiVersion.text),
  ("author", .string i.author),
  ("description", .string i.description),
  ("path", .option (fun p => .string p.text) i.path),
  ("generation", .string i.generation.text),
  ("built_in", .bool i.builtIn),
  ("loaded", .bool i.loaded),
  ("features", .string i.features.text),
  ("positional_data_enabled", .bool i.positionalEnabled),
  ("positional_data_active", .bool i.positionalActive)]

end PluginInfo

namespace Plugin

/-- Asks a plugin about itself. -/
def info (p : Plugin) : Interaction PluginInfo := do
  let name ← p.name
  let version ← p.version
  let apiVersion ← p.apiVersion
  let author ← p.author
  let description ← p.description
  let features ← p.features
  return ⟨p.id, name, version, apiVersion, author, description, p.path?, p.generation, p.isBuiltIn,
    p.loaded, features, p.enabled, p.active⟩

/-! ## Lines for developers -/

/-- A flag in words. -/
def flagText (b : Bool) : String := if b then "true" else "false"

/-- The name of a generation in a line for developers. -/
def generationLabel : Generation → String
  | .current => "Current"
  | .legacy => "Legacy"

def summary (p : Plugin) : String :=
  "Plugin \x7b id: " ++ toString p.id.toNat ++ ", origin: " ++ Quoted.quote p.origin ++
    ", generation: " ++ generationLabel p.generation ++ ", valid: " ++ flagText p.valid ++
    ", loaded: " ++ flagText p.loaded ++ ", positional_active: " ++ flagText p.active ++ ", .. \x7d"

end Plugin

/-- A source in a line for developers: a library by its path, a table in the host by its label. -/
def Source.summary (source : Source) (label : String) : String :=
  match source with
  | .library path _ => "Library(" ++ Quoted.quote path.text ++ ")"
  | .builtIn _ => "BuiltIn(" ++ Quoted.quote label ++ ")"

end PluginHost
