import PluginHost.Plugin.Info
import PluginHost.Registry.Basic
import PluginHost.Text.LetterCase

/-!
# Listings

The plugins of a registry in the order of their identities or of their names, and lines for
developers about the registry and its roster.
-/

namespace PluginHost

/-- The provider in a line for developers. -/
def Roster.summary (r : Roster) : String :=
  let provider := match r.providing? with
    | none => "None"
    | some p => "Some(" ++ toString p.id.toNat ++ ")"
  "PositionalDataArbiter \x7b active: " ++ provider ++ ", .. \x7d"

namespace PluginDirectories

def directoryText : Option Path → String
  | none => "None"
  | some p => "Some(" ++ Quoted.quote p.text ++ ")"

def summary (d : PluginDirectories) : String :=
  "PluginDirectories \x7b system: " ++ directoryText d.system ++ ", user: " ++
    directoryText d.user ++ " \x7d"

end PluginDirectories

namespace Registry

def summary (r : Registry) : String :=
  "PluginRegistry \x7b directories: " ++ r.directories.summary ++ ", plugins: " ++
    toString r.size ++ ", built_ins: " ++ toString r.builtIns.length ++ ", arbiter: " ++
    r.roster.summary ++ ", .. \x7d"

/-- Plugins with their names, by the names in small letters; equal names keep their order. -/
def sortByName (named : List (String × Plugin)) : List Plugin :=
  let keyed := named.map fun (name, p) => (LetterCase.lowercase name, p)
  (keyed.mergeSort fun a b => !decide (b.1 < a.1)).map (·.2)

/-- The plugins by identity, or by name. -/
def listing (r : Registry) (sorted : Bool) : Interaction (List Plugin) := do
  if !sorted then return r.plugins
  let named ← Interaction.traverse (fun p => do return (← p.name, p)) r.plugins
  return sortByName named

/-- What the plugins say about themselves, in the order of a listing. -/
def infos (r : Registry) (sorted : Bool) : Interaction (List PluginInfo) := do
  let ps ← r.listing sorted
  Interaction.traverse Plugin.info ps

end Registry
end PluginHost
