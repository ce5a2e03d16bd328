import PluginHost.EntryPoint
import PluginHost.FeatureSet
import PluginHost.FileSystem
import PluginHost.Status
import PluginHost.Version

/-!
# Errors

Why an operation on a plugin failed. A plugin is named by its origin: the path of its library, or
the label of its table of exports.
-/

namespace PluginHost

/-- What stands between a file operation and success. -/
inductive FileCause where
  | io (e : IoError)
  | other (text : String)
deriving DecidableEq, Repr

def FileCause.message : FileCause → String
  | io e => e.message
  | other s => s

inductive PluginError where
  /-- The library cannot be loaded. -/
  | load (path : Path) (reason : String)
  /-- The library loads but is no usable plugin. -/
  | invalid (origin reason : String)
  /-- A mandatory function is not exported. -/
  | missingSymbol (origin symbol : String)
  /-- The record of an older plugin carries another number than its interface's. -/
  | magicMismatch (origin : String) (found expected : UInt32)
  /-- An older plugin has withdrawn itself. -/
  | retracted (origin : String)
  /-- The host does not speak the interface version that a plugin asks for. -/
  | unsupportedApiVersion (version : Version)
  /-- No plugin is registered under this identity. -/
  | notFound (id : PluginId)
  /-- A file operation failed. -/
  | io (path : Path) (cause : FileCause)
  /-- A file cannot be installed as a plugin. -/
  | install (path : Path) (reason : String)
deriving DecidableEq, Repr

namespace PluginError

/-- Eight hexadecimal digits after `0x`. -/
def paddedHex (n : UInt32) : String :=
  let digits := Nat.toDigits 16 n.toNat
  "0x" ++ String.ofList (List.replicate (8 - digits.length) '0' ++ digits)

def message : PluginError → String
  | load path reason => "failed to load plugin library " ++ path.text ++ ": " ++ reason
  | invalid origin reason => "plugin '" ++ origin ++ "' is invalid: " ++ reason
  | missingSymbol origin symbol =>
    "plugin '" ++ origin ++ "' does not export mandatory symbol '" ++ symbol ++ "'"
  | magicMismatch origin found expected =>
    "legacy plugin '" ++ origin ++ "' has magic " ++ paddedHex found ++ ", expected " ++
      paddedHex expected
  | retracted origin => "legacy plugin '" ++ origin ++ "' has been retracted by its author"
  | unsupportedApiVersion v => "plugin API version " ++ v.text ++ " is not supported"
  | notFound id => "plugin " ++ toString id.toNat ++ " not found in registry"
  | io path cause => "I/O error on " ++ path.text ++ ": " ++ cause.message
  | install path reason => "cannot install plugin " ++ path.text ++ ": " ++ reason

/-- The text of the error beneath this one, where there is one that the host has words for. -/
def source? : PluginError → Option String
  | io _ cause => some cause.message
  | _ => none

end PluginError

end PluginHost
