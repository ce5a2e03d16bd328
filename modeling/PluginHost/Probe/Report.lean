import PluginHost.Json.Printer
import PluginHost.Plugin.Info
import PluginHost.Probe.CommandLine
import PluginHost.Text.Column

/-!
# Results of the probe

The text of results in either form. A `Report` is a document for machines next to the lines for
people; a command writes one or the other.

A text is written as a whole or not at all. Whether a buffer stands in between, and when it is
flushed, is left out.
-/

namespace PluginHost
namespace Probe

/-- A result in both forms. -/
structure Report where
  lines : List String
  document : Json

namespace Report

/-- The plugins of a registry, one a line. -/
def pluginLine (i : PluginInfo) : String :=
  Column.right 4 (toString i.id.toNat) ++ "  " ++ Column.left 24 i.name ++ " " ++
    Column.left 10 i.version.text ++ " " ++ i.generation.text ++ " " ++
    Column.left 9 (if i.loaded then "loaded" else "unloaded") ++ " [" ++ i.features.text ++ "] " ++
    ((i.path.map (·.text)).getD "built-in")

def plugins (is : List PluginInfo) : Report where
  lines := if is.isEmpty then ["no plugins found"] else is.map pluginLine
  document := .array (is.map (·.toJson))

/-- The table of processes, one a line. -/
def processes (ps : List Process) : Report where
  lines := ps.map fun p => Column.right 8 (toString p.pid.toNat) ++ "  " ++ p.name
  document := .array (ps.map fun p => .object [("name", .string p.name), ("pid", .nat p.pid.toNat)])

/-- A plugin that was installed, and where. -/
def installed (i : PluginInfo) (place : Path) : Report where
  lines := ["installed " ++ i.name ++ " " ++ i.version.text ++ " to " ++ place.text]
  document := .object [("plugin", i.toJson), ("installed_to", .string place.text)]

end Report

/-! ## What happens while watching -/

inductive WatchEvent where
  /-- Another plugin provides positional data from a tick on, or none does. -/
  | provider (tick : Nat) (who : Option (PluginId × String))
  /-- The pose changed at a tick. -/
  | pose (tick : Nat) (data : Snapshot)
deriving DecidableEq, Repr

namespace WatchEvent

def vectorText (v : Vector3) : String :=
  "(" ++ v.x.fixed 2 ++ ", " ++ v.y.fixed 2 ++ ", " ++ v.z.fixed 2 ++ ")"

/-- The event in words. -/
def line : WatchEvent → String
  | provider tick none => "tick " ++ toString tick ++ ": no positional data provider"
  | provider tick (some (id, name)) =>
    "tick " ++ toString tick ++ ": positional data from plugin " ++ toString id.toNat ++ " (" ++
      name ++ ")"
  | pose tick s =>
    "tick " ++ toString tick ++ ": avatar " ++ vectorText s.pose.avatarPosition ++ " camera " ++
      vectorText s.pose.cameraPosition ++ " context '" ++ s.context ++ "' identity '" ++
      s.identity ++ "'"

def toJson : WatchEvent → Json
  | provider tick who => .object [
      ("event", .string "provider"),
      ("tick", .nat tick),
      ("plugin_id", .option (fun w => .nat w.1.toNat) who),
      ("name", .option (fun w => .string w.2) who)]
  | pose tick s => .object [
      ("event", .string "pose"),
      ("tick", .nat tick),
      ("data", s.toJson)]

end WatchEvent

/-! ## Writing -/

/-- Why results did not reach their reader. -/
inductive OutputError where
  | serialise (reason : String)
  | write (reason : String)
deriving DecidableEq, Repr

/-- Writes lines until one fails. -/
def writeLines : List String → Interaction (Except OutputError Unit)
  | [] => return .ok ()
  | s :: rest => do
    match ← Interaction.query (.write (s ++ "\n")) with
    | .error reason => return .error (.write reason)
    | .ok () => writeLines rest

/-- Writes a document, then the end of its last line. -/
def writeDocument (text : String) : Interaction (Except OutputError Unit) := do
  match ← Interaction.query (.write text) with
  | .error reason => return .error (.serialise reason)
  | .ok () => writeLines [""]

/-- Writes a result in the form that was asked for. -/
def Report.write (format : OutputFormat) (r : Report) : Interaction (Except OutputError Unit) :=
  match format with
  | .human => writeLines r.lines
  | .json => writeDocument r.document.pretty

/-- Writes an event on a line of its own. -/
def WatchEvent.write (format : OutputFormat) (e : WatchEvent) :
    Interaction (Except OutputError Unit) :=
  match format with
  | .human => writeLines [e.line]
  | .json => writeDocument e.toJson.compact

end Probe
end PluginHost
