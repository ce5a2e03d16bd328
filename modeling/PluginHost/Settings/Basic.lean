import PluginHost.Json.Parser
import PluginHost.Path
import PluginHost.Settings.Logging

/-!
# Settings

What an operator can set. `Settings.ofJson?` reads settings from a document in which everything may
be missing, `Settings.toJson` writes them.
-/

namespace PluginHost

/-- Variables with their values. -/
abbrev Environment := List (String × String)

/-- The value of a variable, unless it is not set. -/
def Environment.value? (env : Environment) (name : String) : Option String :=
  (env.find? (·.1 == name)).map (·.2)

structure Settings where
  systemPluginDir : Option Path
  userPluginDir : Option Path
  logFilter : String
  logFormat : LogFormat
  pluginLogLevel : LogLevel
  /-- Milliseconds between two ticks. -/
  fetchIntervalMs : Nat
  disablePositionalData : Bool
deriving DecidableEq, Repr

namespace Settings

/-! ## Defaults -/

/-- Where plugins that come with the host are. -/
def defaultSystemPluginDir : Path := ⟨"/usr/lib/lyre/plugins"⟩

/-- The directory for the user's data: an absolute one that is set, or one below the user's home. -/
def dataDir? (env : Environment) : Option Path :=
  match (env.value? "XDG_DATA_HOME").map Path.mk with
  | some p => if p.isAbsolute then some p else fallback
  | none => fallback
where
  fallback : Option Path :=
    ((env.value? "HOME").filter (!·.isEmpty)).map fun home => (Path.mk home).join ⟨".local/share"⟩

/-- Where the user's own plugins are. -/
def defaultUserPluginDir? (env : Environment) : Option Path :=
  (dataDir? env).map fun p => (p.join ⟨"lyre"⟩).join ⟨"plugins"⟩

def default (env : Environment) : Settings where
  systemPluginDir := some defaultSystemPluginDir
  userPluginDir := defaultUserPluginDir? env
  logFilter := "info"
  logFormat := .compact
  pluginLogLevel := .info
  fetchIntervalMs := 20
  disablePositionalData := false

/-! ## Derived settings -/

/-- Ticks are at least a millisecond apart. -/
def fetchInterval (s : Settings) : Nat := max s.fetchIntervalMs 1

/-- The permission that plugins get when they are started. -/
def positionalDefault (s : Settings) : Bool := !s.disablePositionalData

/-! ## Reading and writing -/

/-- The names of the settings, in the order in which they are written. -/
def fieldNames : List String :=
  ["system_plugin_dir", "user_plugin_dir", "log_filter", "log_format", "plugin_log_level",
    "fetch_interval_ms", "disable_positional_data"]

def toJson (s : Settings) : Json := .object [
  ("system_plugin_dir", .option (fun p => .string p.text) s.systemPluginDir),
  ("user_plugin_dir", .option (fun p => .string p.text) s.userPluginDir),
  ("log_filter", .string s.logFilter),
  ("log_format", .string s.logFormat.text),
  ("plugin_log_level", .string s.pluginLogLevel.text),
  ("fetch_interval_ms", .nat s.fetchIntervalMs),
  ("disable_positional_data", .bool s.disablePositionalData)]

/-- A path, or null for none. -/
def readPath? : Json → Option (Option Path)
  | .null => some none
  | .string s => some (some ⟨s⟩)
  | _ => none

/-- A whole number of 64 bits. -/
def readWord? : Json → Option Nat
  | .int n => if 0 ≤ n ∧ n < 0x10000000000000000 then some n.toNat else none
  | _ => none

/-- The name of a case: a text, or an object whose only member has that name and is null. -/
def caseName? : Json → Option String
  | .string s => some s
  | .object [(name, .null)] => some name
  | _ => none

/-- Puts the value of one setting in its place. Other names are passed over. -/
def set? (s : Settings) (name : String) (value : Json) : Option Settings :=
  match name with
  | "system_plugin_dir" => (readPath? value).map fun p => { s with systemPluginDir := p }
  | "user_plugin_dir" => (readPath? value).map fun p => { s with userPluginDir := p }
  | "log_filter" => value.string?.map fun t => { s with logFilter := t }
  | "log_format" =>
    ((caseName? value).bind LogFormat.ofText?).map fun f => { s with logFormat := f }
  | "plugin_log_level" =>
    ((caseName? value).bind LogLevel.ofText?).map fun l => { s with pluginLogLevel := l }
  | "fetch_interval_ms" => (readWord? value).map fun n => { s with fetchIntervalMs := n }
  | "disable_positional_data" => value.bool?.map fun b => { s with disablePositionalData := b }
  | _ => some s

/-- Puts values in their places, one after the other. -/
def setAll? : Settings → List (String × Json) → Option Settings
  | s, [] => some s
  | s, (name, value) :: rest => (s.set? name value).bind fun s => setAll? s rest

/-- No setting is named twice. -/
def namesOnce (members : List (String × Json)) : Bool :=
  fieldNames.all fun n => (members.filter (·.1 == n)).length ≤ 1

/-- Reads settings: an object with some of them, or an array with the first of them in order. What
is missing has its default. -/
def ofJson? (env : Environment) (j : Json) : Option Settings :=
  match j with
  | .object ms => if namesOnce ms then setAll? (default env) ms else none
  | .array js =>
    if js.length ≤ fieldNames.length then setAll? (default env) (fieldNames.zip js) else none
  | _ => none

/-- Reads settings from the text of a document. -/
def ofText? (env : Environment) (s : String) : Option Settings :=
  (Json.parseMembers? (fieldNames.contains ·) s).bind (ofJson? env)

end Settings

end PluginHost
