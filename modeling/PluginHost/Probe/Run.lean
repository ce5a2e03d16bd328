import PluginHost.Installer
import PluginHost.LogFilter.Basic
import PluginHost.Probe.ArgumentSplit
import PluginHost.Probe.Help
import PluginHost.Probe.Watch
import PluginHost.Registry.Listing
import PluginHost.Settings.Layers

/-!
# Running the probe

One run from the command line to the outcome: flags for settings are split off, the command is read,
settings are loaded, the log is set up, and the command does its work on a registry.

`run` reports on its health as it goes and returns what the operator is told.
-/

namespace PluginHost
namespace Probe

/-- Why a run failed. -/
inductive RunError where
  | settings (causes : List SettingsError)
  | logFilter (cause : LogFilter.ParseError)
  | userDirectoryMissing
  | plugin (cause : PluginError)
  | output (cause : OutputError)
deriving DecidableEq, Repr

namespace RunError

/-- What the run gave up on. -/
def failure : RunError → Failure
  | settings _ => .settings
  | logFilter _ => .telemetry
  | userDirectoryMissing => .userDirectory
  | plugin _ => .plugin
  | output (.serialise _) => .serialise
  | output (.write _) => .write

def message : RunError → String
  | settings _ => "failed to load configuration"
  | logFilter e => "failed to initialise telemetry: invalid log filter: " ++ e.message
  | userDirectoryMissing => "no user plugin directory is configured; set --user-plugin-dir"
  | plugin e => e.message
  | output (.serialise reason) => "failed to serialise output: " ++ reason
  | output (.write reason) => "failed to write output: " ++ reason

end RunError

/-- What a run starts from. -/
structure Setup where
  /-- Loads settings from flags. -/
  load : List String → Except (List SettingsError) Settings
  /-- The log is set up from the settings; otherwise it is set up already. -/
  startsLog : Bool
  builtIns : List BuiltIn
  files : FileSystem

/-- How a run ended. -/
structure Outcome where
  succeeded : Bool
  /-- What the operator is told, empty if all went well. -/
  message : String
  files : FileSystem

/-- A registry for settings, before its first scan. -/
def registryFor (settings : Settings) (builtIns : List BuiltIn) : Registry :=
  let r := Registry.new ⟨settings.systemPluginDir, settings.userPluginDir⟩
  builtIns.foldl .registerBuiltIn { r with positionalDefault := settings.positionalDefault }

/-- A registry that has been scanned. -/
def scanned (setup : Setup) (settings : Settings) : Interaction Registry := do
  let (count, r) ← (registryFor settings setup.builtIns).rescan setup.files
  Interaction.query (.report (.scanned count))
  return r

/-- A result that could be written or not. -/
def ofOutput (r : Except OutputError Unit) : Except RunError Unit := r.mapError .output

def runList (setup : Setup) (settings : Settings) (format : OutputFormat) :
    Interaction (Except RunError Unit) := do
  let r ← scanned setup settings
  let written ← (Report.plugins (← r.infos true)).write format
  r.close
  return ofOutput written

def runProcesses (format : OutputFormat) : Interaction (Except RunError Unit) := do
  let ps ← Interaction.query .processes
  return ofOutput (← (Report.processes ps).write format)

def runWatch (setup : Setup) (settings : Settings) (format : OutputFormat) (ticks : Option Nat) :
    Interaction (Except RunError Unit) := do
  let r ← scanned setup settings
  let (written, r) ← watch format settings.fetchInterval (ticks.getD unlimited) 0 .nothing r
  r.close
  return ofOutput written

def runInstall (setup : Setup) (settings : Settings) (format : OutputFormat) (candidate : Path) :
    Interaction (Except RunError Unit × FileSystem) :=
  match settings.userPluginDir with
  | none => return (.error .userDirectoryMissing, setup.files)
  | some directory => do
    match ← Installer.inspect setup.files directory candidate with
    | .error e => return (.error (.plugin e), setup.files)
    | .ok prepared =>
      match prepared.install setup.files with
      | (.error e, files) => return (.error (.plugin e), files)
      | (.ok place, files) =>
        return (ofOutput (← (Report.installed prepared.info place).write format), files)

def runCommand (setup : Setup) (settings : Settings) (i : Invocation) :
    Interaction (Except RunError Unit × FileSystem) :=
  match i.command with
  | .list => do return (← runList setup settings i.output, setup.files)
  | .processes => do return (← runProcesses i.output, setup.files)
  | .watch ticks => do return (← runWatch setup settings i.output ticks, setup.files)
  | .install candidate => runInstall setup settings i.output candidate

/-- Sets up the log. -/
def startLog (setup : Setup) (settings : Settings) : Except RunError Unit :=
  if setup.startsLog then
    match LogFilter.ofSettings settings with
    | .ok _ => .ok ()
    | .error e => .error (.logFilter e)
  else .ok ()

/-- Loads settings and runs a command with them. -/
def execute (setup : Setup) (flags : List String) (i : Invocation) :
    Interaction (Except RunError Unit × FileSystem) := do
  Interaction.query (.report .starting)
  match setup.load flags with
  | .error causes => return (.error (.settings causes), setup.files)
  | .ok settings =>
    match startLog setup settings with
    | .error e => return (.error e, setup.files)
    | .ok () =>
      Interaction.query (.report .ready)
      runCommand setup settings i

/-- Runs the probe with all arguments, the program's name first. -/
def run (setup : Setup) (args : List String) : Interaction Outcome := do
  let split := ArgumentSplit.of args
  let program := programName? args
  match Invocation.parse split.command.tail with
  | .error (.help topic) =>
    let _ ← Interaction.query (.write (topic.text program))
    return ⟨true, "", setup.files⟩
  | .error (.misuse m) => return ⟨false, m.message program, setup.files⟩
  | .ok i =>
    match ← execute setup split.settings.tail i with
    | (.ok (), files) => return ⟨true, "", files⟩
    | (.error e, files) =>
      Interaction.query (.report (.failed e.failure))
      return ⟨false, e.message ++ "\n", files⟩

end Probe
end PluginHost
