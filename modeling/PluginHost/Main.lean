import PluginHost.Probe.Run
import PluginHost.Rehearsal.Document

/-!
# The probe's command line

Runs the probe on the arguments of the process. Plugins, processes, files and variables are those of
a stage document on the standard input; an empty input is an empty stage.
-/

namespace PluginHost
namespace Rehearsal

/-- The name under which the probe runs. -/
def programName : String := "lyre-probe"

/-- What a run on a stage document starts from: its files below the root, and its settings or, if
it has none, those that flags, variables and files give. -/
def Document.setup (j : Json) : Probe.Setup :=
  let files := Document.putFiles (.empty []) ⟨"/"⟩ (j.get "files").items
  { load := fun flags =>
      if (j.get "config").isObject then .ok (Document.settings (j.get "config"))
      else Settings.load files (Document.environment (j.get "env")) flags
    startsLog := true
    builtIns := (Document.stage j).parts.map fun p => ⟨p.script.label, p.script.generation⟩
    files := files }

/-- Reads a stage document. -/
def Document.parse? (s : String) : Option Json :=
  if (Blank.trim s.toList).isEmpty then some (.object []) else Json.parse? s

end Rehearsal
end PluginHost

open PluginHost Rehearsal in
/-- Writes what the run writes; the exit code says whether it succeeded. -/
def main (args : List String) : IO UInt32 := do
  let input ← (← IO.getStdin).readToEnd
  match Document.parse? input with
  | none =>
    IO.eprintln "the stage document on the standard input is no JSON"
    return 2
  | some j =>
    let (outcome, stage) := (Document.stage j).play
      (Probe.run (Document.setup j) (programName :: args))
    IO.print stage.output
    IO.eprint outcome.message
    return if outcome.succeeded then 0 else 1
