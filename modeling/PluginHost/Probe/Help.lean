import PluginHost.Probe.CommandLine
import PluginHost.Text.Plain

/-!
# Help and usage

What the probe says about its command line: the help that is asked for, and what is wrong with a
command line that it does not understand. A program is called by the last part of its path; one
without a name has none in front of its commands.
-/

namespace PluginHost
namespace Probe

/-- The name under which the program was called, from the first argument of all. -/
def programName? (args : List String) : Option String :=
  args.head?.bind fun p => (Path.mk p).fileName?

/-- The name in messages. -/
def displayName (program : Option String) : String := program.getD "lyre-probe"

namespace CommandName

/-- What a command does. -/
def about : CommandName → String
  | list => "Scans the plugin directories and lists every plugin found"
  | processes => "Lists the running processes offered to positional data plugins"
  | watch => "Runs positional data ticks and reports provider changes and poses"
  | install => "Validates a plugin library and copies it into the user plugin directory"

/-- What may stand behind a command, in its usage. -/
def operands : CommandName → String
  | list | processes => ""
  | watch => " [OPTIONS]"
  | install => " <PATH>"

/-- The rest of the help on a command. -/
def details : CommandName → List String
  | list | processes => ["Options:", "  -h, --help  Print help"]
  | watch => [
      "Options:",
      "      --ticks <TICKS>  Stops after this many ticks; runs until interrupted otherwise",
      "  -h, --help           Print help"]
  | install => [
      "Arguments:",
      "  <PATH>  Library to install",
      "",
      "Options:",
      "  -h, --help  Print help"]

end CommandName

namespace HelpTopic

def about : String := "Inspect and exercise Lyre plugins without a running voice client"

/-- The table of commands. -/
def commandLines : List String :=
  CommandName.all.map fun c =>
    "  " ++ c.text ++ String.ofList (List.replicate (11 - c.text.length) ' ') ++ c.about

def briefOptions : List String := [
  "      --output <OUTPUT>  Controls how results are rendered [default: human] " ++
    "[possible values: human, json]",
  "  -h, --help             Print help (see more with '--help')"]

def fullOptions : List String := [
  "      --output <OUTPUT>",
  "          Controls how results are rendered",
  "",
  "          Possible values:",
  "          - human: Aligned, human-readable lines",
  "          - json:  One JSON document (or one JSON line per event for \x60watch\x60)",
  "          ",
  "          [default: human]",
  "",
  "  -h, --help",
  "          Print help (see a summary with '-h')"]

/-- What the program or the command does. -/
def summary : HelpTopic → String
  | brief | full => about
  | command c => c.about

/-- How the program is called: its name, which has a style of its own, and what may stand behind
it. -/
def usage (program : Option String) : HelpTopic → String × String
  | brief | full => (displayName program, " [OPTIONS] <COMMAND>")
  | command c => ((program.map (· ++ " ")).getD "" ++ c.text, c.operands)

/-- The lines below the usage. -/
def body : HelpTopic → List String
  | brief => ["", "Commands:"] ++ commandLines ++ ["", "Options:"] ++ briefOptions
  | full => ["", "Commands:"] ++ commandLines ++ ["", "Options:"] ++ fullOptions
  | command c => "" :: c.details

/-- A help text. -/
def text (program : Option String) (t : HelpTopic) : String :=
  let (name, operands) := t.usage program
  Plain.stripPieces [t.summary ++ "\n\nUsage: ", name,
    String.join ((operands :: t.body).map (· ++ "\n"))]

end HelpTopic

namespace Misuse

/-- What is wrong, after the word `error`, in pieces of one style. -/
def cause (program : Option String) : Misuse → List String
  | valueMissing p => ["a value is required for '" ++ p.text ++ "' but none was supplied"]
  | repeated p => ["the argument '" ++ p.text ++ "' cannot be used multiple times"]
  | unknownValue p s => ["invalid value '", s, "' for '" ++ p.text ++ "'"]
  | badNumber p s e => ["invalid value '", s, "' for '" ++ p.text ++ "': " ++ e.message]
  | unexpectedArgument arg => ["unexpected argument '", arg, "' found"]
  | unexpectedValue option s =>
    ["unexpected value '", s, "' for '" ++ option ++ "' found; no more were expected"]
  | unknownCommand arg => ["unrecognized subcommand '", arg, "'"]
  | pathMissing =>
    ["the following required arguments were not provided:\n  " ++ Parameter.path.text]
  | commandMissing =>
    ["'", displayName program, "' requires a subcommand but one was not provided"]
  | nothingGiven => []

/-- The message for the operator. Who gives nothing at all gets the help. -/
def message (program : Option String) (m : Misuse) : String :=
  match m with
  | nothingGiven => HelpTopic.text program .brief
  | m => Plain.stripPieces ("error: " :: m.cause program ++ ["\n"])

end Misuse

end Probe
end PluginHost
