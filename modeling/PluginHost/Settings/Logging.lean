/-!
# Log levels and formats

How much of the log is shown and how its lines look. On the command line the names are read in any
letter case; in files and in the environment they have to be written in small letters.
-/

namespace PluginHost

/-- How a log line is laid out. -/
inductive LogFormat where
  | json
  | compact
deriving DecidableEq, Repr, Inhabited

/-- The lowest level of lines that are shown; `off` shows none. -/
inductive LogLevel where
  | off
  | error
  | warn
  | info
  | debug
  | trace
deriving DecidableEq, Repr, Inhabited

/-- The text in small ASCII letters. -/
def asciiLower (s : String) : String := String.ofList (s.toList.map Char.toLower)

/-- What is said about a name that is none of a list of names. -/
def unknownNameMessage : String := "Matching variant not found"

namespace LogFormat

def all : List LogFormat := [json, compact]

def text : LogFormat → String
  | json => "json"
  | compact => "compact"

/-- Reads a name as it is written in files. -/
def ofText? (s : String) : Option LogFormat := all.find? (·.text == s)

/-- Reads a name in any letter case. -/
def parse? (s : String) : Option LogFormat := ofText? (asciiLower s)

/-- Lines of the format tell the time. -/
def hasTimestamps (f : LogFormat) : Bool := f == json

/-- A format is known by its name. -/
theorem ofText?_text (f : LogFormat) : ofText? f.text = some f := by
  cases f <;> decide

end LogFormat

namespace LogLevel

def all : List LogLevel := [off, error, warn, info, debug, trace]

def text : LogLevel → String
  | off => "off"
  | error => "error"
  | warn => "warn"
  | info => "info"
  | debug => "debug"
  | trace => "trace"

/-- How much a level shows. -/
def rank : LogLevel → Nat
  | off => 0
  | error => 1
  | warn => 2
  | info => 3
  | debug => 4
  | trace => 5

/-- Reads a name as it is written in files. -/
def ofText? (s : String) : Option LogLevel := all.find? (·.text == s)

/-- Reads a name in any letter case. -/
def parse? (s : String) : Option LogLevel := ofText? (asciiLower s)

/-- The filter directive that sets the level of a target. -/
def directiveFor (level : LogLevel) (target : String) : String := target ++ "=" ++ level.text

/-- A level is known by its name. -/
theorem ofText?_text (l : LogLevel) : ofText? l.text = some l := by
  cases l <;> decide

end LogLevel

end PluginHost
