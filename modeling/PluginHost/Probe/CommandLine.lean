import PluginHost.Path
import PluginHost.Settings.Flags
import PluginHost.Text.Number

/-!
# The command line of the probe

A command with its options. The form of results is an option that stands before the command; each
command has its own options and arguments behind its name.

* `Level` is the grammar on one level: before the command, or behind it.
* `Reading` is how far a level has been read. The value of an option waits until what follows shows
  that it is complete, and is checked then.
* `Invocation.parse` reads all arguments.
-/

namespace PluginHost
namespace Probe

/-- The form of results. -/
inductive OutputFormat where
  | human
  | json
deriving DecidableEq, Repr

def OutputFormat.ofText? (s : String) : Option OutputFormat :=
  if s = "human" then some .human
  else if s = "json" then some .json
  else none

/-- A value on the command line. -/
inductive Parameter where
  | output
  | ticks
  | path
deriving DecidableEq, Repr

/-- How the option for a parameter is written; an argument without an option has none. -/
def Parameter.option? : Parameter → Option String
  | output => some "--output"
  | ticks => some "--ticks"
  | path => none

/-- A parameter as it is written in messages. -/
def Parameter.text : Parameter → String
  | output => "--output <OUTPUT>"
  | ticks => "--ticks <TICKS>"
  | path => "<PATH>"

inductive CommandName where
  | list
  | processes
  | watch
  | install
deriving DecidableEq, Repr

namespace CommandName

def all : List CommandName := [list, processes, watch, install]

def text : CommandName → String
  | list => "list"
  | processes => "processes"
  | watch => "watch"
  | install => "install"

def ofText? (s : String) : Option CommandName := all.find? (·.text == s)

/-- A command is known by its name. -/
theorem ofText?_text (c : CommandName) : ofText? c.text = some c := by
  cases c <;> decide

end CommandName

/-! ## What can go wrong -/

/-- Why a command line is not understood. -/
inductive Misuse where
  | valueMissing (p : Parameter)
  | repeated (p : Parameter)
  | unknownValue (p : Parameter) (value : String)
  | badNumber (p : Parameter) (value : String) (reason : NumberError)
  | unexpectedArgument (arg : String)
  | unexpectedValue (option value : String)
  | unknownCommand (arg : String)
  | pathMissing
  | commandMissing
  | nothingGiven
deriving DecidableEq, Repr

/-- What help is asked for. -/
inductive HelpTopic where
  | brief
  | full
  | command (name : CommandName)
deriving DecidableEq, Repr

/-- Why no command is run. -/
inductive Halt where
  | help (topic : HelpTopic)
  | misuse (m : Misuse)
deriving DecidableEq, Repr

/-! ## Values -/

/-- Values that have been checked. -/
structure Values where
  output : Option OutputFormat
  ticks : Option Nat
  path : Option Path
deriving DecidableEq, Repr

namespace Values

def empty : Values := ⟨none, none, none⟩

def has (v : Values) : Parameter → Bool
  | .output => v.output.isSome
  | .ticks => v.ticks.isSome
  | .path => v.path.isSome

/-- Checks the text for a parameter. -/
def store (v : Values) (p : Parameter) (s : String) : Except Misuse Values :=
  match p with
  | .output =>
    if s.isEmpty then .error (.valueMissing p)
    else match OutputFormat.ofText? s with
      | some f => .ok { v with output := some f }
      | none => .error (.unknownValue p s)
  | .ticks =>
    match Number.read s with
    | .ok n => .ok { v with ticks := some n }
    | .error e => .error (.badNumber p s e)
  | .path => if s.isEmpty then .error (.valueMissing p) else .ok { v with path := some ⟨s⟩ }

/-- Checks and keeps the text for a parameter. A parameter has one value. -/
def put (v : Values) (p : Parameter) (s : String) : Except Halt Values :=
  if v.has p then .error (.misuse (.repeated p)) else (v.store p s).mapError .misuse

end Values

/-! ## One level -/

/-- What may stand on a level. -/
structure Level where
  option? : Option Parameter
  argument? : Option Parameter
  hasCommands : Bool
  /-- What is shown for `-h` and for `--help`. -/
  briefHelp : HelpTopic
  fullHelp : HelpTopic
deriving DecidableEq, Repr

namespace Level

/-- Before the command. -/
def front : Level := ⟨some .output, none, true, .brief, .full⟩

/-- Behind the name of a command. -/
def behind (c : CommandName) : Level where
  option? := if c = .watch then some .ticks else none
  argument? := if c = .install then some .path else none
  hasCommands := false
  briefHelp := .command c
  fullHelp := .command c

/-- The parameter of an option. -/
def ofOption? (g : Level) (name : String) : Option Parameter :=
  g.option?.filter fun p => p.option? == some name

end Level

/-- How far a level has been read. -/
structure Reading where
  values : Values
  /-- A parameter with the text that was given for it, if any was. -/
  pending : Option (Parameter × Option String)
  /-- Two dashes were read: what follows are no options. -/
  trailing : Bool
deriving DecidableEq, Repr

namespace Reading

def initial : Reading := ⟨.empty, none, false⟩

/-- Checks the value that waits. -/
def settle (r : Reading) : Except Halt Reading :=
  match r.pending with
  | none => .ok r
  | some (p, none) => .error (.misuse (.valueMissing p))
  | some (p, some s) => do return { r with values := ← r.values.put p s, pending := none }

/-- The next argument is the value of an option. -/
def awaits? (r : Reading) : Option Parameter :=
  match r.pending with
  | some (p, none) => if r.trailing then none else some p
  | _ => none

/-- Shows help, if what was read so far is right. -/
def help (r : Reading) (topic : HelpTopic) : Except Halt Reading := do
  let _ ← r.settle
  .error (.help topic)

/-- Reads an option that is written in full. -/
def readOption (g : Level) (r : Reading) (arg : List Char) : Except Halt Reading :=
  let (name, inline) := Flags.splitInline arg
  if name = "--help" then
    match inline with
    | some s => .error (.misuse (.unexpectedValue name s))
    | none => r.help g.fullHelp
  else match g.ofOption? name with
    | none => .error (.misuse (.unexpectedArgument name))
    | some p => do
      let r ← r.settle
      match inline with
      | some s => return { r with values := ← r.values.put p s }
      | none => return { r with pending := some (p, none) }

/-- Reads a single letter after a dash. -/
def readLetter (g : Level) (r : Reading) (c : Char) : Except Halt Reading :=
  if c = 'h' then r.help g.briefHelp
  else .error (.misuse (.unexpectedArgument (String.ofList ['-', c])))

/-- The argument has been given. -/
def hasArgument (r : Reading) (p : Parameter) : Bool :=
  r.values.has p || (r.pending.map (·.1)) == some p

/-- What is said about an argument that has no place. -/
def misplaced (g : Level) (r : Reading) (arg : String) : Misuse :=
  if !g.hasCommands then .unexpectedArgument arg
  else if r.trailing && (CommandName.ofText? arg).isSome then .unexpectedArgument arg
  else .unknownCommand arg

/-- Reads an argument that is no option. -/
def readArgument (g : Level) (r : Reading) (arg : String) : Except Halt Reading :=
  match g.argument? with
  | some p =>
    if r.hasArgument p then .error (.misuse (r.misplaced g arg))
    else do
      let r ← r.settle
      return { r with pending := some (p, some arg) }
  | none => .error (.misuse (r.misplaced g arg))

/-- Reads an argument that does not look like an option. -/
def readPlain (g : Level) (r : Reading) (arg : String) : Except Halt Reading :=
  match r.awaits? with
  | some p => .ok { r with pending := some (p, some arg) }
  | none => r.readArgument g arg

/-- Reads one argument. -/
def step (g : Level) (r : Reading) (arg : String) : Except Halt Reading :=
  if r.trailing then r.readArgument g arg
  else match arg.toList with
    | ['-', '-'] => .ok { r with trailing := true }
    | '-' :: '-' :: cs => r.readOption g ('-' :: '-' :: cs)
    | '-' :: c :: _ => r.readLetter g c
    | _ => r.readPlain g arg

/-- The command that an argument names, where one may stand. -/
def command? (g : Level) (r : Reading) (arg : String) : Option CommandName :=
  if g.hasCommands && !r.trailing && r.awaits?.isNone then CommandName.ofText? arg else none

/-- Reads a level up to a command's name. Returns that name and what stands behind it. -/
def run (g : Level) :
    Reading → List String → Except Halt (Reading × Option (CommandName × List String))
  | r, [] => .ok (r, none)
  | r, arg :: rest =>
    match r.command? g arg with
    | some c => .ok (r, some (c, rest))
    | none => do run g (← r.step g arg) rest

end Reading

/-! ## Everything -/

inductive Command where
  | list
  | processes
  /-- Without a count of ticks it goes on and on. -/
  | watch (ticks : Option Nat)
  | install (path : Path)
deriving DecidableEq, Repr

structure Invocation where
  output : OutputFormat
  command : Command
deriving DecidableEq, Repr

/-- The command of a name with the values behind it. -/
def Command.ofValues (c : CommandName) (v : Values) : Except Halt Command :=
  match c with
  | .list => .ok .list
  | .processes => .ok .processes
  | .watch => .ok (.watch v.ticks)
  | .install =>
    match v.path with
    | some p => .ok (.install p)
    | none => .error (.misuse .pathMissing)

/-- Reads what stands behind the name of a command. -/
def Command.parse (c : CommandName) (args : List String) : Except Halt Command := do
  let (r, _) ← Reading.initial.run (.behind c) args
  Command.ofValues c (← r.settle).values

/-- Reads the arguments after the program's name. What stands behind a command is read before the
last value in front of it is checked. -/
def Invocation.parse (args : List String) : Except Halt Invocation := do
  match ← Reading.initial.run .front args with
  | (r, none) =>
    let r ← r.settle
    .error (.misuse (if r.values.output.isNone then .nothingGiven else .commandMissing))
  | (r, some (c, rest)) =>
    let command ← Command.parse c rest
    let r ← r.settle
    return ⟨r.values.output.getD .human, command⟩

end Probe
end PluginHost
