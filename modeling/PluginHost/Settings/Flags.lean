import PluginHost.Settings.Basic
import PluginHost.Text.Number

/-!
# Flags

The settings on a command line. A flag is written in full or as a single letter; its value follows
an equals sign or is the next argument. `Flags.parse?` refuses a command line that it cannot read as
a whole.
-/

namespace PluginHost

/-- What a flag takes. -/
inductive FlagKind where
  /-- The path of a file of settings; not empty. -/
  | configPath
  /-- Any text. -/
  | text
  | format
  | level
  /-- A whole number of 64 bits. -/
  | number
  /-- No value: the flag is there or not. -/
  | switch
deriving DecidableEq, Repr

/-- A flag for the setting `field`. -/
structure Flag where
  field : String
  short : Option Char
  kind : FlagKind
deriving DecidableEq, Repr

namespace Flag

/-- The flag written in full: the setting's name after two dashes, with dashes between its words. -/
def long (f : Flag) : String :=
  "--" ++ String.ofList (f.field.toList.map fun c => if c = '_' then '-' else c)

def isSwitch (f : Flag) : Bool := f.kind == .switch

/-- All flags. -/
def all : List Flag := [
  ⟨"config_path", none, .configPath⟩,
  ⟨"system_plugin_dir", some 's', .text⟩,
  ⟨"user_plugin_dir", some 'u', .text⟩,
  ⟨"log_filter", some 'l', .text⟩,
  ⟨"log_format", some 'L', .format⟩,
  ⟨"plugin_log_level", some 'p', .level⟩,
  ⟨"fetch_interval_ms", some 'f', .number⟩,
  ⟨"disable_positional_data", some 'd', .switch⟩]

def ofLong? (name : String) : Option Flag := all.find? (·.long == name)

def ofShort? (c : Char) : Option Flag := all.find? (·.short == some c)

/-- The value of a setting that a flag's text stands for. -/
def read? (f : Flag) (s : String) : Option Json :=
  match f.kind with
  | .configPath => if s.isEmpty then none else some (.string s)
  | .text => some (.string s)
  | .format => (LogFormat.parse? s).map fun v => .string v.text
  | .level => (LogLevel.parse? s).map fun v => .string v.text
  | .number => (Number.read s).toOption.map .nat
  | .switch => none

end Flag

/-- The flags of a command line with their values, in the order in which they were given. -/
structure Flags where
  given : List (Flag × Json)

namespace Flags

def empty : Flags := ⟨[]⟩

/-- Adds a flag. A flag may be given once. -/
def add? (fs : Flags) (f : Flag) (value : Json) : Option Flags :=
  if fs.given.any (·.1 == f) then none else some ⟨fs.given ++ [(f, value)]⟩

/-- Adds a flag with the text of its value. -/
def addText? (fs : Flags) (f : Flag) (s : String) : Option Flags :=
  (f.read? s).bind (fs.add? f)

/-- The argument can be the value of the flag before it: it is not written like a flag. -/
def isValue (arg : String) : Bool := arg == "-" || arg.toList.head? != some '-'

/-- Takes the next argument as the value of a flag. -/
def takeNext? (fs : Flags) (f : Flag) : List String → Option (Flags × List String)
  | [] => none
  | arg :: rest => if isValue arg then (fs.addText? f arg).map (·, rest) else none

/-- Reads letters after one dash. A letter that takes a value takes the rest of the argument, after
an equals sign or not, or else the next argument. -/
def readLetters? (rest : List String) : Flags → List Char → Option (Flags × List String)
  | fs, [] => some (fs, rest)
  | fs, c :: cs => do
    let f ← Flag.ofShort? c
    if f.isSwitch then readLetters? rest (← fs.add? f (.bool true)) cs
    else match cs with
      | [] => fs.takeNext? f rest
      | '=' :: value => (fs.addText? f (String.ofList value)).map (·, rest)
      | value => (fs.addText? f (String.ofList value)).map (·, rest)

/-- Splits an argument at its first equals sign. -/
def splitInline (cs : List Char) : String × Option String :=
  let name := cs.takeWhile (· != '=')
  (String.ofList name, (cs.drop name.length).tail?.map String.ofList)

/-- Reads one argument, which may take the next one as its value. -/
def readOne? (fs : Flags) (arg : String) (rest : List String) : Option (Flags × List String) :=
  match arg.toList with
  | '-' :: '-' :: [] => if rest.isEmpty then some (fs, []) else none
  | '-' :: '-' :: _ => do
    let (name, inline) := splitInline arg.toList
    let f ← Flag.ofLong? name
    match inline with
    | some value => (fs.addText? f value).map (·, rest)
    | none => if f.isSwitch then (fs.add? f (.bool true)).map (·, rest) else fs.takeNext? f rest
  | '-' :: c :: cs => fs.readLetters? rest (c :: cs)
  | _ => none

/-- Reads arguments; `fuel` bounds their count. -/
def readAll? : Nat → Flags → List String → Option Flags
  | 0, _, _ => none
  | _ + 1, fs, [] => some fs
  | fuel + 1, fs, arg :: rest => do
    let (fs, rest) ← fs.readOne? arg rest
    readAll? fuel fs rest

/-- Reads the arguments after the program's name. -/
def parse? (args : List String) : Option Flags := readAll? (args.length + 1) .empty args

/-- The file of settings that was named. -/
def configPath? (fs : Flags) : Option Path :=
  (fs.given.find? (·.1.kind == .configPath)).bind fun (_, v) => v.string?.map Path.mk

/-- The settings that the flags set, by name. A switch counts as set also if it is not given: it is
off then. -/
def toLayer (fs : Flags) : List (String × Json) :=
  let off := (Flag.all.filter (·.isSwitch)).filter fun f => !fs.given.any (·.1 == f)
  fs.given.map (fun (f, v) => (f.field, v)) ++ off.map fun f => (f.field, .bool false)

end Flags

end PluginHost
