import PluginHost.FileSystem
import PluginHost.Settings.Flags
import PluginHost.Settings.LooseValue
import PluginHost.Settings.Toml

/-!
# Layers of settings

Settings come from a file, from the environment and from the command line. Each is a document in
which anything may be missing; a later layer wins over an earlier one, name by name.

* `Layers.overlay` puts one document over another, `Layers.merge` puts all layers over each other.
* `fileLayer` finds the file, `environmentLayer` joins what variables set, `Flags.toLayer` says what
  the command line sets.
* `Layering` is a library that does this, and `Layering.standard` is the one above.
* `Settings.loadWith` reads the result of a library, `Settings.load` that of the standard one.
-/

namespace PluginHost

/-- Why settings cannot be loaded. -/
inductive SettingsError where
  /-- The command line cannot be read. -/
  | commandLine
  /-- A file of settings cannot be read. -/
  | file
  /-- Files of settings extend each other in a circle. -/
  | cycle
  /-- The layers together are no settings. -/
  | merge
deriving DecidableEq, Repr

namespace Layers

/-! ## Merging -/

/-- Puts a member into a list of members, in place of one of its name. -/
def putMember (ms : List (String × Json)) (name : String) (value : Json) : List (String × Json) :=
  if ms.any (·.1 == name) then ms.map fun (k, v) => if k == name then (k, value) else (k, v)
  else ms ++ [(name, value)]

def member? (ms : List (String × Json)) (name : String) : Option Json :=
  (ms.find? (·.1 == name)).map (·.2)

mutual

/-- Puts a document over another. Objects are joined name by name, anything else is replaced. -/
def overlay (under : Json) : Json → Json
  | .object above =>
    match under with
    | .object ms => .object (overlayMembers ms above)
    | _ => .object (overlayMembers [] above)
  | above => above

def overlayMembers (ms : List (String × Json)) : List (String × Json) → List (String × Json)
  | [] => ms
  | (name, value) :: rest =>
    overlayMembers (putMember ms name (overlay ((member? ms name).getD .null) value)) rest

end

/-- A document without members, which is as good as none. -/
def isBlank : Json → Bool
  | .object [] => true
  | _ => false

/-- Puts layers over each other, the first one at the bottom. No layers at all are null. -/
def merge (layers : List Json) : Json :=
  (layers.filter (!isBlank ·)).foldl overlay .null

/-! ## The environment -/

/-- What names of variables for settings begin with, in any letter case. -/
def variableStem : String := "lyre_"

/-- The parts of a name between points and pairs of underscores. `part` is what was read of the part
in front, backwards. -/
def splitName (part : List Char) : List Char → List String
  | [] => [String.ofList part.reverse]
  | '_' :: '_' :: cs => String.ofList part.reverse :: splitName [] cs
  | '.' :: cs => String.ofList part.reverse :: splitName [] cs
  | c :: cs => splitName (c :: part) cs

/-- The names along which a variable's value is put: a point or two underscores lead into a table.
A variable with an empty name on its way is none of the settings'. -/
def variablePath? (name : String) : Option (List String) :=
  let cs := Blank.trim (asciiLower name).toList
  if variableStem.toList.isPrefixOf cs then
    let names := splitName [] (cs.drop variableStem.length)
    if names.any (·.isEmpty) then none else some names
  else none

/-- A document with one value, below a list of names. -/
def nested (path : List String) (value : Json) : Json :=
  path.foldr (fun name inner => .object [(name, inner)]) value

/-- The setting that a variable is for, and its value. -/
def settingOf? (entry : String × String) : Option (String × Json) :=
  match variablePath? entry.1 with
  | some (name :: inner) => some (name, nested inner (LooseValue.read entry.2))
  | _ => none

/-- The settings in the environment as one layer. Of two variables for one setting the later one
counts, also where they lead to different places in a table. -/
def environmentLayer (settings : List (String × Json)) : List (String × Json) :=
  settings.foldl (fun ms m => putMember ms m.1 m.2) []

/-! ## Files -/

/-- Formats that are known and not read. -/
def foreignExtensions : List String := ["json", "json5", "yaml", "yml"]

/-- Reads the text of a file of settings. It is a file if the second edition of its format allows
it; its values can be merged if the first edition does. -/
def readDocument (fs : FileSystem) (p : Path) : Except SettingsError Json :=
  if foreignExtensions.contains (asciiLower (p.extension?.getD "")) then .error .file
  else match fs.readWithin p with
    | .ok (_, .text s) =>
      if (Toml.parse? .second s).isNone then .error .file
      else match Toml.parse? .first s with
        | some j => .ok j
        | none => .error .merge
    | _ => .error .file

/-- The path of a location. -/
def pathOfLocation (l : Location) : Path := ⟨"/" ++ "/".intercalate l⟩

/-- The file that a document extends, if it says so. The name is taken from the document's own
directory. -/
def extended? (place : Location) (j : Json) : Except SettingsError (Option Path) :=
  if !j.has "extends" then .ok none
  else match j.get "extends" with
    | .string s =>
      if s.isEmpty then .error .file
      else .ok (some ((pathOfLocation place.dropLast).join ⟨s⟩))
    | _ => .error .file

/-- Reads a file over the one that it extends. `seen` are the files on the way here. A path to
nothing has no document. -/
def loadFileFrom (fs : FileSystem) : Nat → List Location → Path → Except SettingsError (Option Json)
  | 0, _, _ => .error .cycle
  | fuel + 1, seen, p =>
    match fs.stat p with
    | .error .notFound => .ok none
    | .error _ => .error .file
    | .ok (place, _) =>
      if seen.contains place then .error .cycle
      else do
        let own ← readDocument fs p
        match ← extended? place own with
        | none => return some own
        | some base =>
          match ← loadFileFrom fs fuel (place :: seen) base with
          | some under => return some (overlay under own)
          | none => .error .file

/-- No chain of extensions is longer than the count of files. -/
def loadFile (fs : FileSystem) (p : Path) : Except SettingsError (Option Json) :=
  loadFileFrom fs (fs.nodes.length + 1) [] p

/-- The directories for files of settings that are the same for all users, or one in which they
usually are. -/
def sharedDirs (env : Environment) : List Path :=
  let listed := (((env.value? "XDG_CONFIG_DIRS").getD "").splitOn ":").filter (!·.isEmpty)
  if listed.isEmpty then [⟨"/etc/xdg"⟩] else listed.map Path.mk

/-- The files of settings that a directory may have. -/
def filesIn (d : Path) : List Path := [d.join ⟨"lyre/config.toml"⟩, d.join ⟨".lyre.toml"⟩]

/-- Where a file of settings may be that nobody named on the command line, in the order in which the
places are tried. A variable that is set to no text stands for the current directory. -/
def usualFiles (fs : FileSystem) (env : Environment) : List Path :=
  let set (name : String) : List Path := ((env.value? name).map Path.mk).toList
  let inHome := (set "HOME").flatMap fun h =>
    filesIn (h.join ⟨".config"⟩) ++ [h.join ⟨".lyre.toml"⟩]
  let here := (pathOfLocation fs.current).join ⟨".lyre.toml"⟩
  set "LYRE_CONFIG_PATH" ++ (set "XDG_CONFIG_HOME" ++ sharedDirs env).flatMap filesIn ++ inHome ++
    [here]

/-- The first document among some places, and the errors of the places before it. -/
def firstFile (fs : FileSystem) : List Path → Option Json × List SettingsError
  | [] => (none, [])
  | p :: ps =>
    match loadFile fs p with
    | .ok (some j) => (some j, [])
    | .ok none => firstFile fs ps
    | .error e =>
      let (found, errors) := firstFile fs ps
      (found, e :: errors)

/-- The file of settings. The one named on the command line has to be there; if it is not, that is
an error and the usual places are tried. Errors of usual places count only if none has a file. No
place is tried twice. -/
def fileLayer (fs : FileSystem) (env : Environment) (named : Option Path) :
    Option Json × List SettingsError :=
  let others := (usualFiles fs env).eraseDups.filter fun p => !p.text.isEmpty && some p != named
  let usual : List SettingsError → Option Json × List SettingsError := fun errors =>
    match firstFile fs others with
    | (some j, _) => (some j, errors)
    | (none, more) => (none, errors ++ more)
  match named with
  | none => usual []
  | some p =>
    match loadFile fs p with
    | .ok (some j) => (some j, [])
    | .ok none => usual [.file]
    | .error e => usual [e]

end Layers

/-! ## Loading -/

/-- A library that settings are loaded with. It finds what each source says, by the names of
settings, and makes one document of several. -/
structure Layering where
  /-- The flags of a command line with their values, if it can be read. -/
  flags? : List String → Option Flags
  /-- The document in the file of settings, and what stood in the way of one. -/
  file : FileSystem → Environment → Option Path → Option Json × List SettingsError
  /-- The setting that a variable is for, and its value. -/
  setting? : String × String → Option (String × Json)
  /-- The layer of the environment, from what its variables set. -/
  environment : List (String × Json) → List (String × Json)
  /-- The layer of the command line. -/
  commandLine : Flags → List (String × Json)
  /-- One document of several, the first one at the bottom. -/
  merge : List Json → Json

/-- The library that the program runs with. -/
def Layering.standard : Layering where
  flags? := Flags.parse?
  file := Layers.fileLayer
  setting? := Layers.settingOf?
  environment := Layers.environmentLayer
  commandLine := Flags.toLayer
  merge := Layers.merge

/-- What the variables set, in their order. -/
def Layering.settings (L : Layering) (env : Environment) : List (String × Json) :=
  env.filterMap L.setting?

namespace Settings

/-- Loads settings from a command line (without the program's name), the environment and files. All
errors are collected; there are settings only if there is none. -/
def loadWith (L : Layering) (fs : FileSystem) (env : Environment) (args : List String) :
    Except (List SettingsError) Settings :=
  let flags := L.flags? args
  let flagErrors := if flags.isNone then [SettingsError.commandLine] else []
  let (file, fileErrors) := L.file fs env (flags.bind (·.configPath?))
  let layers := file.toList ++ [.object (L.environment (L.settings env))] ++
    (flags.map fun given => Json.object (L.commandLine given)).toList
  match ofJson? env (L.merge layers) with
  | none => .error (flagErrors ++ fileErrors ++ [.merge])
  | some s =>
    match flagErrors ++ fileErrors with
    | [] => .ok s
    | errors => .error errors

/-- Loads settings with the standard library. -/
def load : FileSystem → Environment → List String → Except (List SettingsError) Settings :=
  loadWith .standard

end Settings

end PluginHost
