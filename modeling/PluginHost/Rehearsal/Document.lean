import PluginHost.FileSystem
import PluginHost.Json.Basic
import PluginHost.Json.Parser
import PluginHost.Rehearsal.Stage

/-!
# Stage documents

Scripts, processes and files as JSON, for rehearsals that are written down. What a script leaves out
has the value that a plain plugin has.

* A float is eight hexadecimal digits of its bits, or `nan`.
* Narrow text is a string or an object with its bytes as hexadecimal digits (`hex`); null is no
  text.
* Wide text is a string, an object with its `units`, or one with a unit to `repeat` and a count.
-/

namespace PluginHost
namespace Rehearsal
namespace Document

/-! ## Values -/

def ofHexDigits : List Char → List UInt8
  | a :: b :: rest =>
    UInt8.ofNat ((Json.hexValue? a).getD 0 * 16 + (Json.hexValue? b).getD 0) :: ofHexDigits rest
  | _ => []

/-- Bytes from pairs of hexadecimal digits. -/
def bytes (s : String) : List UInt8 := ofHexDigits s.toList

def float (j : Json) : Binary32 :=
  if j.asString = "nan" then .nan
  else ⟨UInt32.ofNat ((bytes j.asString).foldl (fun n b => n * 256 + b.toNat) 0)⟩

def item (j : Json) (i : Nat) : Json := j.items[i]?.getD .null

def vector (j : Json) : Vector3 := ⟨float (item j 0), float (item j 1), float (item j 2)⟩

def version (j : Json) : Version :=
  let part (i : Nat) : Int32 := Int32.ofInt (item j i).asInt
  ⟨part 0, part 1, part 2⟩

def narrow : Json → Option (List UInt8)
  | .string s => some (Utf8.encode s)
  | .object ms => some (bytes ((Json.object ms).get "hex").asString)
  | _ => none

def wide (j : Json) : Option (List UInt32) :=
  let unit (j : Json) : UInt32 := UInt32.ofNat j.asNat
  match j with
  | .string s => some (Wide.encode s)
  | .object _ =>
    if j.has "repeat" then
      let run := j.get "repeat"
      some (List.replicate (item run 1).asNat (unit (item run 0)) ++ [0])
    else some ((j.get "units").items.map unit ++ [0])
  | _ => none

def processes (js : List Json) : List Process :=
  js.map fun j => ⟨(item j 0).asString, UInt64.ofNat (item j 1).asNat⟩

/-- A member that is a flag, and true if it is missing. -/
def flagOrTrue (j : Json) (name : String) : Bool := (j.get name).bool?.getD true

/-- A member that is there. -/
def member? (j : Json) (name : String) : Option Json :=
  if j.has name then some (j.get name) else none

def word (j : Json) (name : String) (fallback : Nat) : UInt32 :=
  UInt32.ofNat ((j.get name).nat?.getD fallback)

/-! ## Scripts -/

def fetchAnswer (j : Json) : FetchAnswer :=
  let v (name : String) : Option Vector3 := (member? j name).map vector
  let vectors : Pose (Option Vector3) := ⟨v "ap", v "af", v "at", v "cp", v "cf", v "ct"⟩
  let context := narrow (j.get "context")
  let length := ((j.get "context_len").nat?).getD ((context.map (·.length)).getD 0)
  ⟨⟨vectors, context, narrow (j.get "identity"), flagOrTrue j "keep"⟩,
    ⟨vectors, context, length, wide (j.get "identity"),
      Int32.ofInt (((j.get "attached").int?).getD 1)⟩⟩

/-- The number that a record of an older plugin carries. -/
def magic (j : Json) : UInt32 := word j "magic" Legacy.magic.toNat

def record {α : Type} (f : Json → α) (j : Json) : Option α :=
  if j.isObject then some (f j) else none

def primary (j : Json) : LegacyPrimary where
  magic := magic j
  description := wide (j.get "description")
  shortName := wide (j.get "name")
  hasAbout := (j.get "about").asBool
  hasConfig := (j.get "config").asBool
  hasTryLock := flagOrTrue j "try_lock"
  hasUnlock := flagOrTrue j "unlock"
  hasLongDescription := j.has "long"
  hasFetch := flagOrTrue j "fetch"

def extended (j : Json) : LegacyExtended := ⟨magic j, word j "version" 2, flagOrTrue j "try_lock"⟩

def dialogs (j : Json) : LegacyDialogs := ⟨magic j, (j.get "about").asBool, (j.get "config").asBool⟩

/-- The names that a script exports. -/
def exported (j : Json) : List String :=
  let asked : List String := match member? j "exports" with
    | some names => names.items.map (·.asString)
    | none => ["@mandatory"]
  let factory (name symbol : String) := if (j.get name).isNull then [] else [symbol]
  let without : List String := (j.get "without").items.map (·.asString)
  let all := asked.flatMap exportGroup ++ factory "primary" LegacySymbol.primary ++
    factory "extended" LegacySymbol.extended ++ factory "qt" LegacySymbol.dialogs
  all.filter fun s => !without.contains s

def script (j : Json) : Script where
  label := ((member? j "label").map (·.asString)).getD "fake"
  generation := if (j.get "abi").asString = "legacy" then .legacy else .current
  isDemo := (j.get "demo").asBool
  exports := exported j
  name := said "name" "Fake plugin"
  author := said "author" "Lyre developers"
  description := said "description" "Reports a fixed pose"
  apiVersion := ((member? j "api_version").map version).getD .pluginApi
  version := ((member? j "version").map version).getD ⟨1, 2, 3⟩
  features := ⟨word j "features" 3⟩
  deactivateMask := ⟨word j "deactivate_mask" 1⟩
  initLog := narrow (j.get "init_log")
  init := (j.get "init").items.map fun n => ⟨Int32.ofInt n.asInt⟩
  offers := (j.get "pos_init").items.map fun n => ⟨UInt8.ofNat n.asNat⟩
  fetches := (j.get "fetch").items.map fetchAnswer
  locks := (j.get "lock").items.map fun n => Int32.ofInt n.asInt
  handled := (j.get "receive").items.filterMap narrow
  gain := Int16.ofInt ((j.get "audio").get "add").asInt
  factor := (member? (j.get "audio") "mul").map float
  audioResult := ((j.get "audio").get "result").asBool
  primary := record primary (j.get "primary")
  longDescription := (member? (j.get "primary") "long").bind wide
  extended := record extended (j.get "extended")
  dialogs := record dialogs (j.get "qt")
where
  said (name fallback : String) : Option (List UInt8) :=
    match member? j name with
    | some t => narrow t
    | none => some (Utf8.encode fallback)

/-- A document with some members replaced. -/
def amend (j changes : Json) : Json :=
  match j, changes with
  | .object ms, .object ns => .object (ms ++ ns)
  | _, _ => j

/-- A stage with the parts and the processes of a document. -/
def stage (j : Json) : Stage :=
  .new ((j.get "plugins").items.map script) (processes (j.get "processes").items)
    (j.get "bridge").asBool

/-! ## Files -/

/-- Puts an entry at a path: a directory, a link, or a file. -/
def putEntry (fs : FileSystem) (p : Path) (content : Json) : FileSystem :=
  if (content.get "dir").asBool then (fs.createDirAll p).2
  else
    let fs := match p.parent? with
      | some d => (fs.createDirAll d).2
      | none => fs
    let result := match content, member? content "link" with
      | _, some target => fs.makeLink p ⟨target.asString⟩
      | .string s, none => fs.write p (.text s)
      | other, none => fs.write p (.library (other.get "lib").asString)
    result.toOption.getD fs

/-- Puts files below a directory, in order. -/
def putFiles (fs : FileSystem) (directory : Path) (files : List Json) : FileSystem :=
  files.foldl (fun fs f => putEntry fs (directory.join ⟨(item f 0).asString⟩) (item f 1)) fs

/-! ## Settings -/

/-- Variables with their values. -/
def environment : Json → Environment
  | .object ms => ms.map fun (name, value) => (name, value.asString)
  | _ => []

/-- Settings that are given in a document; there is no other source for them. -/
def settings (j : Json) : Settings where
  systemPluginDir := (j.get "system").string?.map Path.mk
  userPluginDir := (j.get "user").string?.map Path.mk
  logFilter := (j.get "filter").asString
  logFormat := (LogFormat.parse? (j.get "format").asString).getD .compact
  pluginLogLevel := (LogLevel.parse? (j.get "level").asString).getD .info
  fetchIntervalMs := (j.get "interval").asNat
  disablePositionalData := (j.get "disable").asBool

end Document
end Rehearsal
end PluginHost
