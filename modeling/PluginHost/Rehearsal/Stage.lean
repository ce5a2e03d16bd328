import PluginHost.HostTable
import PluginHost.Interaction
import PluginHost.LogEvent
import PluginHost.Rehearsal.Script

/-!
# Stages

A world to play interactions in: stand-ins for plugins, a table of processes, and a journal of what
was asked of them.

* A built-in is played by one of the stage's *parts*. All built-ins that are the demo plugin share
  one state.
* A library is mapped while some plugin uses it. Plugins from the same file share one state, which
  starts fresh when the file is mapped again.
-/

namespace PluginHost
namespace Rehearsal

/-- What the journal notes. -/
inductive Entry where
  | called (part : Nat) (call : Call)
  | logReturned (part : Nat) (status : Status)
  | hostAsked (question : HostTable.Question)
  | processesListed
  | health (event : HealthEvent)
deriving DecidableEq, Repr

/-- A stand-in with what it remembers. -/
structure Part where
  script : Script
  memory : Memory
deriving DecidableEq, Repr

/-- A library in use: its place, the handles of those who use it, and its state. -/
structure Mapping where
  location : Location
  handles : List Nat
  part : Part
  demo : Demo.State
deriving DecidableEq, Repr

structure Stage where
  parts : List Part
  /-- The part that plays a built-in. -/
  roles : List Nat
  demo : Demo.State
  mappings : List Mapping
  processes : List Process
  /-- Somebody answers the questions that the host's function table puts. -/
  bridged : Bool
  /-- The journal notes health events. -/
  hearsHealth : Bool
  /-- Why nothing can be written, if so. -/
  outputFault : Option String
  /-- What was written. -/
  output : String
  /-- Most recent first. -/
  journal : List Entry
  /-- What went to the operator's log, most recent first. -/
  log : List LogEvent
deriving DecidableEq, Repr

namespace Stage

def new (scripts : List Script) (processes : List Process) (bridged : Bool) : Stage where
  parts := scripts.map fun s => ⟨s, .initial⟩
  roles := []
  demo := .initial
  mappings := []
  processes := processes
  bridged := bridged
  hearsHealth := true
  outputFault := none
  output := ""
  journal := []
  log := []

/-- Calls that only read what a plugin says about itself are not noted. -/
def isNoted : Call → Bool
  | .load | .unload | .name | .apiVersion | .version | .author | .description | .features
  | .primaryFactory | .extendedFactory | .dialogFactory => false
  | _ => true

def note (st : Stage) (e : Entry) : Stage := { st with journal := e :: st.journal }

/-- The entries since the journal was last taken, in order. -/
def takeJournal (st : Stage) : List Entry × Stage := (st.journal.reverse, { st with journal := [] })

/-- Gives a part another script; its sequences start again. -/
def recast (st : Stage) (part : Nat) (script : Script) : Stage :=
  { st with parts := st.parts.modify part fun p => ⟨script, p.memory.rewound⟩ }

/-- Somebody obeys every command and knows nothing. -/
def bridge (st : Stage) : Option HostTable.Bridge :=
  if st.bridged then some ⟨fun _ => .error .genericError, fun _ => .ok⟩ else none

/-- A plugin hands a line to the host's log. -/
def hostLog (st : Stage) (caller : PluginId) (message : List UInt8) : Status × Stage :=
  let served := HostTable.serve st.bridge 0 .empty (.log caller (some message))
  let st := served.asked.foldl (fun st q => st.note (.hostAsked q)) st
  let st := match served.logged with
    | some (caller, line) => { st with log := .plugin caller line :: st.log }
    | none => st
  (served.status, st)

/-- The demo plugin's line during a call. -/
def greet (st : Stage) (c : Call) (demo : Demo.State) : Stage :=
  match Demo.logLine c demo with
  | some (id, line) => (st.hostLog id (Utf8.encode line)).2
  | none => st

/-- A stand-in that was started hands its line to the host's log, if it has the host's table. -/
def speak (st : Stage) (index : Nat) (part : Part) (c : Call) : Stage :=
  match c, part.script.initLog with
  | .init, some line =>
    if part.memory.hasTable then
      let (status, st) := st.hostLog part.memory.id line
      st.note (.logReturned index status)
    else st
  | _, _ => st

/-- A call of a built-in. -/
def callPart (st : Stage) (index : Nat) (c : Call) : c.Reply × Stage :=
  match st.parts[index]? with
  | none => (c.silence, st)
  | some part =>
    if part.script.isDemo then
      match c with
      | .load => (some part.script.table, st)
      | c =>
        let (reply, demo) := Demo.answer c st.demo
        (reply, { st.greet c st.demo with demo })
    else
      let st := if isNoted c then st.note (.called index c) else st
      let (reply, memory) := part.script.answer c part.memory
      (reply, { st.speak index part c with
        parts := st.parts.modify index fun p => { p with memory } })

/-! ## Libraries -/

/-- Maps a library for a handle, if its path leads to one. A path without a slash is not looked for
among the files. -/
def map (st : Stage) (handle : Nat) (path : Path) (file : Option (Location × Content)) :
    Option SymbolTable × Stage :=
  match file with
  | some (location, .library content) =>
    match libraryScript? content with
    | none => (none, st)
    | some script =>
      if !path.text.toList.contains '/' then (none, st)
      else if st.mappings.any (·.location == location) then
        (some script.table, { st with mappings := st.mappings.map fun m =>
          if m.location = location then { m with handles := handle :: m.handles } else m })
      else
        (some script.table, { st with mappings := st.mappings ++
          [⟨location, [handle], ⟨script, .initial⟩, .initial⟩] })
  | _ => (none, st)

/-- Releases a handle, and the library when nobody uses it any more. -/
def release (st : Stage) (handle : Nat) : Stage :=
  let mappings := st.mappings.map fun m => { m with handles := m.handles.filter (· != handle) }
  { st with mappings := mappings.filter fun m => !m.handles.isEmpty }

/-- A call of a library. -/
def callMapping (st : Stage) (handle : Nat) (c : Call) : c.Reply × Stage :=
  match st.mappings.find? (·.handles.contains handle) with
  | none => (c.silence, st)
  | some m =>
    let put (st : Stage) (m' : Mapping) : Stage :=
      { st with mappings := st.mappings.map fun n => if n.location = m'.location then m' else n }
    if m.part.script.isDemo then
      let (reply, demo) := Demo.answer c m.demo
      (reply, put (st.greet c m.demo) { m with demo })
    else
      let (reply, memory) := m.part.script.answer c m.part.memory
      (reply, put st { m with part := { m.part with memory } })

/-! ## The world -/

/-- Answers a query. -/
def answer : Interaction.World Stage := fun q st =>
  match q with
  | .processes => (st.processes, st.note .processesListed)
  | .report e =>
    let st := { st with log := .health e :: st.log }
    ((), if st.hearsHealth then st.note (.health e) else st)
  | .write s =>
    match st.outputFault with
    | some reason => if s.isEmpty then (.ok (), st) else (.error reason, st)
    | none => (.ok (), { st with output := st.output ++ s })
  | .pause _ => ((), st)
  | .plugin who c =>
    match who.source with
    | .builtIn index => st.callPart ((st.roles[index]?).getD index) c
    | .library path file =>
      match c with
      | .load => st.map who.handle path file
      | .unload => ((), st.release who.handle)
      | c => st.callMapping who.handle c

/-- Plays an interaction on a stage. -/
def play {α : Type} (st : Stage) (x : Interaction α) : α × Stage := x.run answer st

end Stage
end Rehearsal
end PluginHost
