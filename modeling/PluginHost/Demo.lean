import PluginHost.Call
import PluginHost.Text.Utf8

/-!
# The demo plugin

A plugin of the current interface that comes with the host. While its game runs it walks an avatar
along the first axis, half a metre each fetch.

* `Demo.State` is what it remembers; `Demo.answer` is what it does when it is called.
* The walk starts again when the plugin is started, when it accepts an offer, and when it is
  stopped.
-/

namespace PluginHost

/-- The answer of a plugin that does nothing: zeros, null pointers, buffers as they were. -/
def Call.silence : (c : Call) → c.Reply
  | .load => none
  | .unload => ()
  | .init => .ok
  | .shutdown => ()
  | .name => none
  | .apiVersion => .zero
  | .registerApi => ()
  | .hostInfo .. => ()
  | .version => .zero
  | .author => none
  | .description => none
  | .registerId _ => ()
  | .features => .none
  | .deactivateFeatures _ => .none
  | .offerPositional .. => .ok
  | .fetchPositional => ⟨.replicate none, none, none, false⟩
  | .stopPositional => ()
  | .serverConnected _ => ()
  | .serverDisconnected _ => ()
  | .channelEntered .. => ()
  | .channelExited .. => ()
  | .talkingChanged .. => ()
  | .receiveData .. => false
  | .audioInput b _ => ⟨false, b.samples⟩
  | .audioFetched b _ _ => ⟨false, b.samples⟩
  | .audioProcessed b _ _ => ⟨false, b.samples⟩
  | .audioOutput b => ⟨false, b.samples⟩
  | .primaryFactory => none
  | .extendedFactory => none
  | .dialogFactory => none
  | .longDescription => none
  | .tryLock => 0
  | .tryLockAmong _ => 0
  | .unlock => ()
  | .fetchLegacy => ⟨.replicate none, none, 0, none, 0⟩
  | .showDialog _ => ()

namespace Demo

/-- The process that the plugin waits for. -/
def game : String := "lyre-demo-game"

def pluginName : String := "Lyre demo"
def authorName : String := "Lyre developers"
def descriptionText : String := "Walks an avatar along the X axis while lyre-demo-game runs"
def pluginVersion : Version := ⟨0, 1, 0⟩
def contextText : String := "demo-server"
def identityText : String := "demo-walker"

/-- What the plugin tells the host when it is started. -/
def greeting : String := "demo plugin ready"

/-- The functions that the plugin exports. -/
def exported : List EntryPoint :=
  EntryPoint.mandatory ++
    [.version, .author, .description, .registerId, .features, .deactivateFeatures] ++
    EntryPoint.positional

/-- The plugin's table of exports. -/
def table (origin : String) : SymbolTable :=
  .ofNames origin (exported.map (·.symbol))

/-- Whether the host's function table is at hand, the plugin's identity, and how many strides the
walk has taken. The count of strides wraps. -/
structure State where
  hasTable : Bool
  id : PluginId
  steps : UInt16
deriving DecidableEq, Repr, Inhabited

def State.initial : State := ⟨false, 0, 0⟩

/-- The walk starts again. -/
def State.restart (s : State) : State := { s with steps := 0 }

/-- The distance of a count of strides of half a metre. -/
def distance (steps : UInt16) : Binary32 :=
  (Binary32.ofUnits false (steps.toNat * Binary32.unitsOfOne)).mul .half

/-- The pose after a count of strides. -/
def pose (steps : UInt16) : Pose Vector3 :=
  let x := distance steps
  let ahead : Vector3 := ⟨.one, .zero, .zero⟩
  let up : Vector3 := ⟨.zero, .one, .zero⟩
  ⟨⟨x, .zero, .zero⟩, ahead, up, ⟨x, ⟨0x3fc00000⟩, .zero⟩, ahead, up⟩

/-- The game is among the processes. -/
def finds (names : List (List UInt8)) : Bool :=
  names.any fun n => Utf8.untilNul n == Utf8.encode game

/-- Answers an offer; accepting it starts the walk again. A null list of names holds no game. -/
def offer (names : Option (List (List UInt8))) (s : State) : OfferCode × State :=
  if finds (names.getD []) then (.ok, s.restart) else (.temporary, s)

def fetch (s : State) : FetchReply × State :=
  (⟨(pose s.steps).map some, some (Utf8.encode contextText), some (Utf8.encode identityText), true⟩,
    { s with steps := s.steps + 1 })

/-- Does what a call asks. A call that the plugin has no function for does nothing. -/
def answer : (c : Call) → State → c.Reply × State
  | .init, s => (.ok, s.restart)
  | .shutdown, s => ((), { s with hasTable := false })
  | .name, s => (some (Utf8.encode pluginName), s)
  | .apiVersion, s => (.pluginApi, s)
  | .registerApi, s => ((), { s with hasTable := true })
  | .version, s => (pluginVersion, s)
  | .author, s => (some (Utf8.encode authorName), s)
  | .description, s => (some (Utf8.encode descriptionText), s)
  | .registerId id, s => ((), { s with id })
  | .features, s => (.positional, s)
  | .deactivateFeatures requested, s => (requested.inter .positional, s)
  | .offerPositional names _, s => offer (some names) s
  | .fetchPositional, s => fetch s
  | .stopPositional, s => ((), s.restart)
  | c, s => (c.silence, s)

/-- The line that the plugin hands to the host's log during a call, with the identity that it signs
with. Without the function table it can hand over nothing. -/
def logLine (c : Call) (s : State) : Option (PluginId × String) :=
  match c with
  | .init => if s.hasTable then some (s.id, greeting) else none
  | _ => none

/-! ## Laws -/

theorem steps_restart (s : State) : s.restart.steps = 0 := rfl

theorem steps_fetch (s : State) : (fetch s).2.steps = s.steps + 1 := rfl

end Demo

end PluginHost
