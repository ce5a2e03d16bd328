import PluginHost.EntryPoint
import PluginHost.FeatureSet
import PluginHost.FileSystem
import PluginHost.Snapshot
import PluginHost.Status
import PluginHost.SymbolTable
import PluginHost.Version

/-!
# Calls

Everything that the host asks of the world outside, with the type of the answer.

* `Call` is a call into one plugin: a function of the current interface, a callback of the older
  one, or the loader mapping and releasing the plugin's code. `Call.Reply` is what comes back.
* `Query` adds what is not asked of a plugin: the process table and the reports on the host's
  health.

Plugins are free in what they answer: nothing here says what a reply has to be.
-/

namespace PluginHost

/-! ## Arguments -/

/-- A running process. -/
structure Process where
  name : String
  pid : UInt64
deriving DecidableEq, Repr, Inhabited

/-- Where a plugin's code comes from. A library carries what its path named when it was looked at:
the location that identifies the file and its content. -/
inductive Source where
  | library (path : Path) (file : Option (Location × Content))
  | builtIn (index : Nat)
deriving DecidableEq, Repr

/-- One attempt to use a source as a plugin. No two attempts have the same handle. -/
structure Occupant where
  handle : Nat
  source : Source
deriving DecidableEq, Repr

/-- The interface that a plugin is driven through. -/
inductive Generation where
  /-- One exported function for each capability. -/
  | current
  /-- Factories of static records. -/
  | legacy
deriving DecidableEq, Repr, Inhabited

def Generation.text : Generation → String
  | .current => "current"
  | .legacy => "legacy"

/-- An audio buffer for a hook: its samples, how many frames of how many channels it announces. -/
structure AudioBlock (α : Type) where
  samples : List α
  frames : Nat
  channels : UInt16
deriving DecidableEq, Repr

/-! ## Answers -/

/-- What a hook leaves in the buffer, and whether it says that it changed it. -/
structure AudioReply (α : Type) where
  modified : Bool
  samples : List α
deriving DecidableEq, Repr

/-- What a plugin of the current interface leaves behind in a fetch. A text that it does not set
stays a null pointer; one that it sets is read up to its first zero byte. -/
structure FetchReply where
  vectors : Pose (Option Vector3)
  context : Option (List UInt8)
  identity : Option (List UInt8)
  proceed : Bool
deriving DecidableEq, Repr

/-- What an older plugin leaves behind in a fetch: the context as a buffer with a length, the
identity as a wide string, and a word that is zero when it lost its game. -/
structure LegacyFetchReply where
  vectors : Pose (Option Vector3)
  context : Option (List UInt8)
  contextLength : Nat
  identity : Option (List UInt32)
  attached : Int32
deriving DecidableEq, Repr

/-- The main record of an older plugin: texts, and which callbacks it has. -/
structure LegacyPrimary where
  magic : UInt32
  description : Option (List UInt32)
  shortName : Option (List UInt32)
  hasAbout : Bool
  hasConfig : Bool
  hasTryLock : Bool
  hasUnlock : Bool
  hasLongDescription : Bool
  hasFetch : Bool
deriving DecidableEq, Repr

/-- The record with the process-aware lock. -/
structure LegacyExtended where
  magic : UInt32
  version : UInt32
  hasTryLock : Bool
deriving DecidableEq, Repr

/-- The record with dialog hooks. -/
structure LegacyDialogs where
  magic : UInt32
  hasAbout : Bool
  hasConfig : Bool
deriving DecidableEq, Repr

/-- The dialogs of an older plugin, from its record of dialogs or from the main one. -/
inductive Dialog where
  | primaryAbout
  | primaryConfig
  | extraAbout
  | extraConfig
deriving DecidableEq, Repr

/-! ## Calls into a plugin -/

inductive Call where
  /-- The loader maps the code and reads the table of exports. -/
  | load
  /-- The loader lets go of the code. -/
  | unload
  | init
  | shutdown
  | name
  | apiVersion
  | registerApi
  | hostInfo (host api minimum : Version)
  | version
  | author
  | description
  | registerId (id : PluginId)
  | features
  | deactivateFeatures (requested : FeatureSet)
  | offerPositional (names : List (List UInt8)) (pids : List UInt64)
  | fetchPositional
  | stopPositional
  | serverConnected (connection : ConnectionId)
  | serverDisconnected (connection : ConnectionId)
  | channelEntered (connection : ConnectionId) (user : UserId) (previous new : ChannelId)
  | channelExited (connection : ConnectionId) (user : UserId) (channel : ChannelId)
  | talkingChanged (connection : ConnectionId) (user : UserId) (state : TalkingState)
  | receiveData (connection : ConnectionId) (sender : UserId) (data : List UInt8)
      (dataId : List UInt8)
  | audioInput (block : AudioBlock Int16) (speech : Bool)
  | audioFetched (block : AudioBlock Binary32) (speech : Bool) (user : UserId)
  | audioProcessed (block : AudioBlock Binary32) (speech : Bool) (user : UserId)
  | audioOutput (block : AudioBlock Binary32)
  | primaryFactory
  | extendedFactory
  | dialogFactory
  | longDescription
  | tryLock
  | tryLockAmong (entries : List (List UInt32 × UInt64))
  | unlock
  | fetchLegacy
  | showDialog (dialog : Dialog)
deriving DecidableEq, Repr

/-- The type of the answer to a call. -/
@[reducible]
def Call.Reply : Call → Type
  | load => Option SymbolTable
  | unload => Unit
  | init => Status
  | shutdown => Unit
  | name => Option (List UInt8)
  | apiVersion => Version
  | registerApi => Unit
  | hostInfo .. => Unit
  | version => Version
  | author => Option (List UInt8)
  | description => Option (List UInt8)
  | registerId _ => Unit
  | features => FeatureSet
  | deactivateFeatures _ => FeatureSet
  | offerPositional .. => OfferCode
  | fetchPositional => FetchReply
  | stopPositional => Unit
  | serverConnected _ => Unit
  | serverDisconnected _ => Unit
  | channelEntered .. => Unit
  | channelExited .. => Unit
  | talkingChanged .. => Unit
  | receiveData .. => Bool
  | audioInput .. => AudioReply Int16
  | audioFetched .. => AudioReply Binary32
  | audioProcessed .. => AudioReply Binary32
  | audioOutput _ => AudioReply Binary32
  | primaryFactory => Option LegacyPrimary
  | extendedFactory => Option LegacyExtended
  | dialogFactory => Option LegacyDialogs
  | longDescription => Option (List UInt32)
  | tryLock => Int32
  | tryLockAmong _ => Int32
  | unlock => Unit
  | fetchLegacy => LegacyFetchReply
  | showDialog _ => Unit

/-! ## Queries -/

/-- What a run of the probe gave up on. -/
inductive Failure where
  | settings
  | telemetry
  | userDirectory
  | plugin
  | serialise
  | write
deriving DecidableEq, Repr

/-- What an operator hears about the health of a run. -/
inductive HealthEvent where
  | starting
  | ready
  | scanned (count : Nat)
  | failed (cause : Failure)
deriving DecidableEq, Repr

inductive Query where
  | plugin (who : Occupant) (call : Call)
  /-- The table of running processes. -/
  | processes
  | report (event : HealthEvent)
  /-- Text for the standard output. -/
  | write (text : String)
  /-- A pause of some milliseconds. -/
  | pause (duration : Nat)
deriving DecidableEq, Repr

/-- The type of the answer to a query. A write that fails is answered with the reason. -/
@[reducible]
def Query.Reply : Query → Type
  | plugin _ call => call.Reply
  | processes => List Process
  | report _ => Unit
  | write _ => Except String Unit
  | pause _ => Unit

end PluginHost
