/-!
# Entry points

The functions that a plugin may export. A plugin of the current interface exports one function for
each capability; an older one exports up to three factories of static records.
-/

namespace PluginHost

/-- A function of the current interface. -/
inductive EntryPoint where
  | init
  | shutdown
  | name
  | apiVersion
  | registerApi
  | hostInfo
  | version
  | author
  | description
  | registerId
  | features
  | deactivateFeatures
  | offerPositional
  | fetchPositional
  | stopPositional
  | serverConnected
  | serverDisconnected
  | channelEntered
  | channelExited
  | talkingChanged
  | receiveData
  | audioInput
  | audioFetched
  | audioProcessed
  | audioOutput
deriving DecidableEq, Repr

namespace EntryPoint

/-- The name under which a plugin exports the function. -/
def symbol : EntryPoint → String
  | init => "init"
  | shutdown => "shutdown"
  | name => "getName"
  | apiVersion => "getAPIVersion"
  | registerApi => "registerAPIFunctions"
  | hostInfo => "setMumbleInfo"
  | version => "getVersion"
  | author => "getAuthor"
  | description => "getDescription"
  | registerId => "registerPluginID"
  | features => "getPluginFeatures"
  | deactivateFeatures => "deactivateFeatures"
  | offerPositional => "initPositionalData"
  | fetchPositional => "fetchPositionalData"
  | stopPositional => "shutdownPositionalData"
  | serverConnected => "onServerConnected"
  | serverDisconnected => "onServerDisconnected"
  | channelEntered => "onChannelEntered"
  | channelExited => "onChannelExited"
  | talkingChanged => "onUserTalkingStateChanged"
  | receiveData => "onReceiveData"
  | audioInput => "onAudioInput"
  | audioFetched => "onAudioSourceFetched"
  | audioProcessed => "onAudioSourceProcessed"
  | audioOutput => "onAudioOutputAboutToPlay"

/-- Without these a plugin is not a plugin of the current interface. They are looked up in this
order. -/
def mandatory : List EntryPoint := [init, shutdown, name, apiVersion, registerApi]

/-- What a plugin may say about itself and be told beyond the mandatory. -/
def descriptive : List EntryPoint :=
  [hostInfo, version, author, description, registerId, features, deactivateFeatures]

/-- These count only when all three are exported. -/
def positional : List EntryPoint := [offerPositional, fetchPositional, stopPositional]

/-- Notifications about servers, channels, users and data. -/
def events : List EntryPoint :=
  [serverConnected, serverDisconnected, channelEntered, channelExited, talkingChanged, receiveData]

/-- Hooks into the audio pipeline. -/
def hooks : List EntryPoint := [audioInput, audioFetched, audioProcessed, audioOutput]

def all : List EntryPoint := mandatory ++ descriptive ++ positional ++ events ++ hooks

theorem mem_all (e : EntryPoint) : e ∈ all := by cases e <;> decide

end EntryPoint

namespace LegacySymbol

/-- The factory of the main record, without which a plugin is not of the older interface. -/
def primary : String := "getMumblePlugin"

/-- The factory of the record with the process-aware lock. -/
def extended : String := "getMumblePlugin2"

/-- The factory of the record with dialog hooks. -/
def dialogs : String := "getMumblePluginQt"

end LegacySymbol

end PluginHost
