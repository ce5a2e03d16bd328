/-!
# Status codes

Integers that cross the plugin boundary as answers. Plugins are foreign code and may answer any
integer, so a code is a word with named values and not a closed list of cases.
-/

namespace PluginHost

/-- The outcome of a call, in either direction. Zero is success. -/
structure Status where
  code : Int32
deriving DecidableEq, Repr

namespace Status

def genericError : Status := ⟨-1⟩
def ok : Status := ⟨0⟩
def pointerNotFound : Status := ⟨1⟩
def noActiveConnection : Status := ⟨2⟩
def userNotFound : Status := ⟨3⟩
def channelNotFound : Status := ⟨4⟩
def connectionNotFound : Status := ⟨5⟩
def unknownTransmissionMode : Status := ⟨6⟩
def loggerNotAvailable : Status := ⟨7⟩
def audioNotAvailable : Status := ⟨8⟩
def invalidSample : Status := ⟨9⟩

/-- A status that nobody set is success. -/
instance : Inhabited Status := ⟨ok⟩

def isOk (s : Status) : Bool := s.code == 0

/-- The status in words; a code without a name shows its number. -/
def text (s : Status) : String :=
  match s.code.toInt with
  | -1 => "generic error"
  | 0 => "ok"
  | 1 => "pointer not found"
  | 2 => "no active connection"
  | 3 => "user not found"
  | 4 => "channel not found"
  | 5 => "connection not found"
  | 6 => "unknown transmission mode"
  | 7 => "logger not available"
  | 8 => "audio not available"
  | 9 => "invalid sample"
  | n => "unknown status " ++ toString n

theorem isOk_iff {s : Status} : s.isOk = true ↔ s = ok := by
  cases s; simp [isOk, ok]

end Status

/-- A plugin's answer to an offer of positional data. -/
structure OfferCode where
  code : UInt8
deriving DecidableEq, Repr, Inhabited

namespace OfferCode

/-- The plugin takes the offer and becomes active. -/
def ok : OfferCode := ⟨0⟩

/-- The plugin declines for now. -/
def temporary : OfferCode := ⟨1⟩

/-- The plugin declines for good and is not to be asked again. -/
def permanent : OfferCode := ⟨2⟩

/-- The answer in words; a code without a name shows its number. -/
def text (c : OfferCode) : String :=
  match c.code.toNat with
  | 0 => "ok"
  | 1 => "temporary error"
  | 2 => "permanent error"
  | n => "unknown code " ++ toString n

end OfferCode

/-- How the local user's microphone is activated. -/
structure TransmissionMode where
  code : Int32
deriving DecidableEq, Repr, Inhabited

/-- Continuous, voice activation and push to talk are known; nothing else is. -/
def TransmissionMode.isKnown (m : TransmissionMode) : Bool :=
  0 ≤ m.code.toInt && m.code.toInt ≤ 2

/-- What a user is doing with the voice channel. -/
structure TalkingState where
  code : Int32
deriving DecidableEq, Repr, Inhabited

/-- Identity of a plugin within its host. -/
abbrev PluginId := UInt32

/-- Identity of a server connection. -/
abbrev ConnectionId := Int32

/-- Identity of a user on a server. -/
abbrev UserId := UInt32

/-- Identity of a channel on a server. -/
abbrev ChannelId := Int32

end PluginHost
