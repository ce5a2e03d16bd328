import PluginHost.Plugin.Basic

/-!
# Events and audio

What happens in the voice client is forwarded to the plugin function for it. Audio hooks work in
place on a buffer of interleaved samples: `frames` of `channels` samples each.
-/

namespace PluginHost

/-- A notification that expects no answer. -/
inductive Notification where
  | serverConnected (connection : ConnectionId)
  | serverDisconnected (connection : ConnectionId)
  | channelEntered (connection : ConnectionId) (user : UserId) (previous new : ChannelId)
  | channelExited (connection : ConnectionId) (user : UserId) (channel : ChannelId)
  | talkingChanged (connection : ConnectionId) (user : UserId) (state : TalkingState)
deriving DecidableEq, Repr

namespace Notification

def entryPoint : Notification → EntryPoint
  | serverConnected _ => .serverConnected
  | serverDisconnected _ => .serverDisconnected
  | channelEntered .. => .channelEntered
  | channelExited .. => .channelExited
  | talkingChanged .. => .talkingChanged

def call : Notification → Call
  | serverConnected c => .serverConnected c
  | serverDisconnected c => .serverDisconnected c
  | channelEntered c u p n => .channelEntered c u p n
  | channelExited c u n => .channelExited c u n
  | talkingChanged c u s => .talkingChanged c u s

end Notification

/-- Data that a plugin of another user sent. -/
structure Message where
  connection : ConnectionId
  sender : UserId
  data : List UInt8
  dataId : String
deriving DecidableEq, Repr

/-- Where in the audio pipeline a buffer of floating point samples comes by. -/
inductive AudioStage where
  /-- A user's samples as they were received. -/
  | fetched (speech : Bool) (user : UserId)
  /-- A user's samples after processing. -/
  | processed (speech : Bool) (user : UserId)
  /-- The mix of all users. -/
  | output
deriving DecidableEq, Repr

/-- The count of whole frames in a buffer. None if there are no channels or the count does not fit
32 bits. -/
def frameCount (samples : Nat) (channels : UInt16) : Option Nat :=
  if channels = 0 then none
  else
    let frames := samples / channels.toNat
    if frames < 0x100000000 then some frames else none

/-- The buffer after a hook wrote to it: it keeps its length whatever the hook leaves behind. -/
def writeBack {α : Type} (before after : List α) : List α :=
  after.take before.length ++ before.drop after.length

namespace Plugin

def notifyOf (p : Plugin) (n : Notification) : Interaction Unit :=
  p.notify n.entryPoint n.call

/-- Offers received data. A data identity with a zero character cannot be handed over. -/
def receive (p : Plugin) (m : Message) : Interaction Bool :=
  if Utf8.hasNul m.dataId then return false
  else p.callOr .receiveData
    (.receiveData m.connection m.sender m.data (Utf8.encode m.dataId)) false

/-- Passes captured samples through the plugin's hook. -/
def audioInput (p : Plugin) (samples : List Int16) (channels : UInt16) (speech : Bool) :
    Interaction (Bool × List Int16) :=
  match frameCount samples.length channels with
  | none => return (false, samples)
  | some frames => do
    let r ← p.callOr .audioInput (.audioInput ⟨samples, frames, channels⟩ speech)
      ⟨false, samples⟩
    return (r.modified, writeBack samples r.samples)

/-- Passes played samples through the plugin's hook for the stage. -/
def audioStage (p : Plugin) (stage : AudioStage) (samples : List Binary32) (channels : UInt16) :
    Interaction (Bool × List Binary32) :=
  match frameCount samples.length channels with
  | none => return (false, samples)
  | some frames => do
    let block : AudioBlock Binary32 := ⟨samples, frames, channels⟩
    let unchanged : AudioReply Binary32 := ⟨false, samples⟩
    let r ← match stage with
      | .fetched speech user =>
        p.callOr .audioFetched (.audioFetched block speech user) unchanged
      | .processed speech user =>
        p.callOr .audioProcessed (.audioProcessed block speech user) unchanged
      | .output => p.callOr .audioOutput (.audioOutput block) unchanged
    return (r.modified, writeBack samples r.samples)

end Plugin

/-! ## Laws -/

/-- What is written back has the length of the buffer. -/
theorem length_writeBack {α : Type} (before after : List α) :
    (writeBack before after).length = before.length := by
  simp only [writeBack, List.length_append, List.length_take, List.length_drop]
  omega

theorem writeBack_self {α : Type} (before : List α) : writeBack before before = before := by
  simp [writeBack]

/-- The frames fill the buffer up to less than one frame. -/
theorem frameCount_bounds {n : Nat} {channels : UInt16} {frames : Nat}
    (h : frameCount n channels = some frames) :
    frames * channels.toNat ≤ n ∧ n < (frames + 1) * channels.toNat := by
  unfold frameCount at h
  split at h
  · simp at h
  · rename_i hc
    have hpos : 0 < channels.toNat := by
      rcases Nat.eq_zero_or_pos channels.toNat with h0 | h0
      · exact absurd (UInt16.toNat_inj.1 (by simpa using h0)) hc
      · exact h0
    simp only at h
    split at h
    · obtain rfl := Option.some.inj h
      exact ⟨Nat.div_mul_le_self .., by
        rw [Nat.add_mul, Nat.one_mul]; exact Nat.lt_div_mul_add hpos⟩
    · simp at h

end PluginHost
