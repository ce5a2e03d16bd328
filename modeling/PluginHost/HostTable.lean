import PluginHost.Error
import PluginHost.Text.Utf8

/-!
# The host's function table

What a plugin may ask of its host. The table checks the plugin's arguments, asks the application
behind it through a *bridge*, and hands out memory that the plugin has to give back.

* `HostTable.Request` is a call of a table function with its pointers, each null or not.
* `Request.question` is what the bridge is asked: nothing if an argument is at fault.
* `HostTable.serve` answers a request; `Serving` says what came of it.
* `Curator` is the set of addresses that were handed out and not given back.
-/

namespace PluginHost
namespace HostTable

/-- The table exists in one version: plugins for feature level 1.0 get it. -/
def supports (v : Version) : Bool := v.major == 1 && v.minor == 0

/-- An error for a version without a table. -/
def require (v : Version) : Except PluginError Unit :=
  if supports v then .ok () else .error (.unsupportedApiVersion v)

/-! ## What a bridge is asked -/

/-- A question that asks for a value. -/
inductive Inquiry where
  | activeConnection
  | localUser (connection : ConnectionId)
  | userName (connection : ConnectionId) (user : UserId)
  | channelName (connection : ConnectionId) (channel : ChannelId)
  | allUsers (connection : ConnectionId)
  | allChannels (connection : ConnectionId)
  | channelOfUser (connection : ConnectionId) (user : UserId)
  | usersInChannel (connection : ConnectionId) (channel : ChannelId)
  | transmissionMode
  | findUser (connection : ConnectionId) (name : String)
  | findChannel (connection : ConnectionId) (name : String)
deriving DecidableEq, Repr

/-- A question that asks for something to be done. -/
inductive Command where
  | setTransmissionMode (mode : TransmissionMode)
  | moveUser (connection : ConnectionId) (user : UserId) (channel : ChannelId) (password : String)
  | overwriteMicrophone (activate : Bool)
  | sendData (caller : PluginId) (connection : ConnectionId) (users : List UserId)
      (data : List UInt8) (dataId : String)
  | log (caller : PluginId) (message : String)
  | playSample (caller : PluginId) (path : String)
deriving DecidableEq, Repr

inductive Question where
  | inquiry (i : Inquiry)
  | command (c : Command)
deriving DecidableEq, Repr

/-- The shape of the value that an inquiry asks for. -/
inductive Shape where
  | number
  | text
  | numbers
deriving DecidableEq, Repr

/-- The values of a shape. Numbers are read as the type of the out-pointer. -/
@[reducible]
def Shape.Value : Shape → Type
  | number => Int
  | text => String
  | numbers => List Int

def Inquiry.shape : Inquiry → Shape
  | activeConnection | localUser _ | channelOfUser .. | transmissionMode | findUser ..
  | findChannel .. => .number
  | userName .. | channelName .. => .text
  | allUsers _ | allChannels _ | usersInChannel .. => .numbers

/-- The application behind the table: it answers inquiries with a value of their shape or a status,
commands with a status. -/
structure Bridge where
  inquire : (i : Inquiry) → Except Status i.shape.Value
  obey : Command → Status

/-! ## What a plugin asks -/

/-- A pointer to bytes, null or not. -/
abbrev TextPointer := Option (List UInt8)

/-- A pointer to an array with its stated count. A null pointer has no items. -/
structure ArrayPointer (α : Type) where
  items : Option (List α)
  count : Nat
deriving DecidableEq, Repr

/-- Functions that write a value through one out-pointer, or an array and a count through two. -/
inductive Request where
  | freeMemory (address : Nat)
  | ask (i : Inquiry) (outIsNull countIsNull : Bool)
  | findUser (connection : ConnectionId) (name : TextPointer) (outIsNull : Bool)
  | findChannel (connection : ConnectionId) (name : TextPointer) (outIsNull : Bool)
  | setTransmissionMode (mode : TransmissionMode)
  | moveUser (connection : ConnectionId) (user : UserId) (channel : ChannelId)
      (password : TextPointer)
  | overwriteMicrophone (activate : Bool)
  | sendData (caller : PluginId) (connection : ConnectionId) (users : ArrayPointer UserId)
      (data : ArrayPointer UInt8) (dataId : TextPointer)
  | log (caller : PluginId) (message : TextPointer)
  | playSample (caller : PluginId) (path : TextPointer)
deriving DecidableEq, Repr

/-- Reads a text argument up to its first zero byte. -/
def readText (p : TextPointer) : Option String := p.map Utf8.decodeTerminated

/-- Reads an array argument. An empty one needs no pointer. -/
def readArray {α : Type} (a : ArrayPointer α) : Option (List α) :=
  if a.count = 0 then some [] else a.items.map (·.take a.count)

/-- An inquiry can be put if every out-pointer that its shape needs is there. -/
def outPointers (i : Inquiry) (outIsNull countIsNull : Bool) : Except Status Question :=
  if outIsNull || (i.shape == .numbers && countIsNull) then .error .genericError
  else .ok (.inquiry i)

/-- What a request asks of the bridge, or the status of the argument that is at fault. Giving memory
back asks nothing. -/
def Request.question : Request → Except Status (Option Question)
  | freeMemory _ => .ok none
  | ask i outIsNull countIsNull => (outPointers i outIsNull countIsNull).map some
  | findUser c name outIsNull =>
    match readText name with
    | none => .error .genericError
    | some s => (outPointers (.findUser c s) outIsNull false).map some
  | findChannel c name outIsNull =>
    match readText name with
    | none => .error .genericError
    | some s => (outPointers (.findChannel c s) outIsNull false).map some
  | setTransmissionMode m =>
    if m.isKnown then .ok (some (.command (.setTransmissionMode m)))
    else .error .unknownTransmissionMode
  | moveUser c u n password =>
    .ok (some (.command (.moveUser c u n ((readText password).getD ""))))
  | overwriteMicrophone on => .ok (some (.command (.overwriteMicrophone on)))
  | sendData caller c users data dataId =>
    match readArray users, readArray data, readText dataId with
    | some us, some bs, some s => .ok (some (.command (.sendData caller c us bs s)))
    | _, _, _ => .error .genericError
  | log caller message =>
    match readText message with
    | none => .error .genericError
    | some s => .ok (some (.command (.log caller s)))
  | playSample caller path =>
    match readText path with
    | none => .error .invalidSample
    | some s => .ok (some (.command (.playSample caller s)))

/-- The status of a question that nobody is there to answer. A log line needs no answer. -/
def Question.unavailable : Question → Status
  | inquiry .activeConnection => .noActiveConnection
  | inquiry .transmissionMode => .genericError
  | inquiry _ => .connectionNotFound
  | command (.setTransmissionMode _) => .genericError
  | command (.moveUser ..) => .connectionNotFound
  | command (.overwriteMicrophone _) => .genericError
  | command (.sendData ..) => .connectionNotFound
  | command (.log ..) => .ok
  | command (.playSample ..) => .audioNotAvailable

/-! ## Memory -/

/-- The addresses that plugins hold. -/
structure Curator where
  outstanding : List Nat
deriving DecidableEq, Repr, Inhabited

namespace Curator

def empty : Curator := ⟨[]⟩

def count (c : Curator) : Nat := c.outstanding.length

/-- Records that an address was handed out. -/
def handOut (c : Curator) (address : Nat) : Curator :=
  ⟨address :: c.outstanding.filter (· != address)⟩

/-- Takes an address back. An address that is not out is reported and changes nothing. -/
def takeBack (c : Curator) (address : Nat) : Status × Curator :=
  if c.outstanding.contains address then (.ok, ⟨c.outstanding.filter (· != address)⟩)
  else (.pointerNotFound, c)

end Curator

/-! ## Serving requests -/

/-- What a plugin finds in its out-pointers. -/
inductive Written where
  | nothing
  | number (n : Int)
  /-- The text lies at the address. -/
  | text (address : Nat) (bytes : List UInt8)
  /-- The items lie at the address. -/
  | array (address : Nat) (items : List Int)
  /-- A null pointer and a count of zero. -/
  | emptyArray
deriving DecidableEq, Repr

/-- What came of a request: its status, what was written, what the bridge was asked, the line that
went to the log, and who holds memory now. -/
structure Serving where
  status : Status
  written : Written
  asked : List Question
  logged : Option (PluginId × String)
  curator : Curator
deriving DecidableEq, Repr

/-- Hands a value out. A text must not have a zero character inside; an empty array needs no
memory. `fresh` is the address that the allocator gives. -/
def deliver (fresh : Nat) (c : Curator) : (s : Shape) → s.Value → Status × Written × Curator
  | .number, n => (.ok, .number n, c)
  | .text, s =>
    if Utf8.hasNul s then (.genericError, .nothing, c)
    else (.ok, .text fresh (Utf8.encode s), c.handOut fresh)
  | .numbers, [] => (.ok, .emptyArray, c)
  | .numbers, n :: ns => (.ok, .array fresh (n :: ns), c.handOut fresh)

/-- The log line of a request: a message that can be read is logged whoever listens. -/
def Request.logLine : Request → Option (PluginId × String)
  | log caller message => (readText message).map fun s => (caller, s)
  | _ => none

/-- Answers a request. -/
def serve (bridge : Option Bridge) (fresh : Nat) (c : Curator) (r : Request) : Serving :=
  match r.question with
  | .error status => ⟨status, .nothing, [], none, c⟩
  | .ok none =>
    match r with
    | .freeMemory address =>
      let (status, c) := c.takeBack address
      ⟨status, .nothing, [], none, c⟩
    | _ => ⟨.ok, .nothing, [], none, c⟩
  | .ok (some q) =>
    match bridge with
    | none => ⟨q.unavailable, .nothing, [], r.logLine, c⟩
    | some b =>
      match q with
      | .command command => ⟨b.obey command, .nothing, [q], r.logLine, c⟩
      | .inquiry i =>
        match b.inquire i with
        | .error status => ⟨status, .nothing, [q], none, c⟩
        | .ok v =>
          let (status, written, c) := deliver fresh c i.shape v
          ⟨status, written, [q], none, c⟩

/-! ## Laws -/

namespace Curator

/-- An address that was handed out is outstanding. -/
theorem mem_handOut {c : Curator} {a b : Nat} :
    b ∈ (c.handOut a).outstanding ↔ b = a ∨ b ∈ c.outstanding := by
  by_cases h : b = a <;> simp [handOut, h]

/-- Only what is outstanding can be taken back. -/
theorem takeBack_ok_iff {c : Curator} {a : Nat} :
    (c.takeBack a).1 = .ok ↔ a ∈ c.outstanding := by
  unfold takeBack
  by_cases h : a ∈ c.outstanding
  · simp [h]
  · simp [h, Status.ok, Status.pointerNotFound]

/-- An address that was taken back is not outstanding any more, and all others are as before. -/
theorem mem_takeBack {c : Curator} {a b : Nat} :
    b ∈ (c.takeBack a).2.outstanding ↔ b ∈ c.outstanding ∧ b ≠ a := by
  unfold takeBack
  by_cases h : a ∈ c.outstanding
  · simp [h]
  · simp only [List.contains_eq_mem, h, decide_false, Bool.false_eq_true, if_false]
    constructor
    · intro hb
      exact ⟨hb, fun e => h (e ▸ hb)⟩
    · exact fun hb => hb.1

end Curator

end HostTable
end PluginHost
