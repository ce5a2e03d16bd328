import PluginHost.Demo
import PluginHost.Legacy.Adapter

/-!
# Scripts

A script says what a stand-in plugin exports and what it answers to each call. It is for trying a
host without foreign code. Some answers form a sequence, of which the last one repeats.
-/

namespace PluginHost
namespace Rehearsal

/-- Groups of exported names that a script may ask for together. -/
def exportGroup (name : String) : List String :=
  let symbols (es : List EntryPoint) := es.map (·.symbol)
  match name with
  | "@mandatory" => symbols EntryPoint.mandatory
  | "@meta" => symbols EntryPoint.descriptive
  | "@positional" => symbols EntryPoint.positional
  | "@events" => symbols EntryPoint.events
  | "@audio" => symbols EntryPoint.hooks
  | "@all" => symbols EntryPoint.all
  | other => [other]

/-- What a stand-in leaves behind in a fetch through either interface. -/
structure FetchAnswer where
  current : FetchReply
  legacy : LegacyFetchReply
deriving DecidableEq, Repr

/-- A fetch that writes nothing and wants to go on. -/
def FetchAnswer.plain : FetchAnswer :=
  ⟨⟨.replicate none, none, none, true⟩, ⟨.replicate none, none, 0, none, 1⟩⟩

structure Script where
  label : String
  generation : Generation
  /-- The stand-in is the demo plugin itself. -/
  isDemo : Bool
  exports : List String
  name : Option (List UInt8)
  author : Option (List UInt8)
  description : Option (List UInt8)
  apiVersion : Version
  version : Version
  features : FeatureSet
  deactivateMask : FeatureSet
  /-- What the stand-in hands to the host's log when it is started. -/
  initLog : Option (List UInt8)
  init : List Status
  offers : List OfferCode
  fetches : List FetchAnswer
  locks : List Int32
  /-- Identities of data that the stand-in handles. -/
  handled : List (List UInt8)
  /-- What it adds to captured samples. -/
  gain : Int16
  /-- What it multiplies played samples by. -/
  factor : Option Binary32
  audioResult : Bool
  primary : Option LegacyPrimary
  longDescription : Option (List UInt32)
  extended : Option LegacyExtended
  dialogs : Option LegacyDialogs
deriving DecidableEq, Repr

/-- The table of a stand-in. -/
def Script.table (s : Script) : SymbolTable :=
  if s.isDemo then Demo.table s.label else .ofNames s.label s.exports

/-- The element at a position of a sequence whose last element repeats. -/
def nth {α : Type} (items : List α) (default : α) (n : Nat) : α :=
  (items[min n (items.length - 1)]?).getD default

/-- How far the sequences of a script have been played, and what the stand-in remembers. -/
structure Memory where
  inits : Nat
  offers : Nat
  fetches : Nat
  locks : Nat
  hasTable : Bool
  id : PluginId
deriving DecidableEq, Repr, Inhabited

def Memory.initial : Memory := ⟨0, 0, 0, 0, false, 0⟩

/-- All sequences start again. -/
def Memory.rewound (m : Memory) : Memory :=
  { m with inits := 0, offers := 0, fetches := 0, locks := 0 }

/-- Changes the first samples of a block, as many as it announces. -/
def onAnnounced {α : Type} (f : α → α) (b : AudioBlock α) : List α :=
  let n := b.frames * b.channels.toNat
  (b.samples.take n).map f ++ b.samples.drop n

/-- What a hook on played samples leaves behind. -/
def Script.play (s : Script) (b : AudioBlock Binary32) : AudioReply Binary32 :=
  ⟨s.audioResult, match s.factor with
    | none => b.samples
    | some k => onAnnounced (·.mul k) b⟩

/-- Does what a call asks. -/
def Script.answer (s : Script) : (c : Call) → Memory → c.Reply × Memory
  | .load, m => (some s.table, m)
  | .init, m => (nth s.init .ok m.inits, { m with inits := m.inits + 1 })
  | .name, m => (s.name, m)
  | .apiVersion, m => (s.apiVersion, m)
  | .registerApi, m => ((), { m with hasTable := true })
  | .version, m => (s.version, m)
  | .author, m => (s.author, m)
  | .description, m => (s.description, m)
  | .registerId id, m => ((), { m with id })
  | .features, m => (s.features, m)
  | .deactivateFeatures requested, m => (requested.inter s.deactivateMask, m)
  | .offerPositional .., m => (nth s.offers .ok m.offers, { m with offers := m.offers + 1 })
  | .fetchPositional, m =>
    ((nth s.fetches .plain m.fetches).current, { m with fetches := m.fetches + 1 })
  | .receiveData _ _ _ dataId, m => (s.handled.contains (Utf8.untilNul dataId), m)
  | .audioInput b _, m => (⟨s.audioResult, onAnnounced (· + s.gain) b⟩, m)
  | .audioFetched b _ _, m => (s.play b, m)
  | .audioProcessed b _ _, m => (s.play b, m)
  | .audioOutput b, m => (s.play b, m)
  | .primaryFactory, m => (s.primary, m)
  | .extendedFactory, m => (s.extended, m)
  | .dialogFactory, m => (s.dialogs, m)
  | .longDescription, m => (s.longDescription, m)
  | .tryLock, m => (nth s.locks 1 m.locks, { m with locks := m.locks + 1 })
  | .tryLockAmong _, m => (nth s.locks 1 m.locks, { m with locks := m.locks + 1 })
  | .fetchLegacy, m =>
    ((nth s.fetches .plain m.fetches).legacy, { m with fetches := m.fetches + 1 })
  | c, m => (c.silence, m)

/-! ## Libraries -/

/-- A stand-in for an older plugin without anything but a lock and a fetch. -/
def Script.ofPrimary (magic : UInt32) : Script where
  label := ""
  generation := .legacy
  isDemo := false
  exports := [LegacySymbol.primary]
  name := none
  author := none
  description := none
  apiVersion := .zero
  version := .zero
  features := .none
  deactivateMask := .none
  initLog := none
  init := []
  offers := []
  fetches := [⟨(FetchAnswer.plain).current, {
    vectors := { Pose.replicate none with
      avatarPosition := some ⟨⟨0x3f800000⟩, ⟨0x40000000⟩, ⟨0x40400000⟩⟩ }
    context := some (Utf8.encode "c-match")
    contextLength := 7
    identity := some (Wide.encode "c-hero")
    attached := 1 }⟩]
  locks := [1]
  handled := []
  gain := 0
  factor := none
  audioResult := false
  primary := some {
    magic
    description := some (Wide.encode "Legacy fixture")
    shortName := some (Wide.encode "C legacy")
    hasAbout := false
    hasConfig := false
    hasTryLock := true
    hasUnlock := false
    hasLongDescription := false
    hasFetch := true }
  longDescription := none
  extended := none
  dialogs := none

/-- A library that exports nothing that a plugin does. -/
def Script.bare : Script := { Script.ofPrimary 0 with exports := [] }

/-- The libraries that stand-ins can be loaded from, by the name of their content. -/
def libraryScript? (content : String) : Option Script :=
  match content with
  | "demo" => some { Script.bare with isDemo := true }
  | "legacy" => some (Script.ofPrimary Legacy.magic)
  | "badmagic" => some (Script.ofPrimary 0xdeadbeef)
  | "empty" => some Script.bare
  | _ => none

end Rehearsal
end PluginHost
