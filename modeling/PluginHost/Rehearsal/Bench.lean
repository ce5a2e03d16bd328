import PluginHost.Roster

/-!
# Benches

Plugins held one by one in numbered places, next to a roster that may provide positional data from
one of them. A plugin lives until neither its place nor the roster's provider is it.
-/

namespace PluginHost
namespace Rehearsal

structure Bench where
  /-- The handle of the plugin in each place that was ever taken. -/
  places : List (Option Nat)
  roster : Roster
  ledger : Ledger
  snapshot : Snapshot
deriving DecidableEq, Repr

namespace Bench

def new : Bench := ⟨[], .empty, .initial, .zeroed⟩

/-- The plugin in a place. -/
def at? (b : Bench) (place : Nat) : Option Plugin :=
  (b.places[place]?.bind id).bind b.roster.find?

/-- Creates a plugin in the next place. A place stays empty if that fails. -/
def create (b : Bench) (source : Source) (generation : Generation) :
    Interaction (Except PluginError Plugin × Bench) := do
  let (result, ledger) ← Plugin.create source generation b.ledger
  match result with
  | .error e => return (.error e, { b with ledger, places := b.places ++ [none] })
  | .ok p =>
    let roster := { b.roster with plugins := b.roster.plugins ++ [p] }
    return (.ok p, { b with ledger, roster, places := b.places ++ [some p.handle] })

/-- Takes the next identity for nobody. -/
def allocateId (b : Bench) : PluginId × Bench :=
  let (id, ledger) := b.ledger.allocateId
  (id, { b with ledger })

/-- Somebody holds the plugin. -/
def isHeld (b : Bench) (handle : Nat) : Bool :=
  b.places.contains (some handle) || b.roster.provider == some handle

/-- Lets go of plugins that nobody holds. -/
def collect (b : Bench) : Interaction Bench := do
  let abandoned := b.roster.plugins.filter fun p => !b.isHeld p.handle
  let _ ← Interaction.traverse Plugin.drop abandoned
  return { b with roster :=
    { b.roster with plugins := b.roster.plugins.filter fun p => b.isHeld p.handle } }

/-- Puts a plugin in the place of its earlier self. -/
def update (b : Bench) (p : Plugin) : Bench := { b with roster := b.roster.update p }

/-- Looks for a provider among the plugins in the given places. -/
def arbitrate (b : Bench) (order : List Nat) : Interaction Bench := do
  let roster ← b.roster.arbitrate (order.filterMap fun i => (b.at? i).map (·.handle))
  return { b with roster }

def release (b : Bench) : Interaction Bench := do
  let roster ← b.roster.release
  collect { b with roster }

def releaseIf (b : Bench) (id : PluginId) : Interaction (Bool × Bench) := do
  let (released, roster) ← b.roster.releaseIf id
  let b ← collect { b with roster }
  return (released, b)

/-- Empties a place. -/
def vacate (b : Bench) (place : Nat) : Interaction Bench :=
  collect { b with places := b.places.set place none }

/-- Empties all places, from the first on. -/
def vacateAll (b : Bench) : Interaction Bench :=
  Interaction.foldM vacate b (List.range b.places.length)

/-- Lets go of the provider. -/
def dismiss (b : Bench) : Interaction Bench :=
  collect { b with roster := { b.roster with provider := none } }

end Bench
end Rehearsal
end PluginHost
