import PluginHost.Plugin.Event

/-!
# Rosters

The plugins that are alive, and which of them provides positional data.

* `Roster.arbitrate` looks for a provider: the process table is offered to the eligible plugins one
  after the other until one accepts.
* `Roster.release` ends the provider's session, `Roster.releaseIf` only that of a given plugin.

There is at most one provider, because the roster has one place for it.

Lines that a host writes about this to its own log are left out, and with them the question after
the name of a new provider that one of them asks.
-/

namespace PluginHost

structure Roster where
  plugins : List Plugin
  /-- The handle of the provider. -/
  provider : Option Nat
deriving DecidableEq, Repr

namespace Roster

def empty : Roster := ⟨[], none⟩

/-! ## The plugins -/

def find? (r : Roster) (handle : Nat) : Option Plugin :=
  r.plugins.find? (·.handle == handle)

/-- The plugin with an identity. -/
def byId? (r : Roster) (id : PluginId) : Option Plugin := r.plugins.find? (·.id == id)

/-- Puts a plugin in the place of the one with its handle. -/
def update (r : Roster) (p : Plugin) : Roster :=
  { r with plugins := r.plugins.map fun q => if q.handle = p.handle then p else q }

/-- Takes a plugin out. -/
def remove (r : Roster) (handle : Nat) : Roster :=
  { r with plugins := r.plugins.filter (·.handle != handle) }

/-- The plugin that provides positional data. -/
def providing? (r : Roster) : Option Plugin := r.provider.bind r.find?

/-- Whether a plugin provides positional data. -/
def isProviding (r : Roster) : Bool := r.provider.isSome

/-! ## Arbitration -/

/-- A plugin is offered positional data if it is loaded and may be. -/
def isEligible (p : Plugin) : Bool := p.loaded && p.enabled

/-- The eligible ones of the plugins with the given handles, in that order. -/
def eligible (r : Roster) (order : List Nat) : List Plugin :=
  (order.filterMap r.find?).filter isEligible

/-- Offers the process table to plugins one after the other. The first that accepts is the provider;
one that declines for good is forbidden further offers. -/
def offerInTurn (processes : List Process) : List Plugin → Roster → Interaction Roster
  | [], r => return r
  | q :: rest, r =>
    match r.find? q.handle with
    | none => offerInTurn processes rest r
    | some p => do
      let (code, p) ← p.offer processes
      if code = .ok then return { r.update p with provider := some p.handle }
      else if code = .permanent then
        let p ← p.enable false
        offerInTurn processes rest (r.update p)
      else offerInTurn processes rest (r.update p)

/-- Finds a provider among the plugins with the given handles, visited in that order. A provider
that is there stays. The process table is read only if some plugin is eligible; who is eligible is
decided before the first offer. -/
def arbitrate (r : Roster) (order : List Nat) : Interaction Roster := do
  if r.isProviding then return r
  let candidates := r.eligible order
  if candidates.isEmpty then return r
  let processes ← Interaction.query .processes
  offerInTurn processes candidates r

/-- Ends the provider's session. -/
def release (r : Roster) : Interaction Roster :=
  match r.providing? with
  | none => return { r with provider := none }
  | some p => do
    let p ← p.stopPositional
    return { r.update p with provider := none }

/-- Ends the provider's session if the provider has this identity. Returns whether it had. -/
def releaseIf (r : Roster) (id : PluginId) : Interaction (Bool × Roster) :=
  match r.providing? with
  | none => return (false, r)
  | some p =>
    if p.id = id then do
      let r ← r.release
      return (true, r)
    else return (false, r)

/-! ## Laws -/

@[simp] theorem plugins_empty : empty.plugins = [] := rfl

@[simp] theorem provider_update (r : Roster) (p : Plugin) : (r.update p).provider = r.provider :=
  rfl

/-- Updating a plugin keeps who is in the roster. -/
theorem handles_update (r : Roster) (p : Plugin) :
    (r.update p).plugins.map (·.handle) = r.plugins.map (·.handle) := by
  simp only [update, List.map_map]
  apply List.map_congr_left
  intro q _
  by_cases h : q.handle = p.handle <;> simp [h]

end Roster

end PluginHost
