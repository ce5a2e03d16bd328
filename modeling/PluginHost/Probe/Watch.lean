import PluginHost.Probe.Report
import PluginHost.Registry.Basic

/-!
# Watching

Positional data ticks in a row. The provider is reported when it changes, the pose when it changes
while fresh data comes in.

* `Observation` is what a tick leaves behind, `Seen` what was reported last.
* `Seen.changes` says what is to be reported after a tick, `Seen.after` what was reported last then.
* `watch` runs ticks until their count is reached or a change cannot be written.
-/

namespace PluginHost
namespace Probe

/-- What a tick leaves behind: whether the snapshot is fresh, who provides it, and the snapshot. -/
structure Observation where
  fresh : Bool
  provider : Option PluginId
  pose : Snapshot
deriving DecidableEq, Repr

/-- What there is to report after a tick. -/
inductive Change where
  | provider (id : Option PluginId)
  | pose (data : Snapshot)
deriving DecidableEq, Repr

/-- What was reported last: the provider, once there was a report on it, and the pose, unless data
was not fresh since. -/
structure Seen where
  provider : Option (Option PluginId)
  pose : Option Snapshot
deriving DecidableEq, Repr

namespace Seen

def nothing : Seen := ⟨none, none⟩

/-- Another provider than the last one reported; the first tick always has one. -/
def isNewProvider (s : Seen) (o : Observation) : Bool := s.provider != some o.provider

/-- Another pose than the last one reported, as numbers go, from data that is fresh. -/
def isNewPose (s : Seen) (o : Observation) : Bool :=
  o.fresh && match s.pose with
    | none => true
    | some old => !old.same o.pose

/-- What is to be reported after a tick, in that order. -/
def changes (s : Seen) (o : Observation) : List Change :=
  (if s.isNewProvider o then [.provider o.provider] else []) ++
    (if s.isNewPose o then [.pose o.pose] else [])

/-- What was reported last once the changes of a tick are. -/
def after (s : Seen) (o : Observation) : Seen where
  provider := some o.provider
  pose := if s.isNewPose o then some o.pose else if o.fresh then s.pose else none

end Seen

/-- What a registry shows after a tick. -/
def observe (fresh : Bool) (r : Registry) : Observation :=
  ⟨fresh, r.providing?.map (·.id), r.snapshot⟩

/-- A change as an event. The provider is asked for its name. -/
def Change.event (tick : Nat) (r : Registry) : Change → Interaction WatchEvent
  | .provider _ =>
    match r.providing? with
    | none => return .provider tick none
    | some p => do return .provider tick (some (p.id, ← p.name))
  | .pose data => return .pose tick data

/-- Writes changes until one fails. -/
def writeChanges (format : OutputFormat) (tick : Nat) (r : Registry) :
    List Change → Interaction (Except OutputError Unit)
  | [] => return .ok ()
  | c :: rest => do
    match ← (← c.event tick r).write format with
    | .error e => return .error e
    | .ok () => writeChanges format tick r rest

/-- Runs ticks from one on, with a pause before each but the first of all. -/
def watch (format : OutputFormat) (interval : Nat) : (ticks : Nat) → (tick : Nat) → Seen →
    Registry → Interaction (Except OutputError Unit × Registry)
  | 0, _, _, r => return (.ok (), r)
  | ticks + 1, tick, seen, r => do
    if tick != 0 then Interaction.query (.pause interval)
    let (fresh, r) ← r.tick
    let o := observe fresh r
    match ← writeChanges format tick r (seen.changes o) with
    | .error e => return (.error e, r)
    | .ok () => watch format interval ticks (tick + 1) (seen.after o) r

/-- More ticks than anybody waits for. -/
def unlimited : Nat := 0x10000000000000000

/-! ## Laws -/

namespace Seen

/-- The first tick reports its provider. -/
theorem isNewProvider_nothing (o : Observation) : nothing.isNewProvider o = true := by
  simp [isNewProvider, nothing]

/-- Later ticks report a provider that is not the one of the tick before. -/
theorem isNewProvider_after (s : Seen) (o p : Observation) :
    (s.after o).isNewProvider p = true ↔ p.provider ≠ o.provider := by
  simp only [isNewProvider, after, bne_iff_ne, ne_eq, Option.some.injEq]
  exact ⟨fun h e => h e.symm, fun h e => h e.symm⟩

/-- After a tick without fresh data any pose is new. -/
theorem isNewPose_after_of_stale (s : Seen) {o p : Observation} (ho : o.fresh = false)
    (hp : p.fresh = true) : (s.after o).isNewPose p = true := by
  simp [isNewPose, after, ho, hp]

end Seen

end Probe
end PluginHost
