import PluginHost.Proofs.Plugin.Session

/-!
# Starting and shutting down one plugin

A plugin by itself, used as for sessions: any operations in any order, whatever it answers. Here it
is about the flags besides `active`, and about what the plugin hears of them.

* **`Transcript.switches`**: the starts and shutdowns that a plugin heard of, in their order.
  **`Switch.rounds`**: by turns, as many of each.
* **`Plugin.Log`**, **`Plugin.Operated`**: operations one after the other, each with what was asked
  and answered. **`Log.running`**: whether the last of the starts and shutdowns among them is a
  start.
* **`Demand.quiet`**: the operations that a plugin hears of, but not as a start, a shutdown or a
  stop.
* **`Operated.upright`**, **`Operated.loaded_eq`**, **`Operated.switches_eq`**: what an operation
  keeps, any operations keep.
* **`Orderly`**: the flags imply each other, nothing is started or shut down twice, and only an
  active plugin is told to stop. **`LastCalls`**: what a provider hears when it is shut down.
* **`ByTurns`**: a plugin hears of starts and shutdowns by turns.
* **`lifecycle`**: all of this holds of a plugin that was created and then used in any way.
-/

namespace PluginHost

open Interaction Transcript

/-! ## Starts and shutdowns -/

inductive Switch where
  | on
  | off
deriving DecidableEq, Repr

/-- By turns from a start on, as many shutdowns as starts. -/
def Switch.rounds : Nat → List Switch
  | 0 => []
  | n + 1 => rounds n ++ [.on, .off]

theorem Switch.count_rounds {n : Nat} {s : Switch} : (rounds n).count s = n := by
  induction n with
  | zero => rfl
  | succ n ih => cases s <;> simp [rounds, ih]

def Exchange.switch? (e : Exchange) : Option Switch :=
  match e.query with
  | .plugin _ .init => some .on
  | .plugin _ .shutdown => some .off
  | _ => none

namespace Transcript

/-- The starts and shutdowns of a transcript. -/
def switches (t : Transcript) : List Switch := t.filterMap Exchange.switch?

@[simp] theorem switches_nil : switches [] = [] := rfl

@[simp] theorem switches_append (t u : Transcript) : switches (t ++ u) = switches t ++ switches u :=
  List.filterMap_append

end Transcript

namespace Plugin

variable {p p' q q' : Plugin} {t u : Transcript}

/-- What serves other purposes than starting and stopping neither starts nor shuts down. -/
theorem switches_of_asks {α : Type} {x : Interaction α} {a : α} {ps : List Purpose} (hx : Asks ps x)
    (hstart : .starting ∉ ps) (hstop : .stopping ∉ ps) (h : Yields x t a) : t.switches = [] := by
  refine List.filterMap_eq_nil_iff.2 fun e he => ?_
  have hserves := hx t a h e he
  obtain ⟨query, r⟩ := e
  cases query with
  | plugin who c =>
    cases c <;> first | rfl | exact absurd hserves hstart | exact absurd hserves hstop
  | _ => rfl

theorem switches_heard {e : EntryPoint} {c : Call} {r : c.Reply} :
    (p.heard e c r).switches =
      if p.exports e then (Exchange.switch? ⟨.plugin p.who c, r⟩).toList else [] := by
  unfold heard
  split
  · cases hs : Exchange.switch? ⟨.plugin p.who c, r⟩ <;> simp [switches, hs]
  · rfl

/-- A farewell is no shutdown. -/
theorem switches_farewell : p.farewell.switches = [] := by
  unfold farewell parting heard
  repeat' split
  all_goals rfl

/-- A start shows if the plugin has a function for it. -/
theorem switches_opening {status : Status} :
    (p.opening status).switches = if p.exports .init then [.on] else [] := by
  simp [opening, switches_heard, Exchange.switch?]

/-- A shutdown shows if the plugin is loaded and has a function for it. -/
theorem switches_closing :
    p.closing.switches = if p.loaded && p.exports .shutdown then [.off] else [] := by
  unfold closing
  cases p.loaded with
  | true => simp [switches_farewell, switches_heard, Exchange.switch?]
  | false => rfl

/-! ## Operations -/

/-- The operations that are about being started. -/
def Demand.switch? : Demand → Option Switch
  | init => some .on
  | shutdown => some .off
  | _ => none

/-- The operations that can raise or lower a flag besides `active`, or stop. -/
def Demand.isDeed : Demand → Bool
  | init | shutdown | enable _ | stopPositional => true
  | _ => false

/-- Operations with what was asked and answered in each. -/
abbrev Log := List (Demand × Transcript)

/-- Everything that was asked and answered. -/
def Log.transcript (l : Log) : Transcript := l.flatMap (·.2)

/-- The last of the starts and shutdowns that were asked for is a start. -/
def Log.running (l : Log) : Bool := (l.filterMap fun x => x.1.switch?).getLast? == some .on

/-- Operations on a plugin one after the other. -/
inductive Operated (p : Plugin) : Log → Plugin → Prop
  | nil : Operated p [] p
  | snoc {l : Log} {q q' : Plugin} {d : Demand} {t : Transcript} (h : Operated p l q)
      (hd : Yields (d.perform q) t q') : Operated p (l ++ [(d, t)]) q'

theorem Log.transcript_snoc {l : Log} {d : Demand} :
    Log.transcript (l ++ [(d, t)]) = l.transcript ++ t := by
  simp [Log.transcript]

/-- Operations one after the other are a use. -/
theorem Operated.used {l : Log} (h : p.Operated l q) : ∃ n, p.Used n l.transcript q := by
  induction h with
  | nil => exact ⟨0, .unused⟩
  | snoc _ hd ih =>
    obtain ⟨n, hn⟩ := ih
    rw [Log.transcript_snoc]
    exact ⟨_, hn.tail _ hd⟩

/-- An operation that shows in no flag besides `active`, and in no start, shutdown or stop. -/
structure Quiet (p : Plugin) (t : Transcript) (p' : Plugin) : Prop where
  switches : t.switches = []
  stops : t.stops = []
  valid : p'.valid = p.valid
  loaded : p'.loaded = p.loaded
  enabled : p'.enabled = p.enabled

/-- A question is quiet. -/
theorem asked_quiet {α : Type} {x : Interaction α} {ps : List Purpose} (hx : Asks ps x)
    (hstart : .starting ∉ ps) (hstop : .stopping ∉ ps) (h : Yields (p.asked x) t p') :
    p.Quiet t p' := by
  obtain ⟨a, rfl, ha⟩ := yields_map.1 h
  exact ⟨switches_of_asks hx hstart hstop ha, stops_of_asks hx hstop ha, rfl, rfl, rfl⟩

/-- All operations but those that are about starts, permissions and stops are quiet. -/
theorem Demand.quiet {d : Demand} (hd : d.isDeed = false) (h : Yields (d.perform p) t p') :
    p.Quiet t p' := by
  cases d with
  | init | shutdown | enable | stopPositional => simp [isDeed] at hd
  | registerApi =>
    -- it serves the start, but is none
    obtain ⟨_, rfl, hx⟩ := yields_map.1 h
    refine ⟨?_, stops_of_asks asks_registerApi (by decide) hx, rfl, rfl, rfl⟩
    rw [registerApi_inv hx, switches_heard]
    simp [Exchange.switch?]
  | offer processes =>
    obtain ⟨x, rfl, hx⟩ := yields_map.1 h
    have hp := (offer_cases hx).2
    refine ⟨switches_of_asks asks_offer (by decide) (by decide) hx,
      stops_of_asks asks_offer (by decide) hx, ?_, ?_, ?_⟩ <;> rw [hp] <;> split <;> rfl
  | fetch s =>
    obtain ⟨x, rfl, hx⟩ := yields_map.1 h
    obtain ⟨c, hp⟩ := fetch_result hx
    refine ⟨switches_of_asks asks_fetch (by decide) (by decide) hx,
      stops_of_asks asks_fetch (by decide) hx, ?_, ?_, ?_⟩ <;> simp [hp]
  | name => exact asked_quiet asks_name (by decide) (by decide) h
  | description => exact asked_quiet asks_description (by decide) (by decide) h
  | author => exact asked_quiet asks_author (by decide) (by decide) h
  | version => exact asked_quiet asks_version (by decide) (by decide) h
  | apiVersion => exact asked_quiet asks_apiVersion (by decide) (by decide) h
  | features => exact asked_quiet asks_features (by decide) (by decide) h
  | deactivateFeatures _ => exact asked_quiet asks_deactivateFeatures (by decide) (by decide) h
  | info => exact asked_quiet asks_info (by decide) (by decide) h
  | showAbout => exact asked_quiet asks_showDialog (by decide) (by decide) h
  | showConfig => exact asked_quiet asks_showDialog (by decide) (by decide) h
  | notifyOf n => exact asked_quiet asks_notifyOf (by decide) (by decide) h
  | receive m => exact asked_quiet asks_receive (by decide) (by decide) h
  | audioInput _ _ _ => exact asked_quiet asks_audioInput (by decide) (by decide) h
  | audioStage _ _ _ => exact asked_quiet asks_audioStage (by decide) (by decide) h

/-! ## Flags -/

/-- The flags besides `active` imply each other in one order. Active stands apart: a plugin by
itself takes offers also when it is not loaded. -/
structure Upright (p : Plugin) : Prop where
  valid : p.valid = true
  loaded_of_enabled : p.enabled = true → p.loaded = true

theorem init_of_loaded (hv : p.valid = true) (hl : p.loaded = true) : p.init = .done (.ok, p) := by
  simp [init, hv, hl]

theorem shutdown_of_unloaded (hl : p.loaded = false) : p.shutdown = .done p := by
  simp [shutdown, hl]

/-- A plugin that passed validation is loaded after a start, whatever it answered. -/
theorem loaded_of_init {x : Status × Plugin} (hv : p.valid = true) (h : Yields p.init t x) :
    x.2 = { p with loaded := true } ∧
      ∃ status, t = if p.loaded then [] else p.opening status := by
  cases hl : p.loaded with
  | true =>
    rw [init_of_loaded hv hl] at h
    obtain ⟨rfl, rfl⟩ := yields_done.1 h
    exact ⟨by rw [← hl], .ok, rfl⟩
  | false =>
    obtain ⟨status, rfl, rfl, -⟩ := init_inv hv hl h
    exact ⟨rfl, status, rfl⟩

/-- No operation breaks the order of the flags. -/
theorem Demand.upright {d : Demand} (hp : p.Upright) (h : Yields (d.perform p) t p') :
    p'.Upright := by
  cases d with
  | init =>
    obtain ⟨x, rfl, hx⟩ := yields_map.1 h
    rw [(loaded_of_init hp.valid hx).1]
    exact ⟨hp.valid, fun _ => rfl⟩
  | shutdown =>
    rw [(shutdown_cases h).2]
    split
    · exact ⟨hp.valid, fun he => by simp [asleep] at he⟩
    · exact hp
  | enable on =>
    cases on with
    | true =>
      -- only a loaded plugin gets the permission
      rw [(enable_true_inv h).2]
      split
      · rename_i hl
        exact ⟨hp.valid, fun _ => hl⟩
      · exact hp
    | false =>
      rw [(enable_false_inv h).2]
      exact ⟨hp.valid, fun he => by simp at he⟩
  | stopPositional =>
    rw [(stopPositional_inv h).2]
    exact ⟨hp.valid, hp.loaded_of_enabled⟩
  | _ =>
    have hq := Demand.quiet rfl h
    exact ⟨hq.valid.trans hp.valid,
      fun he => hq.loaded.trans (hp.loaded_of_enabled (hq.enabled ▸ he))⟩

/-- The flags imply each other after any operations. -/
theorem Operated.upright {l : Log} (hp : p.Upright) (h : p.Operated l q) : q.Upright := by
  induction h with
  | nil => exact hp
  | snoc _ hd ih => exact Demand.upright ih hd

/-! ## Phases -/

/-- Whether a plugin is loaded after an operation. -/
theorem Demand.loaded_eq {d : Demand} (hv : p.valid = true) (h : Yields (d.perform p) t p') :
    p'.loaded = (d.switch?.map (· == .on)).getD p.loaded := by
  cases d with
  | init =>
    obtain ⟨x, rfl, hx⟩ := yields_map.1 h
    rw [(loaded_of_init hv hx).1]
    rfl
  | shutdown =>
    rw [(shutdown_cases h).2]
    cases hl : p.loaded with
    | true => rfl
    | false => exact hl
  | enable on =>
    cases on with
    | true =>
      rw [(enable_true_inv h).2]
      split <;> rfl
    | false => rw [(enable_false_inv h).2]; rfl
  | stopPositional => rw [(stopPositional_inv h).2]; rfl
  | _ => exact (Demand.quiet rfl h).loaded

theorem Log.running_snoc {l : Log} {d : Demand} :
    Log.running (l ++ [(d, t)]) = (d.switch?.map (· == .on)).getD l.running := by
  cases hd : d.switch? <;> simp [Log.running, hd]

/-- A plugin is loaded between a start and the next shutdown that is asked for. -/
theorem Operated.loaded_eq {l : Log} (hp : p.Upright) (hl : p.loaded = false) (h : p.Operated l q) :
    q.loaded = l.running := by
  induction h with
  | nil => exact hl
  | snoc h hd ih => rw [Log.running_snoc, Demand.loaded_eq (h.upright hp).valid hd, ih]

/-- The start or the shutdown that shows in a change of the flag. -/
def shift (p p' : Plugin) : List Switch :=
  if p'.loaded = p.loaded then [] else [if p'.loaded then .on else .off]

theorem shift_eq_nil (h : p'.loaded = p.loaded) : shift p p' = [] := if_pos h

/-- A plugin that exports both functions hears of every change of the flag, and of nothing else. -/
theorem Demand.switches_eq {d : Demand} (hv : p.valid = true) (hinit : p.exports .init = true)
    (hshutdown : p.exports .shutdown = true) (h : Yields (d.perform p) t p') :
    t.switches = shift p p' := by
  have hloaded := Demand.loaded_eq hv h
  cases d with
  | init =>
    obtain ⟨x, rfl, hx⟩ := yields_map.1 h
    obtain ⟨hq, status, rfl⟩ := loaded_of_init hv hx
    rw [hq]
    cases hl : p.loaded <;> simp [shift, switches_opening, hinit, hl]
  | shutdown =>
    rw [(shutdown_cases h).1, shift, hloaded, switches_closing, hshutdown]
    cases hl : p.loaded <;> simp [Demand.switch?]
  | enable on =>
    rw [shift_eq_nil hloaded]
    cases on with
    | true => rw [(enable_true_inv h).1, switches_nil]
    | false => rw [(enable_false_inv h).1, switches_farewell]
  | stopPositional => rw [shift_eq_nil hloaded, (stopPositional_inv h).1, switches_farewell]
  | _ => rw [shift_eq_nil hloaded, (Demand.quiet rfl h).switches]

/-- Starts and shutdowns by turns, the last start without its shutdown while the plugin is
loaded. -/
theorem Operated.switches_eq {l : Log} (hs : p.Sound) (hl : p.loaded = false)
    (hg : p.generation = .current) (h : p.Operated l q) :
    ∃ n, l.transcript.switches = Switch.rounds n ++ if q.loaded then [.on] else [] := by
  induction h with
  | nil => exact ⟨0, by simp [Log.transcript, Switch.rounds, hl]⟩
  | @snoc l q q' d t h hd ih =>
    obtain ⟨n, hn⟩ := ih
    have hexports : ∀ e, q.exports e = p.exports e := by
      obtain ⟨_, hused⟩ := h.used
      have hnew := (hused.balanced hs (hs.flags_of_unloaded hl).2).newborn_eq
      intro e
      rw [← exports_newborn, hnew, exports_newborn]
    have hmandatory : ∀ e ∈ EntryPoint.mandatory, q.exports e = true := fun e he =>
      (hexports e).trans (hs.exports_mandatory hg e he)
    have hstep := Demand.switches_eq (h.upright ⟨hs.valid, hs.loaded_of_enabled⟩).valid
      (hmandatory _ (by decide)) (hmandatory _ (by decide)) hd
    rw [Log.transcript_snoc, switches_append, hn, hstep, shift]
    -- a shutdown ends a round
    cases hq : q.loaded <;> cases hq' : q'.loaded
    · exact ⟨n, by simp⟩
    · exact ⟨n, by simp⟩
    · exact ⟨n + 1, by simp [Switch.rounds]⟩
    · exact ⟨n, by simp⟩

/-! ## Stops -/

/-- The plugin is told to stop before anything else is asked of it, and once. -/
def StopsFirst (t : Transcript) : Prop :=
  ∃ (e : Exchange) (u : Transcript), t = e :: u ∧ e.isStop = true ∧ u.stops = []

/-- Only a plugin that is active has a farewell. -/
theorem stopsFirst_farewell (hu : u.stops = []) (h : (p.farewell ++ u).stops ≠ []) :
    p.active = true ∧ StopsFirst (p.farewell ++ u) := by
  rw [stops_append, hu, List.append_nil, stops_farewell] at h
  obtain ⟨e, he⟩ := List.exists_mem_of_ne_nil _ h
  have hstop : e.isStop = true := (List.mem_filter.1 (stops_farewell.symm ▸ he)).2
  cases ha : p.active with
  | false => simp [farewell_of_inactive ha] at he
  | true =>
    rw [farewell_of_active ha] at he ⊢
    rw [parting_of_mem he]
    exact ⟨rfl, e, u, rfl, hstop, hu⟩

/-- Whatever is done with a plugin, it is told to stop while it is active only. -/
theorem Demand.stopsFirst {d : Demand} (h : Yields (d.perform p) t p') (ht : t.stops ≠ []) :
    p.active = true ∧ p'.active = false ∧ StopsFirst t := by
  have hfarewell (hf : t = p.farewell) : p.active = true ∧ StopsFirst t := by
    rw [← List.append_nil p.farewell] at hf
    subst hf
    exact stopsFirst_farewell rfl ht
  cases d with
  | init =>
    obtain ⟨x, rfl, hx⟩ := yields_map.1 h
    exact absurd (stops_of_asks asks_init (by decide) hx) ht
  | shutdown =>
    obtain ⟨rfl, rfl⟩ := shutdown_cases h
    unfold closing at ht ⊢
    cases hl : p.loaded with
    | false => simp [hl, stops] at ht
    | true =>
      rw [hl, if_pos rfl] at ht
      rw [if_pos rfl, if_pos rfl]
      obtain ⟨ha, hfirst⟩ := stopsFirst_farewell (by unfold heard; split <;> rfl) ht
      exact ⟨ha, rfl, hfirst⟩
  | enable on =>
    cases on with
    | true =>
      rw [(enable_true_inv h).1] at ht
      exact absurd rfl ht
    | false =>
      obtain ⟨hf, rfl⟩ := enable_false_inv h
      obtain ⟨ha, hfirst⟩ := hfarewell hf
      exact ⟨ha, rfl, hfirst⟩
  | stopPositional =>
    obtain ⟨hf, rfl⟩ := stopPositional_inv h
    obtain ⟨ha, hfirst⟩ := hfarewell hf
    exact ⟨ha, rfl, hfirst⟩
  | _ => exact absurd (Demand.quiet rfl h).stops ht

/-- A plugin that is let go of is told to stop first, if at all. -/
theorem drop_stopsFirst {x : Unit} (h : Yields p.drop t x) (ht : t.stops ≠ []) :
    p.active = true ∧ StopsFirst t := by
  obtain ⟨u, v, p', rfl, hu, hv⟩ := yields_bind.1 h
  obtain rfl := yields_call.1 hv
  rw [stops_append] at ht
  obtain ⟨ha, -, e, w, rfl, he, hw⟩ := Demand.stopsFirst (d := .shutdown) hu fun hnone =>
    ht (by rw [hnone]; rfl)
  exact ⟨ha, e, w ++ _, rfl, he, by rw [stops_append, hw]; rfl⟩

/-! ## The last calls -/

/-- What a plugin hears when it is shut down while it provides positional data: that its session is
over, if it can be told, and then the shutdown. An older plugin is not told of the shutdown. -/
inductive LastCalls (p : Plugin) : Transcript → Prop
  | current (hg : p.generation = .current) :
      LastCalls p [⟨.plugin p.who .stopPositional, ()⟩, ⟨.plugin p.who .shutdown, ()⟩]
  | legacy (hg : p.generation = .legacy) (a : Legacy.Adapter) (hb : p.backend = .legacy a) :
      LastCalls p (if a.primary.hasUnlock then [⟨.plugin p.who .unlock, ()⟩] else [])

theorem heard_of_exports {e : EntryPoint} {c : Call} {r : c.Reply} (he : p.exports e = true) :
    p.heard e c r = [⟨.plugin p.who c, r⟩] := if_pos he

theorem parting_of_exports (h : p.exports .stopPositional = true) :
    p.parting = [⟨.plugin p.who .stopPositional, ()⟩] := by
  unfold parting
  cases hb : p.backend with
  | current e => exact heard_of_exports h
  | legacy a => simp [exports, hb] at h
  | unresolved => simp [exports, hb] at h

@[simp] theorem generation_newborn : p.newborn.generation = p.generation := by
  simp [newborn, asleep]

/-- Whatever happened to a plugin since it was created, and also if it is not enabled any more. -/
theorem closing_lastCalls (hs : p.newborn.Sound) (hc : p.CanBegin) (ha : p.active = true)
    (hl : p.loaded = true) : p.LastCalls p.closing := by
  have hcreated := canBegin_newborn.2 hc
  rw [closing, if_pos hl, farewell_of_active ha]
  cases hg : p.generation with
  | current =>
    have hg' : p.newborn.generation = .current := generation_newborn.trans hg
    -- who took an offer exports what ends the session
    have hoffer : p.newborn.exports .offerPositional = true := by
      obtain hx | ⟨a, hb⟩ := hcreated
      · exact hx
      · simpa [hb, hg, Backend.Suits] using hs.suits
    have hstop := hs.exports_stop hoffer
    have hshutdown := hs.exports_mandatory hg' .shutdown (by decide)
    rw [exports_newborn] at hstop hshutdown
    rw [parting_of_exports hstop, heard_of_exports hshutdown]
    exact .current hg
  | legacy =>
    have hnone (e : EntryPoint) : p.exports e = false := by
      rw [← exports_newborn]
      exact hs.not_exports (generation_newborn.trans hg) e
    obtain ⟨a, hb⟩ : ∃ a, p.backend = .legacy a := by
      obtain hx | ha := hc
      · rw [hnone] at hx
        exact absurd hx Bool.false_ne_true
      · exact ha
    simp only [parting, heard, hb, hnone, Bool.false_eq_true, if_false, List.append_nil]
    exact .legacy hg a hb

/-! ## The whole life -/

/-- What holds of a plugin between any two operations, if `running` says that it was started and not
shut down since. -/
structure Orderly (p : Plugin) (running : Bool) : Prop where
  loaded_of_enabled : p.enabled = true → p.loaded = true
  valid_of_loaded : p.loaded = true → p.valid = true
  /-- It is not started again, and that is a success. -/
  init_again : running = true → p.init = .done (.ok, p)
  /-- Nothing is shut down that was not started. -/
  shutdown_idle : running = false → p.shutdown = .done p
  /-- It is told to stop only while it is active. -/
  stopsFirst : ∀ d t p', Yields (Demand.perform p d) t p' → t.stops ≠ [] →
    p.active = true ∧ p'.active = false ∧ StopsFirst t
  drop_stopsFirst : ∀ t x, Yields p.drop t x → t.stops ≠ [] → p.active = true ∧ StopsFirst t
  /-- The session of an active plugin is over before it hears of its shutdown. -/
  shutdown_lastCalls : p.active = true → p.loaded = true →
    ∀ t p', Yields p.shutdown t p' → p.LastCalls t
  drop_lastCalls : p.active = true → p.loaded = true →
    ∀ t x, Yields p.drop t x → ∃ u, t = u ++ [⟨.plugin p.who .unload, ()⟩] ∧ p.LastCalls u

/-- A plugin hears of starts and shutdowns by turns, from a start on. -/
structure ByTurns (p : Plugin) (running : Bool) (t : Transcript) : Prop where
  running_iff : running = true ↔ t.switches.getLast? = some .on
  switches_eq : ∃ n, t.switches = Switch.rounds n ++ if running then [.on] else []
  /-- Once the plugin is let go of, there were as many of each. -/
  drop : ∀ u x, Yields p.drop u x → (∃ n, (t ++ u).switches = Switch.rounds n) ∧
    (t ++ u).switches.count .on = (t ++ u).switches.count .off

theorem Switch.getLast?_rounds {n : Nat} : (Switch.rounds n).getLast? ≠ some .on := by
  cases n <;> simp [Switch.rounds]

/-- A plugin is in order after any operations. -/
theorem Operated.orderly {l : Log} (hb : p.Born t) (h : p.Operated l q) : q.Orderly l.running := by
  have hup := h.upright ⟨hb.sound.valid, hb.sound.loaded_of_enabled⟩
  have hloaded := h.loaded_eq ⟨hb.sound.valid, hb.sound.loaded_of_enabled⟩ hb.unloaded
  obtain ⟨n, hused⟩ := h.used
  have hbal := hused.balanced hb.sound (hb.sound.flags_of_unloaded hb.unloaded).2
  have hnew : q.newborn = p := hbal.newborn_eq.trans hb.newborn_eq
  have hlast (ha : q.active = true) (hl : q.loaded = true) : q.LastCalls q.closing := by
    refine closing_lastCalls (hnew ▸ hb.sound) ?_ ha hl
    rw [← canBegin_newborn, hnew]
    exact hbal.canBegin ha
  exact
    { loaded_of_enabled := hup.loaded_of_enabled
      valid_of_loaded := fun _ => hup.valid
      init_again := fun hr => init_of_loaded hup.valid (hloaded.trans hr)
      shutdown_idle := fun hr => shutdown_of_unloaded (hloaded.trans hr)
      stopsFirst := fun _ _ _ => Demand.stopsFirst
      drop_stopsFirst := fun _ _ => Plugin.drop_stopsFirst
      shutdown_lastCalls := fun ha hl t q' hd => (shutdown_cases hd).1 ▸ hlast ha hl
      drop_lastCalls := fun ha hl t x hd => ⟨q.closing, drop_inv hd, hlast ha hl⟩ }

/-- **Starts and shutdowns by turns.** Induction on the operations: each one shows as a change of
the flag or not at all, and the flag says what the next change must be. -/
theorem Operated.byTurns {l : Log} (hs : p.Sound) (hl : p.loaded = false)
    (hg : p.generation = .current) (h : p.Operated l q) : q.ByTurns l.running l.transcript := by
  have hup : p.Upright := ⟨hs.valid, hs.loaded_of_enabled⟩
  obtain ⟨n, hn⟩ := h.switches_eq hs hl hg
  rw [h.loaded_eq hup hl] at hn
  refine ⟨?_, ⟨n, hn⟩, fun u x hdrop => ?_⟩
  · rw [hn]
    cases l.running <;> simp [Switch.getLast?_rounds]
  · -- it is shut down first, and then not loaded
    obtain ⟨v, w, q', rfl, hv, hw⟩ := yields_bind.1 hdrop
    have hlast := h.snoc (d := .shutdown) hv
    obtain ⟨m, hm⟩ := hlast.switches_eq hs hl hg
    rw [hlast.loaded_eq hup hl, Log.running_snoc, Log.transcript_snoc] at hm
    have hrounds : (l.transcript ++ (v ++ w)).switches = Switch.rounds m := by
      rw [← List.append_assoc, switches_append, hm, yields_call.1 hw]
      simp [Demand.switch?, switches, Exchange.switch?]
    exact ⟨⟨m, hrounds⟩, by rw [hrounds, Switch.count_rounds, Switch.count_rounds]⟩

/-- A plugin that was created, and then used in any way. If it is of the current interface, it heard
of starts and shutdowns by turns. -/
theorem lifecycle {source : Source} {generation : Generation} {ledger ledger' : Ledger}
    {t₀ : Transcript} {l : Log}
    (hcreate : Yields (create source generation ledger) t₀ (.ok p, ledger')) (h : p.Operated l q) :
    q.Orderly l.running ∧
      (generation = .current → q.ByTurns l.running (t₀ ++ l.transcript)) := by
  obtain ⟨hborn, rfl⟩ : p.Born t₀ ∧ p.generation = generation := by
    cases create_inv hcreate with
    | born p hp hw hi hg => exact ⟨hp, hg⟩
  refine ⟨h.orderly hborn, fun hg => ?_⟩
  -- the creation neither starts nor shuts down
  have hquiet : t₀.switches = [] := switches_of_asks asks_create (by decide) (by decide) hcreate
  have hturns := h.byTurns hborn.sound hborn.unloaded hg
  have hsame (u : Transcript) : (t₀ ++ u).switches = u.switches := by
    rw [switches_append, hquiet, List.nil_append]
  refine ⟨?_, ?_, fun u x hdrop => ?_⟩
  · rw [hsame]
    exact hturns.running_iff
  · rw [hsame]
    exact hturns.switches_eq
  · rw [List.append_assoc, hsame]
    exact hturns.drop u x hdrop

/-! ## Recorded operations -/

/-- One more operation, in a world that answers each query always in the same way. -/
def operateOnce (answer : (q : Query) → q.Reply) (a : Log × Plugin) (d : Demand) : Log × Plugin :=
  let x := (d.perform a.2).record answer
  (a.1 ++ [(d, x.1)], x.2)

/-- Operations, and the plugin afterwards. -/
def operate (answer : (q : Query) → q.Reply) (p : Plugin) (ds : List Demand) : Log × Plugin :=
  ds.foldl (operateOnce answer) ([], p)

theorem operated_operate (answer : (q : Query) → q.Reply) (p : Plugin) (ds : List Demand) :
    p.Operated (p.operate answer ds).1 (p.operate answer ds).2 := by
  suffices hfold : ∀ a : Log × Plugin, p.Operated a.1 a.2 →
      p.Operated (ds.foldl (operateOnce answer) a).1 (ds.foldl (operateOnce answer) a).2 from
    hfold ([], p) .nil
  induction ds with
  | nil => exact fun _ h => h
  | cons d ds ih => exact fun a h => ih (operateOnce answer a d) (h.snoc (yields_record answer _))

/-- Both plugins of the duo say that they could not start. -/
def reluctant : (q : Query) → q.Reply
  | .plugin _ .init => .genericError
  | q => Duo.answer .zero q

/-- A plugin that says so is loaded all the same. It is started twice, takes an offer, is shut down
twice and started again, and is let go of: it hears of two starts and two shutdowns. -/
theorem lifecycle_soloist :
    let a := soloist.operate reluctant [.init, .init, .offer [], .shutdown, .shutdown, .init]
    let u := (a.2.drop.record reluctant).1
    Yields (create (.builtIn 0) .current .initial)
        [⟨.plugin ⟨0, .builtIn 0⟩ .load, some Duo.table⟩] (.ok soloist, ⟨⟨2⟩, 1⟩) ∧
      soloist.Operated a.1 a.2 ∧ a.1.transcript.switches = [.on, .off, .on] ∧
      a.2.init = .done (.ok, a.2) ∧
      (a.1.transcript ++ u).switches.count .on = (a.1.transcript ++ u).switches.count .off := by
  intro a u
  have hops : soloist.Operated a.1 a.2 := operated_operate _ _ _
  have hlife := lifecycle create_soloist hops
  exact ⟨create_soloist, hops, by decide +kernel, hlife.1.init_again (by decide +kernel),
    ((hlife.2 rfl).drop u () (yields_record reluctant a.2.drop)).2⟩

end Plugin

end PluginHost
