import PluginHost.Proofs.Plugin.Protocol
import PluginHost.Proofs.Registry.History

/-!
# The calls of a whole history

Every handle that a registry gives out is accounted for: what was called under it is an attempt that
failed, the chronicle of a plugin that is registered, or the whole life of one that is gone.

* **`Registry.Accounted`**: the invariant, from the transcript so far and the registry.
* **`Step.accounted`**, **`Fetch.accounted`**: it is kept.
* **`call_protocol`**: when the registry is closed, every plugin that was ever created has led a
  whole life.
-/

namespace PluginHost

open Interaction Transcript

/-- What was called under a handle that no plugin has, or no plugin has any more. -/
inductive Departed (n : Nat) : Transcript → Prop
  | unused : Departed n []
  | stillborn {t : Transcript} (who : Occupant) (hw : who.handle = n)
      (ht : Plugin.Stillborn who t) :
      Departed n t
  | finished {t : Transcript} (p : Plugin) (hp : p.handle = n) (ht : p.Finished t) : Departed n t

namespace Registry

variable {r s : Registry} {p q : Plugin} {t u : Transcript} {n : Nat} {h : History}
  {directories : PluginDirectories}

/-- Every handle is accounted for. -/
structure Accounted (r : Registry) (t : Transcript) : Prop where
  registered : ∀ p ∈ r.plugins, p.Chronicle (t.callsTo p.handle)
  departed : ∀ n, (∀ p ∈ r.plugins, p.handle ≠ n) → Departed n (t.callsTo n)
  unused : ∀ n, r.ledger.nextHandle ≤ n → t.callsTo n = []

namespace Accounted

theorem new (directories : PluginDirectories) : (Registry.new directories).Accounted [] :=
  ⟨by simp [Registry.new, plugins], fun _ _ => .unused, fun _ _ => rfl⟩

/-- What is no call is in no account. -/
theorem uncalled (ha : r.Accounted t) (hu : ∀ n, u.callsTo n = []) : r.Accounted (t ++ u) := by
  refine ⟨fun p hp => ?_, fun n hn => ?_, fun n hn => ?_⟩
  · rw [callsTo_append, hu, List.append_nil]
    exact ha.registered p hp
  · rw [callsTo_append, hu, List.append_nil]
    exact ha.departed n hn
  · rw [callsTo_append, hu, List.append_nil]
    exact ha.unused n hn

/-- One plugin goes on, and the others stay as they are. -/
theorem update (ha : r.Accounted t) (hc : r.Consistent) (hp : p ∈ r.plugins)
    (hh : q.handle = p.handle) (hu : Concerns p.handle u)
    (hq : q.Chronicle (t.callsTo p.handle ++ u))
    (hs : s.plugins = (r.roster.update q).plugins) (hl : s.ledger = r.ledger) :
    s.Accounted (t ++ u) := by
  refine ⟨fun o ho => ?_, fun n hn => ?_, fun n hn => ?_⟩
  · rw [hs] at ho
    rcases Roster.mem_update.1 ho with ⟨hmem, hne⟩ | ⟨rfl, -⟩
    · rw [hu.callsTo_others (hh ▸ hne)]
      exact ha.registered o hmem
    · rw [hh, hu.callsTo_own]
      exact hq
  · -- the handles are those that were there before
    have hall : ∀ o ∈ r.plugins, o.handle ≠ n := by
      intro o ho
      by_cases he : o.handle = q.handle
      · rw [he]
        exact hn q (hs ▸ Roster.mem_update.2 (.inr ⟨rfl, p, hp, hh.symm⟩))
      · exact hn o (hs ▸ Roster.mem_update.2 (.inl ⟨ho, he⟩))
    rw [hu.callsTo_others (hall p hp).symm]
    exact ha.departed n hall
  · rw [hl] at hn
    have := hc.bounded p hp
    rw [hu.callsTo_others (by omega)]
    exact ha.unused n hn

/-- A plugin goes. -/
theorem remove (ha : r.Accounted t) (hc : r.Consistent) (hp : p ∈ r.plugins)
    (hload : p.loaded = false) :
    Accounted { r with roster := r.roster.remove p.handle }
      (t ++ [⟨.plugin p.who .unload, ()⟩]) := by
  have hu : Concerns p.handle [⟨.plugin p.who .unload, ()⟩] := concerns_singleton
  refine ⟨fun q hq => ?_, fun n hn => ?_, fun n hn => ?_⟩
  · obtain ⟨hmem, hne⟩ := Roster.mem_remove.1 hq
    rw [hu.callsTo_others hne]
    exact ha.registered q hmem
  · by_cases he : n = p.handle
    · -- this life is over, and the chronicle is the whole of it
      subst he
      rw [hu.callsTo_own]
      exact .finished p.newborn Plugin.handle_newborn
        ((ha.registered p hp).finished (hc.roster.sound p hp) hload)
    · rw [hu.callsTo_others he]
      refine ha.departed n fun q hq hqn => ?_
      exact hn q (Roster.mem_remove.2 ⟨hq, hqn ▸ he⟩) hqn
  · have := hc.bounded p hp
    rw [hu.callsTo_others (by dsimp only at hn; omega)]
    exact ha.unused n hn

/-- A plugin comes, with a handle that was not used. -/
theorem born {l : Ledger} (ha : r.Accounted t) (hc : r.Consistent) (hb : p.Born u)
    (hh : p.handle = r.ledger.nextHandle) (hl : l.nextHandle = r.ledger.nextHandle + 1) :
    Accounted { r with ledger := l, roster := ⟨r.roster.plugins ++ [p], r.roster.provider⟩ }
      (t ++ u) := by
  refine ⟨fun q hq => ?_, fun n hn => ?_, fun n hn => ?_⟩
  · rcases List.mem_append.1 hq with hq | hq
    · have := hc.bounded q hq
      rw [hb.concerns.callsTo_others (by omega)]
      exact ha.registered q hq
    · obtain rfl := List.mem_singleton.1 hq
      rw [hb.concerns.callsTo_own, ha.unused q.handle (by omega), List.nil_append]
      exact hb.chronicle
  · -- a handle that nobody has now is not that of the newcomer
    have hne : n ≠ p.handle := fun he => hn p (by simp [plugins]) he.symm
    rw [hb.concerns.callsTo_others hne]
    exact ha.departed n fun q hq => hn q (List.mem_append_left _ hq)
  · dsimp only at hn
    rw [hb.concerns.callsTo_others (by omega)]
    exact ha.unused n (by omega)

/-- An attempt fails, with a handle that was not used. -/
theorem failed {l : Ledger} {who : Occupant} (ha : r.Accounted t) (hc : r.Consistent)
    (ht : Plugin.Stillborn who u) (hh : who.handle = r.ledger.nextHandle)
    (hl : l.nextHandle = r.ledger.nextHandle + 1) :
    Accounted { r with ledger := l } (t ++ u) := by
  refine ⟨fun q hq => ?_, fun n hn => ?_, fun n hn => ?_⟩
  · have := hc.bounded q hq
    rw [ht.concerns.callsTo_others (by omega)]
    exact ha.registered q hq
  · by_cases he : n = who.handle
    · subst he
      rw [ht.concerns.callsTo_own, ha.unused who.handle (by omega), List.nil_append]
      exact .stillborn who rfl ht
    · rw [ht.concerns.callsTo_others he]
      exact ha.departed n hn
  · dsimp only at hn
    rw [ht.concerns.callsTo_others (by omega)]
    exact ha.unused n (by omega)

end Accounted

/-! ## Steps -/

/-- **One step keeps the account.** The calls of a step concern one handle, whose account is
continued as the step says; all others are as they were. -/
theorem Step.accounted (h : r.Step u s) (hc : r.Consistent) (ha : r.Accounted t) :
    s.Accounted (t ++ u) := by
  cases h with
  | born p _ l hb hh hl => exact ha.born hc hb hh hl
  | failed who _ l ht hh hl => exact ha.failed hc ht hh hl
  | zeroed =>
    rw [List.append_nil]
    exact ⟨ha.registered, ha.departed, ha.unused⟩
  | configured builtIns allowed =>
    rw [List.append_nil]
    exact ⟨ha.registered, ha.departed, ha.unused⟩
  | roster o _ h =>
    cases h with
    | looked processes => exact ha.uncalled fun n => rfl
    | removed p hp hl => exact ha.remove hc hp hl
    | change p p' _ hp hstep =>
      refine ha.update hc hp hstep.handle_eq hstep.concerns ?_ rfl rfl
      exact (ha.registered p hp).extend hstep.newborn_eq fun d hl =>
        hstep.lived (hc.roster.sound p hp) hl
    | accepted p processes _ hp hl he hn ht =>
      -- the place was empty, so the plugin was loaded and had no session
      have hidle : p.active = false := by
        cases hact : p.active with
        | false => rfl
        | true => simpa [hn] using (hc.roster.held p hp).1 hact
      refine ha.update (q := { p with active := true }) hc hp rfl ht.concerns ?_ rfl rfl
      refine (ha.registered p hp).extend rfl fun d hlived => ?_
      rw [hl, hidle] at hlived
      rw [ht.deeds_eq]
      dsimp only
      rw [hl]
      exact hlived.offer ht.newborn
    | released p hp hact =>
      -- the session that is closed is the one that the offer opened
      have hl := (hc.roster.sound p hp).loaded_of_active hact
      refine ha.update (q := { p with active := false }) hc hp rfl Plugin.concerns_farewell ?_
        rfl rfl
      refine (ha.registered p hp).extend rfl fun d hlived => ?_
      rw [hl, hact] at hlived
      rw [Plugin.farewell_of_active hact, Plugin.deeds_parting, ← Plugin.parting_newborn]
      dsimp only
      rw [hl]
      exact hlived.stop

/-- A frame belongs to the session of the provider. -/
theorem Fetch.accounted {e : Exchange} (h : r.Fetch e s) (hc : r.Consistent) (ha : r.Accounted t) :
    s.Accounted (t ++ [e]) := by
  obtain ⟨p, _, f, c, hp, hact, hf, hcoh⟩ := h
  have hl := (hc.roster.sound p hp).loaded_of_active hact
  refine ha.update hc hp Plugin.handle_withCaches (Plugin.concerns_of_frame? hf) ?_ rfl rfl
  refine (ha.registered p hp).extend Plugin.newborn_withCaches fun d hlived => ?_
  rw [Plugin.newborn_withCaches, Plugin.loaded_withCaches, Plugin.active_withCaches]
  rw [hl, hact] at hlived ⊢
  rw [Plugin.deeds_of_frame? hf]
  exact hlived.fetch (f := f) (by rwa [Plugin.who_newborn])

/-! ## Histories -/

/-- The account is kept over every history. -/
theorem Follows.accounted (hf : (new directories).Follows h s) : s.Accounted h.transcript :=
  hf.invariant (P := fun t r => r.Accounted t) (consistent_new directories) (.new directories)
    (fun _ _ _ _ hc ha hs => hs.accounted hc ha) (fun _ _ _ _ hc ha he => he.accounted hc ha)

/-- When the registry is closed after a history, every handle has seen one of three things: no call,
an attempt that failed, or the whole life of a plugin, which was called in the order of the
protocol. -/
theorem call_protocol {x : Unit} (hf : (new directories).Follows h s) (hu : Yields s.close u x) :
    (∀ p ∈ s.plugins, p.Chronicle (h.transcript.callsTo p.handle)) ∧
      ∀ n, Departed n ((h.transcript ++ u).callsTo n) := by
  have hc := hf.consistent (consistent_new directories)
  have hend := (close_steps hc hu).invariant (P := fun t r => r.Accounted t) hc hf.accounted
    fun _ _ _ _ hc ha hs => hs.accounted hc ha
  exact ⟨hf.accounted.registered, fun n => hend.departed n (by simp [plugins])⟩

/-- The first of two plugins took the first offer and is the provider when the registry is
closed. -/
theorem call_protocol_duo :
    let x := Duo.start.record (Duo.answer .zero) Duo.firstFetch
    let u := (x.2.close.record (Duo.answer .zero)).1
    (deeds ((x.1.transcript ++ u).callsTo 0)).map (·.query) =
        [.load, .registerApi, .init, .offerPositional [] [], .fetchPositional, .stopPositional,
          .shutdown, .unload].map (Query.plugin ⟨0, .builtIn 0⟩) ∧
      ∀ n, Departed n ((x.1.transcript ++ u).callsTo n) := by
  refine ⟨by decide +kernel, ?_⟩
  exact (call_protocol (follows_record (Duo.answer .zero) Duo.start Duo.firstFetch)
    (yields_record (Duo.answer .zero) _)).2

end Registry

end PluginHost
