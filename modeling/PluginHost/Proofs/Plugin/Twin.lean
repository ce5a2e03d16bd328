import PluginHost.Proofs.Plugin.Programme

/-!
# Twins of two interfaces

A plugin of the current interface and an older one that play the same programme, each in a world of
its own. The worlds agree on everybody else.

* **`Plugin.Twin`**: the two plugins, or a third one that is the same in both worlds. Twins have the
  same identity and the same flags, and **`Plugin.Tied`** handles.
* **`Twin.activate`**, **`Twin.offer`**, **`Twin.fetch`** and the others: twins go through
  everything in step.
-/

namespace PluginHost

open Interaction

namespace Plugin

variable {σ : Type} {W W' : World σ} {g : Programme σ} {c l : Nat} {p p' : Plugin} {s : σ}

/-! ## Twins -/

/-- The handles of twins. -/
def Tied (c l n n' : Nat) : Prop := (n = c ∧ n' = l) ∨ (n = n' ∧ n ≠ c ∧ n' ≠ l)

/-- Different plugins have different handles in both worlds. -/
theorem Tied.eq_iff {n n' m m' : Nat} (hn : Tied c l n n') (hm : Tied c l m m') :
    n = m ↔ n' = m' := by
  unfold Tied at hn hm
  omega

/-- The two plugins in the same place, or a plugin that is the same in both worlds. -/
inductive Twin (c l : Nat) : Plugin → Plugin → Prop
  | pair {p p' : Plugin} (hc : IsCurrent c p) (hl : IsLegacy l p') (hbadge : p.badge = p'.badge) :
      Twin c l p p'
  | other {p : Plugin} (hc : p.handle ≠ c) (hl : p.handle ≠ l) : Twin c l p p

/-- Only the plugin of one's own is asked, so the two worlds are the same for a third plugin. -/
theorem inStep_other {α : Type} {x : Interaction α} {R : α → α → Prop} (hs : g.Staged W W' c l)
    (hc : p.handle ≠ c) (hl : p.handle ≠ l) (hx : Addresses p.handle x)
    (hR : ∀ t a, Yields x t a → R a a) : InStep W W' R x x := by
  refine inStep_self (fun t a ht e he => ?_) hR
  have hwho := hx t a ht e he
  obtain ⟨q, r⟩ := e
  cases q with
  | plugin who k =>
    obtain hh : who.handle = p.handle := Option.some.inj hwho
    exact hs.others who k (hh ▸ hc) (hh ▸ hl)
  | _ => simp [Exchange.handle?] at hwho

namespace Twin

variable (h : Twin c l p p')
include h

theorem tied : Tied c l p.handle p'.handle := by
  cases h with
  | pair hc hl => exact .inl ⟨hc.handle, hl.handle⟩
  | other hc hl => exact .inr ⟨rfl, hc, hl⟩

theorem badge_eq : p.badge = p'.badge := by
  cases h with
  | pair hc hl hbadge => exact hbadge
  | other hc hl => rfl

theorem id_eq : p.id = p'.id := congrArg Badge.id h.badge_eq

theorem loaded_eq : p.loaded = p'.loaded := congrArg Badge.loaded h.badge_eq

theorem enabled_eq : p.enabled = p'.enabled := congrArg Badge.enabled h.badge_eq

theorem active_eq : p.active = p'.active := congrArg Badge.active h.badge_eq

theorem flags {a a' b b' d d' : Bool} (ha : a = a') (hb : b = b') (hd : d = d') :
    Twin c l { p with loaded := a, enabled := b, active := d }
      { p' with loaded := a', enabled := b', active := d' } := by
  subst ha hb hd
  have hid := h.id_eq
  cases h with
  | pair hc hl =>
    exact .pair ⟨hc.handle, hc.valid, hc.generation, hc.exports⟩
      ⟨hl.handle, hl.valid, hl.generation, hl.adapter⟩ (congrArg (Badge.mk · a b d) hid)
  | other hc hl => exact .other hc hl

theorem deactivated : Twin c l { p with active := false } { p' with active := false } :=
  h.flags h.loaded_eq h.enabled_eq rfl

theorem activated : Twin c l { p with active := true } { p' with active := true } :=
  h.flags h.loaded_eq h.enabled_eq rfl

theorem toggled (on : Bool) : Twin c l (p.toggled on) (p'.toggled on) := by
  unfold Plugin.toggled
  rw [← h.loaded_eq]
  split
  · split
    · exact h.flags rfl rfl h.active_eq
    · exact h
  · exact h.flags rfl rfl rfl

theorem started (allowed : Bool) :
    Twin c l (if p.loaded then p else Plugin.toggled { p with loaded := true } allowed)
      (if p'.loaded then p' else Plugin.toggled { p' with loaded := true } allowed) := by
  rw [← h.loaded_eq]
  split
  · exact h
  · exact toggled (h.flags rfl h.enabled_eq h.active_eq) allowed

/-- Both are asleep after they are closed. -/
theorem closed :
    Twin c l (if p.loaded then p.asleep else p) (if p'.loaded then p'.asleep else p') := by
  rw [← h.loaded_eq]
  split
  · exact h.flags rfl rfl rfl
  · exact h

variable (hs : g.Staged W W' c l)
include hs

/-- What neither offers nor fetches and has one possible result. -/
theorem resting {op : Plugin → Interaction Plugin} {f : Plugin → Plugin}
    (haddresses : ∀ q, Addresses q.handle (op q)) (hasks : ∀ q, Asks [.stopping] (op q))
    (hresult : ∀ q t a, Yields (op q) t a → a = f q) (hafter : Twin c l (f p) (f p')) :
    InStep W W' (Twin c l) (op p) (op p') := by
  cases h with
  | pair hc hl =>
    intro s
    rw [run_of_rests (hc.rests hs.current) (haddresses p) (hasks p) (by decide) (by decide)
        (hresult p),
      run_of_rests (hl.rests hs.legacy) (haddresses p') (hasks p') (by decide) (by decide)
        (hresult p')]
    exact ⟨hafter, rfl⟩
  | other hc hl =>
    exact inStep_other hs hc hl (haddresses p) fun t a ha => hresult p t a ha ▸ hafter

theorem stopPositional : InStep W W' (Twin c l) p.stopPositional p'.stopPositional :=
  h.resting hs (fun _ => addresses_stopPositional) (fun _ => asks_stopPositional)
    (fun _ _ _ h => (stopPositional_inv h).2) h.deactivated

theorem enable {on : Bool} : InStep W W' (Twin c l) (p.enable on) (p'.enable on) :=
  h.resting hs (fun _ => addresses_enable) (fun _ => asks_enable) (fun _ _ _ => enable_result)
    (h.toggled on)

theorem shutdown : InStep W W' (Twin c l) p.shutdown p'.shutdown :=
  h.resting hs (fun _ => addresses_shutdown) (fun _ => asks_shutdown)
    (fun _ _ _ h => (shutdown_cases h).2) h.closed

theorem activate {allowed : Bool} : InStep W W' (Beside (Twin c l))
    (Registry.activate allowed p) (Registry.activate allowed p') := by
  have hafter := h.started allowed
  cases h with
  | pair hc hl =>
    intro s
    rw [hc.run_activate hs.current, hl.run_activate hs.legacy]
    exact ⟨⟨rfl, hafter⟩, rfl⟩
  | other hc hl =>
    refine inStep_other hs hc hl addresses_activate fun t x h => ⟨rfl, ?_⟩
    have hhandle := activate_handle h
    exact .other (hhandle ▸ hc) (hhandle ▸ hl)

/-- Both take an offer or both decline it. -/
theorem offer {processes : List Process} :
    InStep W W' (Beside (Twin c l)) (p.offer processes) (p'.offer processes) := by
  have hafter := h.activated
  cases h with
  | pair hc hl hbadge =>
    intro s
    rw [hc.run_offer hs.current, hl.run_offer hs.legacy]
    refine ⟨?_, rfl⟩
    cases g.accepts s with
    | true => exact ⟨rfl, hafter⟩
    | false => exact ⟨rfl, .pair hc hl hbadge⟩
  | other hc hl =>
    refine inStep_other hs hc hl addresses_offer fun t x h => ⟨rfl, ?_⟩
    rw [(offer_cases h).2]
    split
    · exact hafter
    · exact .other hc hl

/-- Both write the same into the same snapshot. -/
theorem fetch {a : Snapshot} :
    InStep W W' (fun x y => x.1 = y.1 ∧ Twin c l x.2.1 y.2.1 ∧ x.2.2 = y.2.2)
    (p.fetch a) (p'.fetch a) := by
  cases h with
  | pair hc hl hbadge =>
    intro s
    obtain ⟨q, hrun, hq, hqbadge⟩ := hl.run_fetch hs.legacy (a := a) s
    rw [hc.run_fetch hs.current, hrun]
    exact ⟨⟨rfl, .pair hc hq (hbadge.trans hqbadge.symm), rfl⟩, rfl⟩
  | other hc hl =>
    refine inStep_other hs hc hl addresses_fetch fun t x h => ⟨rfl, ?_, rfl⟩
    obtain ⟨caches, hq⟩ := fetch_result h
    rw [hq]
    exact .other (handle_withCaches (p := p) ▸ hc) (handle_withCaches (p := p) ▸ hl)

end Twin

end Plugin
end PluginHost
