import PluginHost.Proofs.InStep
import PluginHost.Proofs.Registry.Purpose

/-!
# One plugin in a world

Every operation on a plugin asks that plugin and nobody else. Nothing has to be known of the plugin
for that, and what becomes of it is known up to what it answers.

* **`Plugin.addresses_activate`**, **`addresses_offer`** and the others: who is asked.
* **`Plugin.enable_result`**, **`fetch_result`** and the others: what becomes of the plugin.
* **`Rests`**: what is neither an offer nor a fetch leaves the world as it is.
* **`Plugin.run_of_rests`**: in such a world an operation with one possible result comes to that
  result and to nothing else. **`Plugin.run_activate`**: so does an activation of a plugin that
  starts.
-/

namespace PluginHost

open Interaction

variable {σ : Type} {W : World σ}

/-- What is neither an offer nor a fetch leaves the world as it is. -/
def Rests (W : World σ) (n : Nat) : Prop :=
  ∀ who k s, who.handle = n → k.purpose ≠ .offering → k.purpose ≠ .fetching →
    (W (.plugin who k) s).2 = s

namespace Plugin

variable {p : Plugin} {s : σ}

/-! ## Only one plugin is asked -/

theorem addresses_callOr {e : EntryPoint} {k : Call} {d : k.Reply} :
    Addresses p.handle (p.callOr e k d) := by
  unfold callOr
  split
  · exact addresses_call
  · exact addresses_done

theorem addresses_notify {e : EntryPoint} {k : Call} : Addresses p.handle (p.notify e k) := by
  unfold notify
  split
  · exact addresses_call.bind fun _ _ _ => addresses_done
  · exact addresses_done

theorem addresses_stopPositional : Addresses p.handle p.stopPositional := by
  intro t q h
  rw [(stopPositional_inv h).1]
  exact concerns_farewell

theorem addresses_enable {on : Bool} : Addresses p.handle (p.enable on) := by
  cases on with
  | true => exact addresses_done
  | false => exact addresses_stopPositional (p := { p with enabled := false })

theorem addresses_shutdown : Addresses p.handle p.shutdown := by
  unfold shutdown
  split
  · exact addresses_done
  · refine addresses_stopPositional.bind fun t q h => ?_
    rw [(stopPositional_inv h).2]
    exact addresses_notify.bind fun _ _ _ => addresses_done

theorem addresses_init : Addresses p.handle p.init := by
  unfold init
  split
  · exact addresses_done
  · split
    · exact addresses_done
    · split
      · exact addresses_notify.bind fun _ _ _ => addresses_callOr.bind fun _ _ _ =>
          addresses_notify.bind fun _ _ _ => addresses_done
      · exact addresses_done

/-- Activation asks only the plugin itself. -/
theorem addresses_activate {allowed : Bool} :
    Addresses p.handle (Registry.activate allowed p) := by
  unfold Registry.activate
  split
  · exact addresses_done
  refine Addresses.bind ?_ fun _ x _ => ?_
  · unfold Registry.handTable
    split
    · exact addresses_done
    · refine addresses_callOr.bind fun _ v _ => ?_
      split
      · exact addresses_done
      · exact addresses_notify.bind fun _ _ _ => addresses_done
  · split
    · exact addresses_done
    · refine addresses_init.bind fun t y hy => ?_
      obtain ⟨status, q⟩ := y
      have hq : q.handle = p.handle := by
        rcases init_result hy with rfl | rfl <;> rfl
      rw [← hq]
      dsimp only
      split
      · exact addresses_enable.bind fun _ _ _ => addresses_done
      · exact addresses_shutdown.bind fun _ _ _ => addresses_done

theorem addresses_offer {processes : List Process} : Addresses p.handle (p.offer processes) := by
  unfold offer
  split
  · exact addresses_callOr.bind fun _ _ _ => addresses_done
  · refine Addresses.bind ?_ fun _ _ _ => addresses_done
    unfold Legacy.Adapter.offer
    split
    · exact addresses_call.bind fun _ _ _ => addresses_done
    · split
      · exact addresses_call.bind fun _ _ _ => addresses_done
      · exact addresses_done
  · exact addresses_done

theorem addresses_fetch {a : Snapshot} : Addresses p.handle (p.fetch a) := by
  unfold fetch
  split
  · split
    · exact addresses_call.bind fun _ _ _ => addresses_done
    · exact addresses_done
  · refine Addresses.bind ?_ fun _ _ _ => addresses_done
    unfold Legacy.Adapter.fetch
    split
    · exact addresses_done
    · exact addresses_call.bind fun _ _ _ => addresses_done
  · exact addresses_done

/-! ## What becomes of a plugin -/

theorem enable_result {on : Bool} {t : Transcript} {q : Plugin} (h : Yields (p.enable on) t q) :
    q = p.toggled on := by
  cases on with
  | true => exact (enable_true_inv h).2
  | false => exact (enable_false_inv h).2

/-- Activation does not give the plugin another handle. -/
theorem activate_handle {allowed : Bool} {t : Transcript} {x : Except PluginError Status × Plugin}
    (h : Yields (Registry.activate allowed p) t x) : x.2.handle = p.handle := by
  unfold Registry.activate at h
  split at h
  · rw [(yields_done.1 h).2]
  obtain ⟨_, _, y, rfl, -, h₁⟩ := yields_bind.1 h
  split at h₁
  · rw [(yields_done.1 h₁).2]
  · obtain ⟨_, _, ⟨status, q⟩, rfl, hinit, h₂⟩ := yields_bind.1 h₁
    have hq : q.handle = p.handle := by
      rcases init_result hinit with rfl | rfl <;> rfl
    dsimp only at h₂
    split at h₂
    · obtain ⟨_, _, _, rfl, h₃, h₄⟩ := yields_bind.1 h₂
      rw [(yields_done.1 h₄).2, enable_result h₃, handle_toggled, hq]
    · obtain ⟨_, _, _, rfl, h₃, h₄⟩ := yields_bind.1 h₂
      rw [(yields_done.1 h₄).2, (shutdown_cases h₃).2, ← hq]
      split <;> rfl

/-- A fetch changes nothing but the change caches. -/
theorem fetch_result {a : Snapshot} {t : Transcript} {x : Bool × Plugin × Snapshot}
    (h : Yields (p.fetch a) t x) : ∃ c, x.2.1 = p.withCaches c := by
  unfold fetch at h
  split at h
  · rename_i e hb
    refine ⟨(.empty, .empty), ?_⟩
    rw [withCaches_of_current hb]
    split at h
    · obtain ⟨_, _, _, rfl, -, h₁⟩ := yields_bind.1 h
      rw [(yields_done.1 h₁).2]
    · rw [(yields_done.1 h).2]
  · rename_i adapter hb
    obtain ⟨_, _, ⟨proceed, adapter', s⟩, rfl, h₁, h₂⟩ := yields_bind.1 h
    rw [(yields_done.1 h₂).2]
    refine ⟨(adapter'.contextCache, adapter'.identityCache), ?_⟩
    rw [withCaches_of_legacy hb]
    -- the rest of the adapter is as it was
    unfold Legacy.Adapter.fetch at h₁
    split at h₁
    · obtain ⟨-, heq⟩ := yields_done.1 h₁
      obtain ⟨-, rfl, -⟩ : proceed = false ∧ adapter' = adapter ∧ s = .zeroed := by simpa using heq
      rfl
    · obtain ⟨_, _, r, -, -, h₃⟩ := yields_bind.1 h₁
      obtain ⟨-, heq⟩ := yields_done.1 h₃
      simp only [Prod.mk.injEq] at heq
      obtain ⟨-, rfl, -⟩ := heq
      rfl
  · rename_i hb
    refine ⟨(.empty, .empty), ?_⟩
    rw [(yields_done.1 h).2, withCaches, hb]

/-! ## A plugin that leaves the world as it is -/

/-- A plugin that rests between offers and fetches answers everything else without moving the world,
so that the result depends on nothing. -/
theorem run_of_rests {α : Type} {x : Interaction α} {b : α} {ps : List Purpose}
    (hW : Rests W p.handle) (hx : Addresses p.handle x) (hps : Asks ps x)
    (hoffer : .offering ∉ ps) (hfetch : .fetching ∉ ps) (hb : ∀ t a, Yields x t a → a = b)
    (s : σ) : x.run W s = (b, s) := by
  refine Prod.ext ?_ (run_rests (fun t a ht e he s => ?_) s)
  · obtain ⟨t, ht⟩ := exists_yields_run W x s
    exact hb t _ ht
  · have hwho := hx t a ht e he
    have hserves := hps t a ht e he
    obtain ⟨q, r⟩ := e
    cases q with
    | plugin who k =>
      exact hW who k s (Option.some.inj hwho) (fun h => hoffer (h ▸ hserves))
        fun h => hfetch (h ▸ hserves)
    | _ => simp [Exchange.handle?] at hwho

theorem run_enable (hW : Rests W p.handle) {on : Bool} (s : σ) :
    (p.enable on).run W s = (p.toggled on, s) :=
  run_of_rests hW addresses_enable asks_enable (by decide) (by decide)
    (fun _ _ h => enable_result h) s

theorem run_notify (hW : Rests W p.handle) {e : EntryPoint} {k : Call} (hk : k.purpose = .starting)
    (s : σ) : (p.notify e k).run W s = ((), s) :=
  run_of_rests hW addresses_notify (asks_notify hk) (by decide) (by decide) (fun _ _ _ => rfl) s

theorem run_callOr {e : EntryPoint} {k : Call} {d : k.Reply} (he : p.exports e = true) (s : σ) :
    (p.callOr e k d).run W s = W (.plugin p.who k) s := by
  rw [callOr, if_pos he]
  rfl

/-- A plugin that gets the function table and starts is loaded, with the permission by default. -/
theorem run_activate {allowed : Bool} (hW : Rests W p.handle)
    (htable : ∀ s, (Registry.handTable p).run W s = (.ok (), s))
    (hinit : p.loaded = false → ∀ s, p.init.run W s = ((.ok, { p with loaded := true }), s))
    (s : σ) :
    (Registry.activate allowed p).run W s =
      ((.ok .ok, if p.loaded then p else toggled { p with loaded := true } allowed), s) := by
  unfold Registry.activate
  cases hl : p.loaded with
  | true => rfl
  | false =>
    have hrest : Rests W (handle { p with loaded := true }) := hW
    simp only [Bool.false_eq_true, if_false, bind_eq, run_bind, htable, hinit hl]
    rw [if_pos (by decide)]
    simp only [run_bind, run_enable hrest]
    rfl

end Plugin
end PluginHost
