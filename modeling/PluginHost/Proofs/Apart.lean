import Mathlib.Logic.Function.Basic
import PluginHost.Proofs.InStep

/-!
# Plugins that keep to themselves

A world in which each plugin has a state of its own. What a plugin answers depends on that state,
and the state depends on what this plugin was asked: the calls to the others make no difference to
it. A state may be as much as everything that the plugin was ever asked.

* **`Interaction.bind_congr_yields`**: what follows an interaction matters for its possible results
  only.
* **`Interaction.apart`**: the world of such plugins. **`Interaction.alone`**: one of them.
* **`Interaction.run_apart`**: an interaction with one plugin needs and changes one state.
-/

namespace PluginHost
namespace Interaction

variable {α β S : Type} {x : Interaction α} {n : Nat}

/-- What follows an interaction matters for its possible results only. -/
theorem bind_congr_yields {f g : α → Interaction β} (h : ∀ t a, Yields x t a → f a = g a) :
    x.bind f = x.bind g := by
  induction x with
  | done a => exact h [] a (.done a)
  | ask q next ih =>
    simp only [bind, ask.injEq, heq_eq_eq, true_and]
    funext r
    exact ih r fun t a ht => h _ a (.ask r ht)

theorem map_eq_bind (f : α → β) (x : Interaction α) : f <$> x = x.bind fun a => done (f a) := rfl

/-- What a plugin answers in a state, and the state it goes on in. -/
abbrev Behaviour (S : Type) := (who : Occupant) → (c : Call) → S → c.Reply × S

/-- Each plugin has a state of its own. Whatever else is asked is answered always in the same
way. -/
def apart (B : Behaviour S) (answer : (q : Query) → q.Reply) : World (Nat → S)
  | .plugin who c, s => ((B who c (s who.handle)).1,
      Function.update s who.handle (B who c (s who.handle)).2)
  | q, s => (answer q, s)

/-- A world for one plugin. -/
def alone (B : Behaviour S) (answer : (q : Query) → q.Reply) : World S
  | .plugin who c, s => B who c s
  | q, s => (answer q, s)

/-- The first question goes to the plugin, and so do those after it. -/
theorem Addresses.of_ask {σ : Type} {q : Query} {next : q.Reply → Interaction α} (W : World σ)
    (s : σ) (h : Addresses n (ask q next)) :
    (∃ who c, q = .plugin who c ∧ who.handle = n) ∧ ∀ r, Addresses n (next r) := by
  refine ⟨?_, fun r t a ht e he => h _ a (.ask r ht) e (List.mem_cons_of_mem _ he)⟩
  -- in any world it is the first of some transcript
  obtain ⟨t, ht⟩ := exists_yields_run W (next (W q s).1) s
  have hfirst : Exchange.handle? ⟨q, (W q s).1⟩ = some n :=
    h _ _ (.ask _ ht) _ (List.mem_cons_self ..)
  cases q with
  | plugin who c => exact ⟨who, c, rfl, Option.some.inj hfirst⟩
  | _ => simp [Exchange.handle?] at hfirst

/-- Interactions with one plugin run as if it were alone, and leave the states of the others as they
are. -/
theorem run_apart {B : Behaviour S} {answer : (q : Query) → q.Reply} (h : Addresses n x)
    (s : Nat → S) :
    x.run (apart B answer) s =
      ((x.run (alone B answer) (s n)).1, Function.update s n (x.run (alone B answer) (s n)).2) := by
  induction x generalizing s with
  | done a => simp [run]
  | ask q next ih =>
    obtain ⟨⟨who, c, rfl, rfl⟩, hrest⟩ := h.of_ask (apart B answer) s
    simp only [run, apart, alone]
    rw [ih _ (hrest _), Function.update_self, Function.update_idem]

end Interaction
end PluginHost
