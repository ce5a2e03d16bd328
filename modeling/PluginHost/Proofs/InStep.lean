import PluginHost.Proofs.Transcript

/-!
# Two worlds in step

Two interactions, each played against a world of its own. The worlds have the same states and may
answer the same question differently.

* **`Interaction.Addresses`**: only the plugin with a handle is asked, whatever is answered.
* **`Interaction.run_congr`**: where two worlds answer everything alike that is asked, the play is
  the same in both.
* **`Interaction.InStep`**: from any common state the two end in a common state, with related
  results.
* **`InStep.bind`**: what is in step goes on in step.
-/

namespace PluginHost
namespace Interaction

variable {α β γ δ σ : Type} {x : Interaction α} {y : Interaction β} {W W' : World σ} {n : Nat}

/-! ## Who is asked -/

/-- Whatever is answered, only the plugin that has a handle is asked. -/
def Addresses (n : Nat) (x : Interaction α) : Prop := ∀ t a, Yields x t a → t.Concerns n

/-- From here on, what an interaction addresses is closed under the ways in which it is built. -/
theorem addresses_done {a : α} : Addresses n (done a) := by
  intro t b h
  rw [(yields_done.1 h).1]
  exact Transcript.concerns_nil

theorem addresses_call {who : Occupant} {c : Call} : Addresses who.handle (call who c) := by
  intro t r h
  rw [yields_call.1 h]
  exact Transcript.concerns_singleton

theorem Addresses.bind {f : α → Interaction β} (hx : Addresses n x)
    (hf : ∀ t a, Yields x t a → Addresses n (f a)) : Addresses n (x.bind f) := by
  intro t b h
  obtain ⟨u, v, a, rfl, hu, hv⟩ := yields_bind.1 h
  exact (hx u a hu).append (hf u a hu v b hv)

/-! ## Worlds that agree -/

/-- Worlds that answer alike whatever is asked of them cannot be told apart. -/
theorem run_congr (h : ∀ t a, Yields x t a → ∀ e ∈ t, W e.query = W' e.query) (s : σ) :
    x.run W s = x.run W' s := by
  induction x generalizing s with
  | done a => rfl
  | ask q next ih =>
    -- the first question is part of some transcript
    have hq : W q = W' q := by
      obtain ⟨t, ht⟩ := exists_yields_run W (next (W q s).1) s
      exact h _ _ (.ask (W q s).1 ht) ⟨q, (W q s).1⟩ (List.mem_cons_self ..)
    have hrest (r : q.Reply) (s : σ) : (next r).run W s = (next r).run W' s :=
      ih r (fun t a ht e he => h _ a (.ask r ht) e (List.mem_cons_of_mem _ he)) s
    simp only [run, hrest, hq]

/-- A state that no answer changes is there in the end. -/
theorem run_rests (h : ∀ t a, Yields x t a → ∀ e ∈ t, ∀ s, (W e.query s).2 = s) (s : σ) :
    (x.run W s).2 = s := by
  induction x generalizing s with
  | done a => rfl
  | ask q next ih =>
    have hq : (W q s).2 = s := by
      obtain ⟨t, ht⟩ := exists_yields_run W (next (W q s).1) s
      exact h _ _ (.ask (W q s).1 ht) ⟨q, (W q s).1⟩ (List.mem_cons_self ..) s
    have hrest := ih (W q s).1
      (fun t a ht e he => h _ a (.ask _ ht) e (List.mem_cons_of_mem _ he)) (W q s).2
    exact hrest.trans hq

/-! ## In step -/

/-- From any common state the two end in a common state, with related results. -/
def InStep (W W' : World σ) (R : α → β → Prop) (x : Interaction α) (y : Interaction β) : Prop :=
  ∀ s, R (x.run W s).1 (y.run W' s).1 ∧ (x.run W s).2 = (y.run W' s).2

/-- The same on the left, and related results on the right. -/
def Beside (R : α → β → Prop) (a : γ × α) (b : γ × β) : Prop := a.1 = b.1 ∧ R a.2 b.2

variable {R : α → β → Prop} {Q : γ → δ → Prop}

/-- From here on, the same for two interactions in step. -/
theorem inStep_done {a : α} {b : β} (h : R a b) : InStep W W' R (done a) (done b) :=
  fun _ => ⟨h, rfl⟩

theorem InStep.bind {f : α → Interaction γ} {g : β → Interaction δ} (h : InStep W W' R x y)
    (hf : ∀ a b, R a b → InStep W W' Q (f a) (g b)) : InStep W W' Q (x.bind f) (y.bind g) := by
  intro s
  obtain ⟨hR, hs⟩ := h s
  rw [run_bind, run_bind, hs]
  exact hf _ _ hR _

theorem inStep_query {q : Query} (h : W q = W' q) : InStep W W' Eq (query q) (query q) :=
  fun s => ⟨congrArg (fun f => (f s).1) h, congrArg (fun f => (f s).2) h⟩

/-- The same interaction in two worlds that answer it alike. -/
theorem inStep_self {R : α → α → Prop} (hW : ∀ t a, Yields x t a → ∀ e ∈ t, W e.query = W' e.query)
    (hR : ∀ t a, Yields x t a → R a a) : InStep W W' R x x := by
  intro s
  obtain ⟨t, ht⟩ := exists_yields_run W' x s
  rw [run_congr hW]
  exact ⟨hR t _ ht, rfl⟩

end Interaction
end PluginHost
