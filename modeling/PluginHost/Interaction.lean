import PluginHost.Call

/-!
# Interactions

A computation of the host that may ask the world outside. An `Interaction α` is either done with a
result or waits for the answer to one query and goes on from there.

* `Interaction.run` plays an interaction against a world: a state and a function that answers.
* `Interaction.Yields` relates an interaction to a transcript and a result: some world gives these
  answers. A statement over all transcripts is a statement over all plugins, also over those that
  change their mind.
-/

namespace PluginHost

/-- A query with the answer that was given. -/
structure Exchange where
  query : Query
  reply : query.Reply

/-- Queries and answers in the order in which they happened. -/
abbrev Transcript := List Exchange

inductive Interaction (α : Type) where
  | done (result : α)
  | ask (query : Query) (next : query.Reply → Interaction α)

namespace Interaction

variable {α β γ σ : Type}

def bind : Interaction α → (α → Interaction β) → Interaction β
  | done a, f => f a
  | ask q next, f => ask q fun r => (next r).bind f

instance : Monad Interaction where
  pure := done
  bind := bind

/-- Asks one query and returns the answer. -/
def query (q : Query) : Interaction q.Reply := ask q done

/-- Calls one plugin. -/
def call (who : Occupant) (c : Call) : Interaction c.Reply := ask (.plugin who c) done

/-- Answers queries, changing a state. -/
abbrev World (σ : Type) := (q : Query) → σ → q.Reply × σ

/-- Plays an interaction against a world. -/
def run (world : World σ) : Interaction α → σ → α × σ
  | done a, s => (a, s)
  | ask q next, s => (next (world q s).1).run world (world q s).2

/-- The transcript leads the interaction to the result. -/
inductive Yields : Interaction α → Transcript → α → Prop where
  | done (a : α) : Yields (.done a) [] a
  | ask {q : Query} {next : q.Reply → Interaction α} (r : q.Reply) {t : Transcript} {a : α} :
      Yields (next r) t a → Yields (.ask q next) (⟨q, r⟩ :: t) a

/-- Does an action for each element from the left, passing a state along. -/
def foldM (f : β → α → Interaction β) : β → List α → Interaction β
  | b, [] => done b
  | b, a :: as => (f b a).bind fun b => foldM f b as

/-- Collects the results of an action on each element from the left. -/
def traverse (f : α → Interaction β) : List α → Interaction (List β)
  | [] => done []
  | a :: as => (f a).bind fun b => (traverse f as).bind fun bs => done (b :: bs)

/-! ## Laws -/

theorem bind_done (x : Interaction α) : x.bind done = x := by
  induction x with
  | done a => rfl
  | ask q next ih => simp only [bind, ih]

/-- It does not matter how steps are grouped. -/
theorem bind_assoc (x : Interaction α) (f : α → Interaction β) (g : β → Interaction γ) :
    (x.bind f).bind g = x.bind fun a => (f a).bind g := by
  induction x with
  | done a => rfl
  | ask q next ih => simp only [bind, ih]

@[simp] theorem pure_eq_done (a : α) : (pure a : Interaction α) = done a := rfl

@[simp] theorem bind_eq (x : Interaction α) (f : α → Interaction β) : x >>= f = x.bind f := rfl

@[simp] theorem done_bind (a : α) (f : α → Interaction β) : (done a).bind f = f a := rfl

instance : LawfulMonad Interaction :=
  LawfulMonad.mk' Interaction
    (fun x => bind_done x) (fun _ _ => rfl) (fun x f g => bind_assoc x f g)

@[simp] theorem yields_done {a b : α} {t : Transcript} :
    Yields (done a) t b ↔ t = [] ∧ b = a := by
  constructor
  · intro h; cases h; exact ⟨rfl, rfl⟩
  · rintro ⟨rfl, rfl⟩; exact .done _

/-- The first exchange of an interaction is its query with any reply. -/
theorem yields_ask {q : Query} {next : q.Reply → Interaction α} {t : Transcript} {a : α} :
    Yields (ask q next) t a ↔ ∃ r u, t = ⟨q, r⟩ :: u ∧ Yields (next r) u a := by
  constructor
  · intro h; cases h with | ask r h => exact ⟨r, _, rfl, h⟩
  · rintro ⟨r, u, rfl, h⟩; exact .ask r h

/-- The transcript of two interactions in a row is the first one's followed by the second one's. -/
theorem yields_bind {x : Interaction α} {f : α → Interaction β} {t : Transcript} {b : β} :
    Yields (x.bind f) t b ↔ ∃ u v a, t = u ++ v ∧ Yields x u a ∧ Yields (f a) v b := by
  induction x generalizing t with
  | done a =>
    constructor
    · intro h; exact ⟨[], t, a, rfl, .done a, h⟩
    · rintro ⟨u, v, a', rfl, hu, hv⟩
      obtain ⟨rfl, rfl⟩ := yields_done.1 hu
      exact hv
  | ask q next ih =>
    simp only [bind, yields_ask]
    constructor
    · rintro ⟨r, u, rfl, h⟩
      obtain ⟨u₁, v, a, rfl, h₁, h₂⟩ := (ih r).1 h
      exact ⟨⟨q, r⟩ :: u₁, v, a, rfl, ⟨r, u₁, rfl, h₁⟩, h₂⟩
    · rintro ⟨_, v, a, rfl, ⟨r, u, rfl, h₁⟩, h₂⟩
      exact ⟨r, u ++ v, rfl, (ih r).2 ⟨u, v, a, rfl, h₁, h₂⟩⟩

/-- Playing against a world follows some transcript. -/
theorem exists_yields_run (world : World σ) (x : Interaction α) (s : σ) :
    ∃ t, Yields x t (x.run world s).1 := by
  induction x generalizing s with
  | done a => exact ⟨[], .done a⟩
  | ask q next ih =>
    obtain ⟨t, h⟩ := ih (world q s).1 (world q s).2
    exact ⟨_, .ask _ h⟩

/-- A world runs one part after the other. -/
theorem run_bind (world : World σ) (x : Interaction α) (f : α → Interaction β) (s : σ) :
    (x.bind f).run world s = (f (x.run world s).1).run world (x.run world s).2 := by
  induction x generalizing s with
  | done a => rfl
  | ask q next ih => simp only [bind, run, ih]

end Interaction

end PluginHost
