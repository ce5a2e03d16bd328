import PluginHost.Proofs.Plugin.Step

/-!
# One turn of a round of offers

Whoever looks for a provider asks one candidate after the other. What one turn does is said here
once, with nothing assumed of the candidate or of the roster, and all that is known of rounds comes
from it.

* **`Plugin.Replies`**: what a candidate is asked in its turn, and the code that comes of it.
* **`Plugin.dismissal`**, **`Plugin.obeying`**: what it hears because of its code, and what becomes
  of it.
* **`offerInTurn_step`**: a turn, and the round after it.
-/

namespace PluginHost

open Interaction Transcript

namespace Plugin

variable {p : Plugin} {t : Transcript} {processes : List Process} {code : OfferCode}

/-- What a plugin is asked in its turn, and the code that comes of it. One that did not pass
validation declines for good without being asked. -/
def Replies (p : Plugin) (processes : List Process) (t : Transcript) (code : OfferCode) : Prop :=
  p.Offered processes t code ∨ p.backend = .unresolved ∧ t = [] ∧ code = .permanent

/-- What a plugin hears because of its answer. -/
def dismissal (p : Plugin) (code : OfferCode) : Transcript :=
  if code = .permanent then p.farewell else []

/-- What becomes of a plugin with its answer: it is active, or neither allowed nor active, or as
before. -/
def obeying (p : Plugin) (code : OfferCode) : Plugin :=
  if code = .ok then { p with active := true }
  else if code = .permanent then { p with enabled := false, active := false }
  else p

theorem Replies.concerns (h : p.Replies processes t code) : Concerns p.handle t := by
  rcases h with h | ⟨-, rfl, -⟩
  · exact h.concerns
  · exact concerns_nil

/-- A plugin that passed validation is asked. -/
theorem Replies.offered (hs : p.Sound) (h : p.Replies processes t code) :
    p.Offered processes t code := by
  refine h.resolve_right fun hbackend => ?_
  have hsuits := hs.suits
  simp [hbackend.1, Backend.Suits] at hsuits

/-- Only the plugin that is dismissed is told to stop. -/
theorem concerns_dismissal : Concerns p.handle (p.dismissal code) := by
  unfold dismissal
  split
  · exact concerns_farewell
  · exact concerns_nil

/-- A plugin without a session has none to be told the end of. -/
theorem dismissal_of_inactive (ha : p.active = false) : p.dismissal code = [] := by
  unfold dismissal
  split
  · exact farewell_of_inactive ha
  · rfl

@[simp] theorem handle_obeying : (p.obeying code).handle = p.handle := by
  unfold obeying
  split
  · rfl
  · split <;> rfl

end Plugin

namespace Roster

variable {r s : Roster} {p c : Plugin} {t : Transcript}

/-- **One turn.** The candidate accepts and is the provider, and nobody else is asked. Or it
declines, and whether that is for now or for good, the others have their turn. `p` is what the
candidate is when its turn comes. -/
theorem offerInTurn_step {processes : List Process} {cs : List Plugin}
    (hfind : r.find? c.handle = some p) (h : Yields (offerInTurn processes (c :: cs) r) t s) :
    (p.Offered processes t .ok ∧
      s = { r.update (p.obeying .ok) with provider := some p.handle }) ∨
    ∃ u code w, p.Replies processes u code ∧ code ≠ .ok ∧ t = u ++ p.dismissal code ++ w ∧
      Yields (offerInTurn processes cs (r.update (p.obeying code))) w s := by
  unfold offerInTurn at h
  rw [hfind] at h
  obtain ⟨u, v, ⟨code, c'⟩, rfl, h₁, h₂⟩ := yields_bind.1 h
  obtain ⟨hreply, hc'⟩ := Plugin.offer_cases h₁
  dsimp only at hreply hc' h₂
  by_cases hok : code = .ok
  · left
    rw [if_pos hok] at hc' h₂
    obtain ⟨rfl, rfl⟩ := yields_done.1 h₂
    subst hok hc'
    rw [List.append_nil]
    refine ⟨hreply.resolve_right fun hperm => ?_, rfl⟩
    simp [OfferCode.ok, OfferCode.permanent] at hperm
  · right
    rw [if_neg hok] at hc' h₂
    subst hc'
    by_cases hperm : code = .permanent
    · rw [if_pos hperm] at h₂
      obtain ⟨_, w, _, rfl, h₃, h₄⟩ := yields_bind.1 h₂
      obtain ⟨rfl, rfl⟩ := Plugin.enable_false_inv h₃
      refine ⟨u, code, w, hreply, hok, ?_, ?_⟩
      · rw [Plugin.dismissal, if_pos hperm, List.append_assoc]
      · rwa [Plugin.obeying, if_neg hok, if_pos hperm]
    · rw [if_neg hperm] at h₂
      refine ⟨u, code, v, hreply, hok, ?_, ?_⟩
      · rw [Plugin.dismissal, if_neg hperm, List.append_nil]
      · rwa [Plugin.obeying, if_neg hok, if_neg hperm]

end Roster

end PluginHost
