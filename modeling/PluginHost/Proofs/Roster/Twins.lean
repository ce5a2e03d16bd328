import Mathlib.Data.List.Forall2
import PluginHost.Proofs.Plugin.Twin

/-!
# Rosters with twins

Two rosters that have twins in the same places, and twins as providers.

* **`Roster.Twins`**: such rosters. Who is found in one has a twin that is found in the other.
* **`Twins.arbitrate`**, **`Twins.release`**, **`Twins.releaseIf`**: looking for a provider and
  ending its session go on in step.
-/

namespace PluginHost

open Interaction

/-- Who is found first in two lists of related elements. -/
theorem rel_find? {α β : Type} {R : α → β → Prop} {f : α → Bool} {g : β → Bool}
    {as : List α} {bs : List β} (h : List.Forall₂ R as bs) (hfg : ∀ a b, R a b → f a = g b) :
    Option.Rel R (as.find? f) (bs.find? g) := by
  induction h with
  | nil => exact .none
  | @cons a b as bs hab _ ih =>
    rw [List.find?_cons, List.find?_cons, hfg a b hab]
    cases g b with
    | true => exact .some hab
    | false => exact ih

namespace Roster

variable {σ : Type} {W W' : World σ} {g : Programme σ} {c l n n' : Nat} {o o' : Roster}
  {p p' : Plugin} {order order' : List Nat}

/-- Twins in the same places, and twins as providers. -/
structure Twins (c l : Nat) (o o' : Roster) : Prop where
  plugins : List.Forall₂ (Plugin.Twin c l) o.plugins o'.plugins
  provider : Option.Rel (Plugin.Tied c l) o.provider o'.provider

namespace Twins

variable (h : Twins c l o o')
include h

/-- Tied handles lead to twins. -/
theorem find? (hn : Plugin.Tied c l n n') :
    Option.Rel (Plugin.Twin c l) (o.find? n) (o'.find? n') := by
  refine rel_find? h.plugins fun p p' hp => ?_
  rw [Bool.eq_iff_iff, beq_iff_eq, beq_iff_eq]
  exact hp.tied.eq_iff hn

theorem byId? (id : PluginId) : Option.Rel (Plugin.Twin c l) (o.byId? id) (o'.byId? id) :=
  rel_find? h.plugins fun _ _ hp => by rw [hp.id_eq]

/-- Twins in place of twins leave rosters of twins. -/
theorem update (hp : Plugin.Twin c l p p') : Twins c l (o.update p) (o'.update p') := by
  refine ⟨List.rel_map (fun q q' hq => ?_) h.plugins, h.provider⟩
  have hsame := hq.tied.eq_iff hp.tied
  by_cases hhandle : q.handle = p.handle
  · rw [if_pos hhandle, if_pos (hsame.1 hhandle)]
    exact hp
  · rw [if_neg hhandle, if_neg (mt hsame.2 hhandle)]
    exact hq

theorem isProviding_eq : o.isProviding = o'.isProviding := by
  have hprovider := h.provider
  unfold isProviding
  generalize o.provider = a, o'.provider = b at hprovider
  cases hprovider <;> rfl

/-- The providers are twins. -/
theorem providing? : Option.Rel (Plugin.Twin c l) o.providing? o'.providing? := by
  have hprovider := h.provider
  unfold Roster.providing?
  generalize o.provider = a, o'.provider = b at hprovider
  cases hprovider with
  | none => exact .none
  | some hn => exact h.find? hn

theorem handles : List.Forall₂ (Plugin.Tied c l) (Registry.handles o.plugins)
    (Registry.handles o'.plugins) :=
  List.rel_map (fun _ _ hp => hp.tied) h.plugins

/-- Everybody but the plugins with an identity. -/
theorem handles_others (id : PluginId) : List.Forall₂ (Plugin.Tied c l)
    (Registry.handles (o.plugins.filter (·.id != id)))
    (Registry.handles (o'.plugins.filter (·.id != id))) :=
  List.rel_map (fun _ _ hp => hp.tied)
    (List.rel_filter (fun p p' hp => by
      change (p.id != id) = true ↔ (p'.id != id) = true
      rw [hp.id_eq]) h.plugins)

/-- Those who are eligible are twins, in the same order. -/
theorem eligible (horder : List.Forall₂ (Plugin.Tied c l) order order') :
    List.Forall₂ (Plugin.Twin c l) (o.eligible order) (o'.eligible order') :=
  List.rel_filter (fun p p' hp => by
      change (p.loaded && p.enabled) = true ↔ (p'.loaded && p'.enabled) = true
      rw [hp.loaded_eq, hp.enabled_eq])
    (List.rel_filterMap (fun _ _ hn => h.find? hn) horder)

variable (hs : g.Staged W W' c l)
include hs

/-- Offers are answered in step. Induction on the candidates, one pair of twins after the other. -/
theorem offerInTurn {processes : List Process} {cs cs' : List Plugin}
    (hcs : List.Forall₂ (Plugin.Twin c l) cs cs') :
    InStep W W' (Twins c l) (offerInTurn processes cs o) (offerInTurn processes cs' o') := by
  induction hcs generalizing o o' with
  | nil => exact inStep_done h
  | @cons q q' cs cs' hq _ ih =>
    have hfind := h.find? hq.tied
    unfold Roster.offerInTurn
    generalize o.find? q.handle = a, o'.find? q'.handle = b at hfind
    cases hfind with
    | none => exact ih h
    | some hp =>
      refine (hp.offer hs).bind fun x y hxy => ?_
      obtain ⟨code, p⟩ := x
      obtain ⟨code', p'⟩ := y
      obtain ⟨hcode, hp⟩ := hxy
      obtain rfl : code = code' := hcode
      dsimp only at hp ⊢
      -- the code is the same, so the round goes on alike
      split
      · exact inStep_done ⟨(h.update hp).plugins, .some hp.tied⟩
      · split
        · exact (hp.enable hs).bind fun _ _ hp => ih (h.update hp)
        · exact ih (h.update hp)

theorem arbitrate (horder : List.Forall₂ (Plugin.Tied c l) order order') :
    InStep W W' (Twins c l) (o.arbitrate order) (o'.arbitrate order') := by
  have hcandidates := h.eligible horder
  have hempty : (o.eligible order).isEmpty = (o'.eligible order').isEmpty := by
    generalize o.eligible order = cs, o'.eligible order' = cs' at hcandidates
    cases hcandidates <;> rfl
  unfold Roster.arbitrate
  rw [h.isProviding_eq]
  split
  · exact inStep_done h
  · dsimp only
    rw [hempty]
    split
    · exact inStep_done h
    · refine (inStep_query hs.processes).bind fun ps ps' hps => ?_
      rw [hps]
      exact h.offerInTurn hs hcandidates

theorem release : InStep W W' (Twins c l) o.release o'.release := by
  have hproviding := h.providing?
  unfold Roster.release
  generalize o.providing? = a, o'.providing? = b at hproviding
  cases hproviding with
  | none => exact inStep_done ⟨h.plugins, .none⟩
  | some hp =>
    exact (hp.stopPositional hs).bind fun _ _ hq => inStep_done ⟨(h.update hq).plugins, .none⟩

theorem releaseIf {id : PluginId} :
    InStep W W' (Beside (Twins c l)) (o.releaseIf id) (o'.releaseIf id) := by
  have hproviding := h.providing?
  unfold Roster.releaseIf
  generalize o.providing? = a, o'.providing? = b at hproviding
  cases hproviding with
  | none => exact inStep_done ⟨rfl, h⟩
  | @some p p' hp =>
    dsimp only
    rw [hp.id_eq]
    split
    · exact (h.release hs).bind fun _ _ ho => inStep_done ⟨rfl, ho⟩
    · exact inStep_done ⟨rfl, h⟩

end Twins
end Roster
end PluginHost
