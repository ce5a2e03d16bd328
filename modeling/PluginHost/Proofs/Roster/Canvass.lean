import PluginHost.Proofs.Roster.Step

/-!
# Rounds of offers among any plugins

Plugins are asked one after the other until one accepts. Nothing is known of them here but that no
two have one handle: they may be active already, or not even have passed validation, and they may
stand in any order.

* **`winner?`**, **`answer?`**: who accepted, and what somebody answered.
* **`Canvass`**: plugins have their turn until one accepts. One that declines for good is told to
  stop, if it was active.
* **`Plugin.canvassed`**: a plugin after everybody's answers. Who has not answered is as before.
* **`offerInTurn_canvass`**, **`arbitrate_canvass`**: offering in turn is a canvass, and so is
  looking for a provider while the place is empty.
-/

namespace PluginHost

open Interaction Transcript

/-! ## Answers -/

/-- The answer of a plugin to an offer. -/
abbrev Answer := Plugin × OfferCode

/-- The plugin that accepted. -/
def winner? (as : List Answer) : Option Plugin := (as.find? (·.2 = .ok)).map (·.1)

theorem winner?_cons_ok {p : Plugin} {as : List Answer} : winner? ((p, .ok) :: as) = some p := by
  simp [winner?]

theorem winner?_cons_of_ne {p : Plugin} {code : OfferCode} {as : List Answer} (h : code ≠ .ok) :
    winner? ((p, code) :: as) = winner? as := by
  simp [winner?, h]

/-- Whoever gets the place answered that it wants it. -/
theorem mem_of_winner? {as : List Answer} {p : Plugin} (h : winner? as = some p) :
    (p, OfferCode.ok) ∈ as := by
  obtain ⟨a, ha, rfl⟩ := Option.map_eq_some_iff.1 h
  have hok : a.2 = .ok := by simpa using List.find?_some ha
  exact hok ▸ List.mem_of_find?_eq_some ha

/-- What a plugin answered in a round. -/
def answer? (as : List Answer) (n : Nat) : Option OfferCode :=
  (as.find? (·.1.handle = n)).map (·.2)

/-- Who is not among the answers was not asked. -/
theorem answer?_eq_none {as : List Answer} {n : Nat} :
    answer? as n = none ↔ n ∉ as.map (·.1.handle) := by
  simp [answer?, List.find?_eq_none]

/-- The answers are those of plugins of a roster, one of each. -/
structure Roster.Fits (r : Roster) (as : List Answer) : Prop where
  mem : ∀ a ∈ as, a.1 ∈ r.plugins
  nodup : (as.map (·.1.handle)).Nodup

/-- Nobody answers twice. -/
theorem Roster.Fits.answer?_eq {r : Roster} {as : List Answer} {a : Answer} (h : r.Fits as)
    (ha : a ∈ as) : answer? as a.1.handle = some a.2 := by
  obtain ⟨b, hb⟩ : ∃ b, as.find? (·.1.handle = a.1.handle) = some b :=
    Option.isSome_iff_exists.1 (List.find?_isSome.2 ⟨a, ha, by simp⟩)
  have hmem := List.mem_of_find?_eq_some hb
  have hh : b.1.handle = a.1.handle := by simpa using List.find?_some hb
  have hsame : b = a := List.inj_on_of_nodup_map h.nodup hmem ha hh
  rw [answer?, hb, hsame]
  rfl

/-! ## Plugins after a canvass -/

namespace Plugin

variable {p : Plugin} {as : List Answer} {a : Answer}

/-- A plugin after a canvass. -/
def canvassed (as : List Answer) (p : Plugin) : Plugin :=
  match answer? as p.handle with
  | some code => p.obeying code
  | none => p

theorem canvassed_of_not_mem (h : p.handle ∉ as.map (·.1.handle)) : p.canvassed as = p := by
  simp [canvassed, answer?_eq_none.2 h]

theorem canvassed_cons_self (h : a.1 = p) : p.canvassed (a :: as) = p.obeying a.2 := by
  simp [canvassed, answer?, h]

theorem canvassed_cons_of_ne (h : a.1.handle ≠ p.handle) :
    p.canvassed (a :: as) = p.canvassed as := by
  simp [canvassed, answer?, h]

end Plugin

/-! ## Canvasses -/

/-- Plugins have their turn until one accepts. -/
inductive Canvass (processes : List Process) : List Plugin → Transcript → List Answer → Prop
  | ended : Canvass processes [] [] []
  | accepted (p : Plugin) (ps : List Plugin) (t : Transcript) (h : p.Offered processes t .ok) :
      Canvass processes (p :: ps) t [(p, .ok)]
  | declined (p : Plugin) (ps : List Plugin) (t u : Transcript) (code : OfferCode)
      (as : List Answer) (h : p.Replies processes t code) (hc : code ≠ .ok)
      (hr : Canvass processes ps u as) :
      Canvass processes (p :: ps) (t ++ p.dismissal code ++ u) ((p, code) :: as)

namespace Canvass

variable {processes : List Process} {ps : List Plugin} {t : Transcript} {as : List Answer}

/-- The answers are those of the plugins from the front, one of each. -/
theorem prefix_map (h : Canvass processes ps t as) : as.map (·.1) <+: ps := by
  induction h with
  | ended => simp
  | accepted p ps t h => exact ⟨ps, rfl⟩
  | declined p ps t u code as h hc hr ih => simpa using ih

/-- Nobody is asked but who answers. -/
theorem concerns (h : Canvass processes ps t as) :
    ∀ e ∈ t, ∃ a ∈ as, e.handle? = some a.1.handle := by
  induction h with
  | ended => simp
  | accepted p ps t h => exact fun e he => ⟨(p, .ok), by simp, h.concerns e he⟩
  | declined p ps t u code as h hc hr ih =>
    intro e he
    rcases List.mem_append.1 he with he | he
    · refine ⟨(p, code), by simp, ?_⟩
      rcases List.mem_append.1 he with he | he
      · exact h.concerns e he
      · exact Plugin.concerns_dismissal e he
    · obtain ⟨a, ha, hae⟩ := ih e he
      exact ⟨a, by simp [ha], hae⟩

/-- Only those who are asked answer. -/
theorem handle_not_mem {p : Plugin} (h : Canvass processes ps t as)
    (hp : p.handle ∉ ps.map (·.handle)) : p.handle ∉ as.map (·.1.handle) := by
  intro hmem
  obtain ⟨a, ha, he⟩ := List.mem_map.1 hmem
  exact hp (List.mem_map.2 ⟨a.1, h.prefix_map.subset (List.mem_map_of_mem ha), he⟩)

end Canvass

/-! ## Looking for a provider -/

namespace Roster

variable {r s : Roster} {p : Plugin} {t : Transcript} {n : Nat}

/-- Handles are distinct, so a plugin is found by its own. -/
theorem find?_of_nodup (hd : (r.plugins.map (·.handle)).Nodup) (hp : p ∈ r.plugins) :
    r.find? p.handle = some p := by
  obtain ⟨q, hq⟩ := find?_isSome hp
  obtain ⟨hmem, he⟩ := mem_of_find? hq
  rw [hq, List.inj_on_of_nodup_map hd hmem hp he]

/-- After its turn a plugin stands in its place, and everybody else is as before. -/
theorem map_canvassed_update {c : Plugin} {code : OfferCode} {as : List Answer}
    (hr : (r.plugins.map (·.handle)).Nodup) (hc : c ∈ r.plugins)
    (has : c.handle ∉ as.map (·.1.handle)) :
    (r.update (c.obeying code)).plugins.map (·.canvassed as) =
      r.plugins.map (·.canvassed ((c, code) :: as)) := by
  simp only [update, List.map_map, Plugin.handle_obeying]
  refine List.map_congr_left fun q hq => ?_
  by_cases he : q.handle = c.handle
  · obtain rfl := List.inj_on_of_nodup_map hr hq hc he
    rw [Plugin.canvassed_cons_self rfl, Function.comp_apply, if_pos rfl,
      Plugin.canvassed_of_not_mem (by simpa using has)]
  · rw [Plugin.canvassed_cons_of_ne (Ne.symm he), Function.comp_apply, if_neg he]

/-- Offering in turn is a canvass. What a candidate was when the round began and what it is when its
turn comes is the same, because only the candidate whose turn it is changes. -/
theorem offerInTurn_canvass {processes : List Process} {cs : List Plugin}
    (hr : (r.plugins.map (·.handle)).Nodup) (hd : (cs.map (·.handle)).Nodup)
    (hf : ∀ c ∈ cs, r.find? c.handle = some c) (h : Yields (offerInTurn processes cs r) t s) :
    ∃ as, Canvass processes cs t as ∧ s.plugins = r.plugins.map (·.canvassed as) ∧
      s.provider = ((winner? as).map (·.handle)).or r.provider := by
  induction cs generalizing r t with
  | nil =>
    obtain ⟨rfl, rfl⟩ := yields_done.1 h
    exact ⟨[], .ended, by simp [Plugin.canvassed, answer?], rfl⟩
  | cons c cs ih =>
    obtain ⟨hfresh, hd'⟩ := List.nodup_cons.1 hd
    obtain ⟨hfind, hf'⟩ := List.forall_mem_cons.1 hf
    have hmem := (mem_of_find? hfind).1
    rcases offerInTurn_step hfind h with ⟨hoffered, rfl⟩ | ⟨u, code, w, hreply, hok, rfl, hrest⟩
    · refine ⟨[(c, .ok)], .accepted c cs t hoffered, ?_, by simp [winner?_cons_ok]⟩
      rw [← map_canvassed_update hr hmem (by simp)]
      simp [Plugin.canvassed, answer?]
    · have hkept : ∀ q ∈ cs, (r.update (c.obeying code)).find? q.handle = some q := by
        intro q hq
        have hne : q.handle ≠ c.handle := fun e => hfresh (List.mem_map.2 ⟨q, hq, e⟩)
        rw [find?_update_of_ne (by simpa using hne)]
        exact hf' q hq
      obtain ⟨as, hcanvass, hs, hprovider⟩ := ih (by rwa [handles_update]) hd' hkept hrest
      refine ⟨(c, code) :: as, .declined c cs u w code as hreply hok hcanvass, ?_, ?_⟩
      · rw [hs, map_canvassed_update hr hmem (hcanvass.handle_not_mem hfresh)]
      · rw [hprovider, winner?_cons_of_ne hok, provider_update]

/-- The candidates among some plugins of a roster are the eligible ones. -/
theorem eligible_of_nodup {ps : List Plugin} (hr : (r.plugins.map (·.handle)).Nodup)
    (hps : ∀ p ∈ ps, p ∈ r.plugins) : r.eligible (ps.map (·.handle)) = ps.filter isEligible := by
  have hfound : ps.filterMap (r.find? ∘ (·.handle)) = ps.filterMap some :=
    List.filterMap_congr fun q hq => find?_of_nodup hr (hps q hq)
  rw [eligible, List.filterMap_map, hfound, List.filterMap_some]

/-- Looking for a provider while the place is empty is a canvass of the eligible plugins, after the
process table was read. If nobody is eligible nothing is asked at all. -/
theorem arbitrate_canvass {ps : List Plugin} (hr : (r.plugins.map (·.handle)).Nodup)
    (hps : ∀ p ∈ ps, p ∈ r.plugins) (hd : (ps.map (·.handle)).Nodup) (hn : r.provider = none)
    (h : Yields (r.arbitrate (ps.map (·.handle))) t s) :
    (ps.filter isEligible = [] ∧ t = [] ∧ s = r) ∨
    ∃ processes u as, ps.filter isEligible ≠ [] ∧ t = ⟨.processes, processes⟩ :: u ∧
      Canvass processes (ps.filter isEligible) u as ∧
      s.plugins = r.plugins.map (·.canvassed as) ∧ s.provider = (winner? as).map (·.handle) := by
  unfold arbitrate at h
  rw [if_neg (by simp [isProviding, hn]), eligible_of_nodup hr hps] at h
  dsimp only at h
  split at h
  · rename_i hempty
    obtain ⟨rfl, rfl⟩ := yields_done.1 h
    exact .inl ⟨by simpa using hempty, rfl, rfl⟩
  · rename_i hne
    obtain ⟨_, u, processes, rfl, h₁, h₂⟩ := yields_bind.1 h
    obtain rfl := yields_query.1 h₁
    have hfound : ∀ c ∈ ps.filter isEligible, r.find? c.handle = some c := fun c hc =>
      find?_of_nodup hr (hps c (List.mem_filter.1 hc).1)
    have hnodup := hd.sublist ((List.filter_sublist (p := isEligible)).map (·.handle))
    obtain ⟨as, hcanvass, hplugins, hprovider⟩ := offerInTurn_canvass hr hnodup hfound h₂
    rw [hn, Option.or_none] at hprovider
    exact .inr ⟨processes, u, as, by simpa using hne, rfl, hcanvass, hplugins, hprovider⟩

end Roster

end PluginHost
