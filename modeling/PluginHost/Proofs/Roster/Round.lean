import PluginHost.Proofs.Roster.Canvass

/-!
# Rounds of offers

Who is offered positional data when a provider is looked for, what each answers, and what becomes of
the roster.

* **`Transcript.offers`**: the offers of a transcript with the codes that came back.
* **`Round`**: plugins are offered the process table in turn until one accepts. **`Sought`**: the
  same for those of some plugins that are eligible.
* **`Canvass.round`**: a canvass of sound plugins without a session is a round, since nobody has to
  be told to stop.
* **`Roster.settle`**: the roster after the answers of a round.
* **`arbitrate_sought`**: looking for a provider in a consistent roster is a round.
* **`Sought.winner?_eq`**: who gets the place is the first eligible plugin that accepted.
-/

namespace PluginHost

open Interaction Transcript

/-! ## Offers in a transcript -/

/-- The plugin that an exchange offered positional data to, and the code that came back. -/
def Exchange.offer? : Exchange → Option (Occupant × OfferCode)
  | ⟨.plugin who (.offerPositional ..), code⟩ => some (who, code)
  | ⟨.plugin who .tryLock, r⟩ => some (who, Plugin.lockCode r)
  | ⟨.plugin who (.tryLockAmong _), r⟩ => some (who, Plugin.lockCode r)
  | _ => none

/-- The offers that a transcript holds. -/
def Transcript.offers (t : Transcript) : List (Occupant × OfferCode) := t.filterMap Exchange.offer?

@[simp] theorem Transcript.offers_nil : Transcript.offers [] = [] := rfl

@[simp] theorem Transcript.offers_append (t u : Transcript) :
    Transcript.offers (t ++ u) = Transcript.offers t ++ Transcript.offers u :=
  List.filterMap_append

/-- An offer is service. -/
theorem Exchange.offer?_eq_none {e : Exchange} (h : e.isService = false) : e.offer? = none := by
  obtain ⟨q, r⟩ := e
  cases q with
  | plugin who c => cases c <;> first | rfl | simp [Exchange.isService, Call.isService] at h
  | _ => rfl

/-- Without service there are no offers. -/
theorem Transcript.Restful.offers {t : Transcript} (h : t.Restful) : t.offers = [] :=
  List.filterMap_eq_nil_iff.2 fun e he => Exchange.offer?_eq_none (h e he)

namespace Plugin

variable {p q : Plugin} {t : Transcript} {processes : List Process} {code : OfferCode}

/-- An offer shows in the transcript, unless the plugin has no function for it. -/
theorem Offered.offers (h : p.Offered processes t code) :
    t.offers = [(p.who, code)] ∨ (t = [] ∧ code ≠ .ok) := by
  cases h with
  | unable => exact .inr ⟨rfl, by decide⟩
  | lockless => exact .inr ⟨rfl, by decide⟩
  | _ => exact .inl rfl

/-- Who accepted was asked. -/
theorem Offered.offers_of_ok (h : p.Offered processes t .ok) : t.offers = [(p.who, .ok)] := by
  rcases h.offers with h | ⟨-, h⟩
  · exact h
  · exact absurd rfl h

/-- What becomes of a plugin with its answer: it is active, or never asked again, or as before. -/
def heeding (p : Plugin) (code : OfferCode) : Plugin :=
  if code = .ok then { p with active := true }
  else if code = .permanent then { p with enabled := false }
  else p

@[simp] theorem who_heeding : (p.heeding code).who = p.who := by
  unfold heeding; split <;> [rfl; split <;> rfl]

@[simp] theorem handle_heeding : (p.heeding code).handle = p.handle := by simp [handle]

@[simp] theorem loaded_heeding : (p.heeding code).loaded = p.loaded := by
  unfold heeding; split <;> [rfl; split <;> rfl]

@[simp] theorem id_heeding : (p.heeding code).id = p.id := by
  unfold heeding; split <;> [rfl; split <;> rfl]

/-- Only who declines for good loses the permission. -/
theorem enabled_heeding : (p.heeding code).enabled = (p.enabled && decide (code ≠ .permanent)) := by
  unfold heeding
  split
  · rename_i h
    simp [h, OfferCode.ok, OfferCode.permanent]
  · split <;> simp [*]

end Plugin

/-! ## Ends of sessions in a transcript -/

/-- The exchange ends the session of a provider. -/
def Exchange.isStop : Exchange → Bool
  | ⟨.plugin _ .stopPositional, _⟩ => true
  | ⟨.plugin _ .unlock, _⟩ => true
  | _ => false

/-- The ends of sessions that a transcript holds. -/
def Transcript.stops (t : Transcript) : Transcript := t.filter Exchange.isStop

@[simp] theorem Transcript.stops_append (t u : Transcript) :
    Transcript.stops (t ++ u) = Transcript.stops t ++ Transcript.stops u := List.filter_append ..

namespace Plugin

variable {p : Plugin} {t : Transcript} {processes : List Process} {code : OfferCode}

/-- A parting is nothing but the end of a session. -/
theorem stops_parting : p.parting.stops = p.parting := by
  unfold parting
  split
  · unfold heard
    split <;> rfl
  · split <;> rfl
  · rfl

theorem offers_parting : p.parting.offers = [] := by
  unfold parting
  split
  · exact (restful_heard rfl).offers
  · split <;> rfl
  · rfl

theorem frames_parting : p.parting.frames = [] := by
  unfold parting
  split
  · exact (restful_heard rfl).frames
  · split <;> rfl
  · rfl

/-- No session ends with an offer. -/
theorem Offered.stops (h : p.Offered processes t code) : t.stops = [] := by
  cases h <;> rfl

end Plugin

/-! ## Rounds -/

/-- Plugins are offered the process table in turn until one accepts. -/
inductive Round (processes : List Process) : List Plugin → Transcript → List Answer → Prop
  | ended : Round processes [] [] []
  | accepted (p : Plugin) (ps : List Plugin) (t : Transcript) (h : p.Offered processes t .ok) :
      Round processes (p :: ps) t [(p, .ok)]
  | declined (p : Plugin) (ps : List Plugin) (t u : Transcript) (code : OfferCode)
      (as : List Answer) (h : p.Offered processes t code) (hc : code ≠ .ok)
      (hr : Round processes ps u as) : Round processes (p :: ps) (t ++ u) ((p, code) :: as)

/-- The eligible ones of some plugins are offered the process table. It is read once, and not at all
if nobody is eligible. -/
inductive Sought (ps : List Plugin) : Transcript → List Answer → Prop
  | nobody (h : ps.filter Roster.isEligible = []) : Sought ps [] []
  | round (processes : List Process) (t : Transcript) (as : List Answer)
      (hne : ps.filter Roster.isEligible ≠ [])
      (h : Round processes (ps.filter Roster.isEligible) t as) :
      Sought ps (⟨.processes, processes⟩ :: t) as

section

variable {processes : List Process} {ps : List Plugin} {t : Transcript} {as : List Answer}
  {p : Plugin}

namespace Round

/-- The answers are those of the plugins from the front. -/
theorem prefix_map (h : Round processes ps t as) : as.map (·.1) <+: ps := by
  induction h with
  | ended => simp
  | accepted p ps t h => exact ⟨ps, rfl⟩
  | declined p ps t u code as h hc hr ih => simpa using ih

/-- What the transcript shows are answers. -/
theorem offers_sublist (h : Round processes ps t as) :
    t.offers.Sublist (as.map fun a => (a.1.who, a.2)) := by
  induction h with
  | ended => exact .slnil
  | accepted p ps t h => rw [h.offers_of_ok]; exact .refl _
  | declined p ps t u code as h hc hr ih =>
    rw [Transcript.offers_append]
    rcases h.offers with h | ⟨rfl, -⟩
    · rw [h]
      exact ih.cons_cons _
    · exact ih.cons _

/-- No frame comes with a round. -/
theorem frames (h : Round processes ps t as) : t.frames = [] := by
  induction h with
  | ended => rfl
  | accepted p ps t h => exact h.frames
  | declined p ps t u code as h hc hr ih => rw [Transcript.frames_append, h.frames, ih]; rfl

/-- No session ends in a round of plugins that have none. -/
theorem stops (h : Round processes ps t as) : t.stops = [] := by
  induction h with
  | ended => rfl
  | accepted p ps t h => exact h.stops
  | declined p ps t u code as h hc hr ih => rw [Transcript.stops_append, h.stops, ih]; rfl

/-- The first plugin that accepted gets the place. -/
theorem winner?_eq (h : Round processes ps t as) (hd : (ps.map (·.handle)).Nodup) :
    winner? as = ps.find? fun q : Plugin => (q.who, OfferCode.ok) ∈ t.offers := by
  induction h with
  | ended => rfl
  | accepted p ps t h => simp [winner?_cons_ok, h.offers_of_ok]
  | declined p ps t u code as h hc hr ih =>
    obtain ⟨hfresh, hd⟩ := List.nodup_cons.1 hd
    -- an offer of the rest of the round is not one to the plugin in front
    have hother : (p.who, OfferCode.ok) ∉ u.offers := by
      intro hmem
      obtain ⟨a, ha, he⟩ := List.mem_map.1 (hr.offers_sublist.subset hmem)
      obtain ⟨hw, -⟩ := Prod.mk.inj he
      have ha' := hr.prefix_map.subset (List.mem_map_of_mem (f := (·.1)) ha)
      exact hfresh (List.mem_map.2 ⟨a.1, ha', congrArg Occupant.handle hw⟩)
    have hoff : ∀ q : Plugin, (q.who, OfferCode.ok) ∉ t.offers := by
      intro q
      rcases h.offers with h | ⟨rfl, -⟩
      · simp [h, hc.symm]
      · simp
    rw [winner?_cons_of_ne hc, ih hd, List.find?_cons]
    simp only [Transcript.offers_append, List.mem_append, hoff, hother, false_or, decide_false]

end Round

namespace Sought

theorem frames (h : Sought ps t as) : t.frames = [] := by
  cases h with
  | nobody => rfl
  | round processes t as hne h => exact h.frames

theorem stops (h : Sought ps t as) : t.stops = [] := by
  cases h with
  | nobody => rfl
  | round processes t as hne h => exact h.stops

theorem offers_sublist (h : Sought ps t as) :
    t.offers.Sublist (as.map fun a => (a.1.who, a.2)) := by
  cases h with
  | nobody => exact .slnil
  | round processes t as hne h => exact h.offers_sublist

/-- Whoever answered is eligible. -/
theorem mem (h : Sought ps t as) {a : Answer} (ha : a ∈ as) :
    a.1 ∈ ps ∧ Roster.isEligible a.1 = true := by
  cases h with
  | nobody => simp at ha
  | round processes t as hne h =>
    exact List.mem_filter.1 (h.prefix_map.subset (List.mem_map_of_mem (f := (·.1)) ha))

/-- The first eligible plugin that accepted gets the place. -/
theorem winner?_eq (h : Sought ps t as) (hd : (ps.map (·.handle)).Nodup) :
    winner? as = (ps.filter Roster.isEligible).find? fun q : Plugin =>
      (q.who, OfferCode.ok) ∈ t.offers := by
  cases h with
  | nobody h => rw [h]; rfl
  | round processes t as hne h =>
    exact h.winner?_eq (hd.sublist ((List.filter_sublist ..).map _))

end Sought

end

/-! ## The roster after a round -/

namespace Roster

variable {r s : Roster} {p q : Plugin} {t : Transcript} {a : Answer} {as : List Answer}

/-- The roster after one answer. -/
def heed (r : Roster) (a : Answer) : Roster :=
  { r.update (a.1.heeding a.2) with
    provider := if a.2 = .ok then some a.1.handle else r.provider }

/-- The roster after the answers of a round. -/
def settle (r : Roster) (as : List Answer) : Roster := as.foldl heed r

@[simp] theorem settle_nil : r.settle [] = r := rfl

@[simp] theorem settle_cons : r.settle (a :: as) = (r.heed a).settle as := rfl

end Roster

/-- A plugin after a round. -/
def Plugin.settled (as : List Answer) (q : Plugin) : Plugin :=
  match answer? as q.handle with
  | some code => q.heeding code
  | none => q

section

variable {as : List Answer} {q : Plugin}

@[simp] theorem Plugin.who_settled : (q.settled as).who = q.who := by
  unfold Plugin.settled; split <;> simp

@[simp] theorem Plugin.handle_settled : (q.settled as).handle = q.handle := by simp [Plugin.handle]

@[simp] theorem Plugin.id_settled : (q.settled as).id = q.id := by
  unfold Plugin.settled; split <;> simp

@[simp] theorem Plugin.loaded_settled : (q.settled as).loaded = q.loaded := by
  unfold Plugin.settled; split <;> simp

/-- Only a plugin that declined for good lost the permission. -/
theorem Plugin.enabled_settled :
    (q.settled as).enabled = (q.enabled && decide (answer? as q.handle ≠ some .permanent)) := by
  unfold Plugin.settled
  split
  · rename_i code h
    simp [enabled_heeding, h]
  · rename_i h
    simp [h]

theorem Plugin.settled_of_not_mem (h : q.handle ∉ as.map (·.1.handle)) : q.settled as = q := by
  simp [Plugin.settled, answer?_eq_none.2 h]

end

namespace Roster

variable {r s : Roster} {p q : Plugin} {t : Transcript} {a : Answer} {as : List Answer}

/-- The answers fit the roster. -/
theorem fits_of_sought {ps : List Plugin} (hd : (r.plugins.map (·.handle)).Nodup)
    (hps : ps.Sublist r.plugins) (h : Sought ps t as) : r.Fits as := by
  have hsub : (as.map (·.1)).Sublist r.plugins := by
    cases h with
    | nobody => simp
    | round _ t as hne h => exact h.prefix_map.sublist.trans ((List.filter_sublist ..).trans hps)
  refine ⟨fun a ha => hsub.subset (List.mem_map_of_mem ha), ?_⟩
  have := hd.sublist (hsub.map (·.handle))
  rwa [List.map_map] at this

/-- Each plugin keeps to its own answer. -/
theorem plugins_settle (hd : (r.plugins.map (·.handle)).Nodup) (hf : r.Fits as) :
    (r.settle as).plugins = r.plugins.map (·.settled as) := by
  induction as generalizing r with
  | nil => simp [Plugin.settled, answer?]
  | cons a as ih =>
    obtain ⟨hmem, hmem'⟩ := List.forall_mem_cons.1 hf.mem
    obtain ⟨hfresh, hnodup⟩ := List.nodup_cons.1 hf.nodup
    have hother : ∀ b ∈ as, b.1.handle ≠ a.1.handle := fun b hb e =>
      hfresh (List.mem_map.2 ⟨b, hb, e⟩)
    have hd' : ((r.heed a).plugins.map (·.handle)).Nodup := by
      rw [show (r.heed a).plugins = (r.update (a.1.heeding a.2)).plugins from rfl, handles_update]
      exact hd
    have hf' : (r.heed a).Fits as := ⟨fun b hb => mem_update.2
      (.inl ⟨hmem' b hb, by simpa using hother b hb⟩), hnodup⟩
    rw [settle_cons, ih hd' hf']
    simp only [heed, update, List.map_map]
    apply List.map_congr_left
    intro q hq
    by_cases he : q.handle = a.1.handle
    · -- the plugin whose answer this is has no other
      obtain rfl := List.inj_on_of_nodup_map hd hq hmem he
      simp only [Function.comp_apply, Plugin.handle_heeding, if_true]
      rw [Plugin.settled_of_not_mem (by simpa using hfresh)]
      simp [Plugin.settled, answer?]
    · have hne : ¬ a.1.handle = q.handle := fun e => he e.symm
      simp only [Function.comp_apply, Plugin.handle_heeding, if_neg he]
      simp [Plugin.settled, answer?, hne]

end Roster

/-- The place goes to the plugin that accepted. -/
theorem Round.provider_settle {processes : List Process} {ps : List Plugin} {t : Transcript}
    {as : List Answer} (h : Round processes ps t as) (r : Roster) :
    (r.settle as).provider = ((winner? as).map (·.handle)).or r.provider := by
  induction h generalizing r with
  | ended => rfl
  | accepted p ps t h => simp [Roster.heed, winner?_cons_ok]
  | declined p ps t u code as h hc hr ih =>
    rw [Roster.settle_cons, ih, winner?_cons_of_ne hc]
    simp [Roster.heed, hc]

/-- The place goes to the plugin that accepted, if one did. -/
theorem Sought.provider_settle {ps : List Plugin} {t : Transcript} {as : List Answer}
    (h : Sought ps t as) (r : Roster) :
    (r.settle as).provider = ((winner? as).map (·.handle)).or r.provider := by
  cases h with
  | nobody => rfl
  | round _ _ _ _ h => exact h.provider_settle r

/-! ## Looking for a provider is a round -/

/-- Without a session it does not matter that a plugin that declines for good is told to stop. -/
theorem Plugin.obeying_eq_heeding {p : Plugin} {code : OfferCode} (ha : p.active = false) :
    p.obeying code = p.heeding code := by
  unfold obeying heeding
  rw [← ha]

/-- So a canvass of such plugins leaves them as a round does. -/
theorem Plugin.canvassed_eq_settled {p : Plugin} {as : List Answer} (ha : p.active = false) :
    p.canvassed as = p.settled as := by
  unfold canvassed settled
  cases answer? as p.handle with
  | none => rfl
  | some code => exact obeying_eq_heeding ha

/-- A canvass of sound plugins without a session is a round. -/
theorem Canvass.round {processes : List Process} {ps : List Plugin} {t : Transcript}
    {as : List Answer} (h : Canvass processes ps t as)
    (hps : ∀ p ∈ ps, p.Sound ∧ p.active = false) : Round processes ps t as := by
  induction h with
  | ended => exact .ended
  | accepted p ps t h => exact .accepted p ps t h
  | declined p ps t u code as h hc hr ih =>
    obtain ⟨⟨hsound, ha⟩, hps⟩ := List.forall_mem_cons.1 hps
    rw [Plugin.dismissal_of_inactive ha, List.append_nil]
    exact .declined p ps t u code as (h.offered hsound) hc (ih hps)

/-- While the place is empty, looking for a provider among some plugins of a consistent roster is a
round, and the roster is settled by its answers. -/
theorem Roster.arbitrate_sought {r s : Roster} {ps : List Plugin} {t : Transcript}
    (hc : r.Consistent) (hn : r.provider = none) (hps : ps.Sublist r.plugins)
    (h : Yields (r.arbitrate (ps.map (·.handle))) t s) :
    ∃ as, Sought ps t as ∧ s = r.settle as := by
  rcases arbitrate_canvass hc.distinct (fun _ hp => hps.subset hp)
    (hc.distinct.sublist (hps.map _)) hn h with
      ⟨hempty, rfl, rfl⟩ | ⟨processes, u, as, hne, rfl, hcanvass, hplugins, hprovider⟩
  · exact ⟨[], .nobody hempty, rfl⟩
  · -- nobody is active while the place is empty
    have hidle : ∀ p ∈ r.plugins, p.active = false := fun p hp => by
      simpa [hn] using hc.held p hp
    have hround := hcanvass.round fun p hp =>
      have hmem := hps.subset (List.mem_filter.1 hp).1
      ⟨hc.sound p hmem, hidle p hmem⟩
    have hsought : Sought ps (⟨.processes, processes⟩ :: u) as := .round processes u as hne hround
    refine ⟨as, hsought, ?_⟩
    have hsettled : s.plugins = (r.settle as).plugins := by
      rw [hplugins, plugins_settle hc.distinct (fits_of_sought hc.distinct hps hsought)]
      exact List.map_congr_left fun p hp => Plugin.canvassed_eq_settled (hidle p hp)
    have hplace : s.provider = (r.settle as).provider := by
      rw [hprovider, hround.provider_settle, hn, Option.or_none]
    exact congrArg₂ Roster.mk hsettled hplace

end PluginHost
