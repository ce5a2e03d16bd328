import Mathlib.Data.List.Nodup
import PluginHost.Proofs.Roster.Turn

/-!
# Steps of a roster

The plugins that are alive, with the place of the provider among them.

* **`Roster.Consistent`**: the place of the provider and the flags of the plugins say the same. A
  plugin is active iff it holds the place, and the place is empty or held by a plugin of the roster.
* **`Roster.Step`**, **`Step.consistent`**: what can happen to a roster, and that it stays
  consistent.
* **`release_steps`**, **`releaseIf_steps`**, **`offerInTurn_steps`**, **`arbitrate_steps`**: the
  operations are sequences of such steps.
-/

namespace PluginHost

namespace Roster

open Interaction Transcript

variable {r s : Roster} {p q : Plugin} {n : Nat} {t u : Transcript}

/-! ## Looking up plugins -/

theorem mem_of_find? (h : r.find? n = some p) : p ∈ r.plugins ∧ p.handle = n :=
  ⟨List.mem_of_find?_eq_some h, by simpa using List.find?_some h⟩

theorem mem_of_byId? {id : PluginId} (h : r.byId? id = some p) : p ∈ r.plugins ∧ p.id = id :=
  ⟨List.mem_of_find?_eq_some h, by simpa using List.find?_some h⟩

/-- A handle that some plugin has is found. -/
theorem find?_isSome (hp : p ∈ r.plugins) : ∃ q, r.find? p.handle = some q := by
  have h : (r.find? p.handle).isSome = true := List.find?_isSome.2 ⟨p, hp, by simp⟩
  exact Option.isSome_iff_exists.1 h

/-- After an update, a plugin is one of the others or the new one in place of the old. -/
theorem mem_update : q ∈ (r.update p).plugins ↔
    (q ∈ r.plugins ∧ q.handle ≠ p.handle) ∨ (q = p ∧ ∃ o ∈ r.plugins, o.handle = p.handle) := by
  simp only [update, List.mem_map]
  constructor
  · rintro ⟨o, ho, rfl⟩
    by_cases h : o.handle = p.handle
    · exact .inr ⟨if_pos h, o, ho, h⟩
    · rw [if_neg h]
      exact .inl ⟨ho, h⟩
  · rintro (⟨hq, hne⟩ | ⟨rfl, o, ho, h⟩)
    · exact ⟨q, hq, if_neg hne⟩
    · exact ⟨o, ho, if_pos h⟩

theorem mem_remove : q ∈ (r.remove n).plugins ↔ q ∈ r.plugins ∧ q.handle ≠ n := by
  simp [remove]

/-- An update with what is there already changes nothing. -/
theorem update_self (h : ∀ q ∈ r.plugins, q.handle = p.handle → q = p) : r.update p = r := by
  have : r.plugins.map (fun q => if q.handle = p.handle then p else q) = r.plugins := by
    conv_rhs => rw [← List.map_id r.plugins]
    apply List.map_congr_left
    intro q hq
    by_cases hh : q.handle = p.handle
    · simp [h q hq hh]
    · simp [hh]
  simp [update, this]

/-- An update is found under its own handle only. -/
theorem find?_update_of_ne (h : n ≠ p.handle) : (r.update p).find? n = r.find? n := by
  unfold find? update
  induction r.plugins with
  | nil => rfl
  | cons q qs ih =>
    rw [List.map_cons, List.find?_cons, List.find?_cons, ih]
    by_cases hq : q.handle = p.handle
    · have hn : (p.handle == n) = false := by simpa using h.symm
      simp [hq, hn]
    · simp [hq]

/-- Of two updates of one plugin, the second counts. -/
theorem update_update (h : q.handle = p.handle) : (r.update p).update q = r.update q := by
  simp only [update, List.map_map, Roster.mk.injEq, and_true]
  apply List.map_congr_left
  intro o _
  by_cases ho : o.handle = p.handle <;> simp [ho, h]

/-- What a plugin was turned into does not matter once it is taken out. -/
theorem remove_update : (r.update p).remove p.handle = r.remove p.handle := by
  have h : ∀ qs : List Plugin,
      (qs.map fun q => if q.handle = p.handle then p else q).filter (·.handle != p.handle) =
        qs.filter (·.handle != p.handle) := by
    intro qs
    induction qs with
    | nil => rfl
    | cons q qs ih => by_cases hq : q.handle = p.handle <;> simp [hq, ih]
  simp only [remove, update, h]

/-! ## Consistency -/

/-- The place of the provider and the flags of the plugins say the same. -/
structure Consistent (r : Roster) : Prop where
  sound : ∀ p ∈ r.plugins, p.Sound
  distinct : (r.plugins.map (·.handle)).Nodup
  /-- Active is who holds the place. -/
  held : ∀ p ∈ r.plugins, p.active = true ↔ r.provider = some p.handle
  /-- Who holds the place is in the roster. -/
  present : ∀ n, r.provider = some n → ∃ p ∈ r.plugins, p.handle = n

theorem consistent_empty : empty.Consistent := by
  refine ⟨by simp, by simp, by simp, ?_⟩
  intro n h
  simp [empty] at h

namespace Consistent

/-- A plugin is known by its handle. -/
theorem eq_of_handle_eq (h : r.Consistent) (hp : p ∈ r.plugins) (hq : q ∈ r.plugins)
    (he : p.handle = q.handle) : p = q :=
  List.inj_on_of_nodup_map h.distinct hp hq he

/-- A registered plugin is found by its handle. -/
theorem find?_handle (h : r.Consistent) (hp : p ∈ r.plugins) : r.find? p.handle = some p := by
  obtain ⟨q, hq⟩ := find?_isSome hp
  obtain ⟨hmem, he⟩ := mem_of_find? hq
  rw [hq, h.eq_of_handle_eq hmem hp he]

/-- The provider is the plugin that is active. -/
theorem providing?_eq_some (h : r.Consistent) :
    r.providing? = some p ↔ p ∈ r.plugins ∧ p.active = true := by
  unfold providing?
  constructor
  · intro hp
    obtain ⟨n, hn, hf⟩ := Option.bind_eq_some_iff.1 hp
    obtain ⟨hmem, rfl⟩ := mem_of_find? hf
    exact ⟨hmem, (h.held p hmem).2 hn⟩
  · rintro ⟨hmem, ha⟩
    rw [(h.held p hmem).1 ha, Option.bind_some, h.find?_handle hmem]

theorem provider_of_providing? (h : r.Consistent) (hp : r.providing? = some p) :
    r.provider = some p.handle := by
  obtain ⟨hmem, ha⟩ := h.providing?_eq_some.1 hp
  exact (h.held p hmem).1 ha

/-- Without a provider the place is empty. -/
theorem provider_eq_none (h : r.Consistent) (hp : r.providing? = none) : r.provider = none := by
  cases hn : r.provider with
  | none => rfl
  | some n =>
    obtain ⟨p, hmem, rfl⟩ := h.present n hn
    rw [h.providing?_eq_some.2 ⟨hmem, (h.held p hmem).2 hn⟩] at hp
    simp at hp

/-- Replacing one plugin, and with it perhaps who holds the place. -/
theorem replace (h : r.Consistent) (q : Plugin) (o : Option Nat) (hs : q.Sound)
    (hq : q.active = true ↔ o = some q.handle)
    (hothers : ∀ p ∈ r.plugins, p.handle ≠ q.handle → (p.active = true ↔ o = some p.handle))
    (ho : ∀ n, o = some n → ∃ p ∈ r.plugins, p.handle = n) :
    Consistent { r.update q with provider := o } := by
  refine ⟨?_, ?_, ?_, ?_⟩
  · intro p' hp'
    rcases mem_update.1 hp' with ⟨hmem, -⟩ | ⟨rfl, -⟩
    · exact h.sound p' hmem
    · exact hs
  · change ((r.update q).plugins.map (·.handle)).Nodup
    rw [handles_update]
    exact h.distinct
  · intro p' hp'
    rcases mem_update.1 hp' with ⟨hmem, hne⟩ | ⟨rfl, -⟩
    · exact hothers p' hmem hne
    · exact hq
  · intro n hn
    obtain ⟨p', hmem, rfl⟩ := ho n hn
    -- who holds the place may be the plugin that was replaced
    by_cases he : p'.handle = q.handle
    · exact ⟨q, mem_update.2 (.inr ⟨rfl, p', hmem, he⟩), he.symm⟩
    · exact ⟨p', mem_update.2 (.inl ⟨hmem, he⟩), rfl⟩

end Consistent

/-- Fetching from a plugin changes nothing but its caches. -/
theorem Consistent.withCaches {c : ChangeCache UInt8 × ChangeCache UInt32} (h : r.Consistent)
    (hp : p ∈ r.plugins) (hc : Plugin.CoherentCaches c) :
    (r.update (p.withCaches c)).Consistent := by
  refine h.replace (p.withCaches c) r.provider ((h.sound p hp).withCaches hc) ?_
    (fun q hq _ => h.held q hq) h.present
  rw [Plugin.active_withCaches, Plugin.handle_withCaches]
  exact h.held p hp

/-! ## Steps -/

/-- What can happen to a roster. -/
inductive Step (r : Roster) : Transcript → Roster → Prop
  /-- The process table is read. -/
  | looked (processes : List Process) : Step r [⟨.processes, processes⟩] r
  | change (p p' : Plugin) (t : Transcript) (hp : p ∈ r.plugins) (h : p.Step t p') :
      Step r t (r.update p')
  /-- The place is taken while it is empty, by a plugin that may have it and says that it wants
  it. -/
  | accepted (p : Plugin) (processes : List Process) (t : Transcript) (hp : p ∈ r.plugins)
      (hl : p.loaded = true) (he : p.enabled = true) (hn : r.provider = none)
      (ht : p.Offered processes t .ok) :
      Step r t { r.update { p with active := true } with provider := some p.handle }
  /-- The session of the provider ends. -/
  | released (p : Plugin) (hp : p ∈ r.plugins) (ha : p.active = true) :
      Step r p.farewell { r.update { p with active := false } with provider := none }
  /-- The loader lets go of a plugin that is not loaded. -/
  | removed (p : Plugin) (hp : p ∈ r.plugins) (hl : p.loaded = false) :
      Step r [⟨.plugin p.who .unload, ()⟩] (r.remove p.handle)

/-- **One step keeps the roster consistent.** The cases are those of the step; in all but the last,
one plugin is replaced. -/
theorem Step.consistent (h : r.Step t s) (hc : r.Consistent) : s.Consistent := by
  cases h with
  | looked processes => exact hc
  | change p p' _ hp h =>
    have hp' : p'.active = true ↔ r.provider = some p'.handle := by
      rw [h.active_eq, h.handle_eq]
      exact hc.held p hp
    exact hc.replace p' r.provider (h.sound (hc.sound p hp)) hp' (fun q hq _ => hc.held q hq)
      hc.present
  | accepted p processes _ hp hl he hn ht =>
    refine hc.replace { p with active := true } (some p.handle)
      (ht.sound (hc.sound p hp) he rfl) ⟨fun _ => rfl, fun _ => rfl⟩ ?_ ?_
    · -- nobody was active, so the others are not
      intro q hq hne
      have hne' : ¬ p.handle = q.handle := fun e => hne e.symm
      rw [hc.held q hq, hn]
      simp [hne']
    · intro n hn'
      exact ⟨p, hp, Option.some.inj hn'⟩
  | released p hp ha =>
    refine hc.replace { p with active := false } none (hc.sound p hp).deactivated (by simp) ?_
      (by simp)
    -- the place was held by this plugin, so by no other
    intro q hq hne
    have hne' : ¬ p.handle = q.handle := fun e => hne e.symm
    rw [hc.held q hq, (hc.held p hp).1 ha]
    simp [hne']
  | removed p hp hl =>
    obtain ⟨-, ha⟩ := (hc.sound p hp).flags_of_unloaded hl
    refine ⟨fun q hq => hc.sound q (mem_remove.1 hq).1, ?_,
      fun q hq => hc.held q (mem_remove.1 hq).1, ?_⟩
    · exact hc.distinct.sublist ((List.filter_sublist ..).map _)
    · intro n hn
      obtain ⟨q, hq, rfl⟩ := hc.present n hn
      refine ⟨q, mem_remove.2 ⟨hq, fun he => ?_⟩, rfl⟩
      obtain rfl := hc.eq_of_handle_eq hq hp he
      simp [(hc.held q hq).2 hn] at ha

/-- No frame comes with a step. -/
theorem Step.frames (h : r.Step t s) : t.frames = [] := by
  cases h with
  | looked processes => rfl
  | change p p' _ hp h => exact h.frames
  | accepted p processes _ hp hl he hn ht => exact ht.frames
  | released p hp ha => exact Plugin.restful_farewell.frames
  | removed p hp hl => rfl

/-- Nobody comes into a roster. -/
theorem Step.known (h : r.Step t s) (hq : q ∈ s.plugins) : ∃ p ∈ r.plugins, p.who = q.who := by
  have hupdate : ∀ p p', p ∈ r.plugins → p'.who = p.who → q ∈ (r.update p').plugins →
      ∃ p ∈ r.plugins, p.who = q.who := by
    intro p p' hp hw hq
    rcases mem_update.1 hq with ⟨hmem, -⟩ | ⟨rfl, -⟩
    · exact ⟨q, hmem, rfl⟩
    · exact ⟨p, hp, hw.symm⟩
  cases h with
  | looked processes => exact ⟨q, hq, rfl⟩
  | change p p' _ hp h => exact hupdate p p' hp h.who_eq hq
  | accepted p processes _ hp hl he hn ht => exact hupdate p { p with active := true } hp rfl hq
  | released p hp ha => exact hupdate p { p with active := false } hp rfl hq
  | removed p hp hl => exact ⟨q, (mem_remove.1 hq).1, rfl⟩

theorem Consistent.update_self (hc : r.Consistent) (hp : p ∈ r.plugins) : r.update p = r :=
  Roster.update_self fun _ hq hh => hc.eq_of_handle_eq hq hp hh

/-- So is the roster after a fetch, which changes caches only. -/
theorem Consistent.fetched {b : Bool} {snapshot snapshot' : Snapshot} (hc : r.Consistent)
    (hp : p ∈ r.plugins) (h : p.Fetched snapshot t (b, q, snapshot')) :
    (r.update q).Consistent := by
  cases h with
  | unable hq =>
    rw [hc.update_self hp]
    exact hc
  | frame e f c hq hf hcoh => exact hc.withCaches hp hcoh

/-- A step that leaves the plugin as it is leaves the roster as it is. -/
theorem Step.unchanged (hc : r.Consistent) (hp : p ∈ r.plugins) (h : p.Step t p) : r.Step t r := by
  simpa only [hc.update_self hp] using Step.change p p t hp h

/-- What can happen to a roster in several steps. -/
abbrev Steps : Roster → Transcript → Roster → Prop := PluginHost.Steps Step

namespace Steps

theorem consistent (h : r.Steps t s) (hc : r.Consistent) : s.Consistent := by
  induction h with
  | refl => exact hc
  | tail _ hs ih => exact hs.consistent ih

theorem frames (h : r.Steps t s) : t.frames = [] := by
  induction h with
  | refl => rfl
  | tail _ hs ih => rw [Transcript.frames_append, ih, hs.frames, List.append_nil]

end Steps

/-! ## Letting go of a plugin -/

/-- The session of a plugin ends, if there is one. -/
theorem farewell_steps (hc : r.Consistent) (hp : p ∈ r.plugins) :
    r.Steps p.farewell
      { r.update { p with active := false } with
        provider := if p.active then none else r.provider } := by
  cases ha : p.active with
  | true => exact .of_step (.released p hp ha)
  | false =>
    have hp' : { p with active := false } = p := by rw [← ha]
    rw [Plugin.farewell_of_inactive ha, hp', hc.update_self hp]
    exact .refl r

/-- Dropping a plugin is a sequence of steps after which it is gone, and with it its session. -/
theorem drop_steps {x : Unit} (hc : r.Consistent) (hp : p ∈ r.plugins) (h : Yields p.drop t x) :
    r.Steps t { r.remove p.handle with provider := if p.active then none else r.provider } := by
  have hs := hc.sound p hp
  rw [Plugin.drop_inv h]
  let q : Plugin := { p with active := false }
  let o : Roster := { r.update q with provider := if p.active then none else r.provider }
  have hstop : r.Steps p.farewell o := farewell_steps hc hp
  have hq : q ∈ o.plugins := mem_update.2 (.inr ⟨rfl, p, hp, rfl⟩)
  have hgone : o.remove q.handle =
      { r.remove p.handle with provider := if p.active then none else r.provider } := by
    have := remove_update (r := r) (p := q)
    simp only [remove, Roster.mk.injEq] at this ⊢
    exact ⟨this.1, rfl⟩
  rw [← hgone]
  cases hl : p.loaded with
  | true =>
    -- stopped, shut down, taken out
    have hclose := Step.change (r := o) q q.asleep _ hq (.closed hl rfl)
    have hrem : (o.update q.asleep).Step [⟨.plugin q.who .unload, ()⟩]
        ((o.update q.asleep).remove q.asleep.handle) :=
      .removed q.asleep (mem_update.2 (.inr ⟨rfl, q, hq, rfl⟩)) rfl
    have hclosing : p.closing = p.farewell ++ q.heard .shutdown .shutdown () := by
      simp [Plugin.closing, hl]
      rfl
    rw [remove_update] at hrem
    rw [hclosing]
    exact (hstop.trans (.of_step hclose)).trans (.of_step hrem)
  | false =>
    -- a plugin that is not loaded has no session and hears of no shutdown
    obtain ⟨-, ha⟩ := hs.flags_of_unloaded hl
    have hclosing : p.closing = p.farewell := by
      simp [Plugin.closing, hl, Plugin.farewell_of_inactive ha]
    rw [hclosing]
    exact hstop.trans (.of_step (.removed q hq hl))

/-! ## Ending a session -/

/-- Giving up the place is a sequence of steps after which it is empty. -/
theorem release_steps (hc : r.Consistent) (h : Yields r.release t s) :
    r.Steps t s ∧ s.provider = none := by
  unfold release at h
  split at h
  · rename_i hp
    obtain ⟨rfl, rfl⟩ := yields_done.1 h
    have hr : { r with provider := none } = r := by rw [← hc.provider_eq_none hp]
    rw [hr]
    exact ⟨.refl r, hc.provider_eq_none hp⟩
  · rename_i p hp
    obtain ⟨hmem, ha⟩ := hc.providing?_eq_some.1 hp
    obtain ⟨_, _, q, rfl, h₁, h₂⟩ := yields_bind.1 h
    obtain ⟨rfl, rfl⟩ := yields_done.1 h₂
    obtain ⟨rfl, rfl⟩ := Plugin.stopPositional_inv h₁
    rw [List.append_nil]
    exact ⟨.of_step (.released p hmem ha), rfl⟩

/-- Only the session of the plugin with the identity is ended. -/
theorem releaseIf_steps {id : PluginId} {x : Bool × Roster} (hc : r.Consistent)
    (h : Yields (r.releaseIf id) t x) :
    (r.Steps t x.2 ∧ x.2.provider = none ∧ ∃ p, r.providing? = some p ∧ p.id = id) ∨
      (t = [] ∧ x.2 = r ∧ ∀ p, r.providing? = some p → p.id ≠ id) := by
  unfold releaseIf at h
  split at h
  · rename_i hp
    obtain ⟨rfl, rfl⟩ := yields_done.1 h
    exact .inr ⟨rfl, rfl, by simp [hp]⟩
  · rename_i p hp
    split at h
    · rename_i hid
      obtain ⟨_, _, r', rfl, h₁, h₂⟩ := yields_bind.1 h
      obtain ⟨rfl, rfl⟩ := yields_done.1 h₂
      obtain ⟨hs, hn⟩ := release_steps hc h₁
      rw [List.append_nil]
      exact .inl ⟨hs, hn, p, hp, hid⟩
    · rename_i hid
      obtain ⟨rfl, rfl⟩ := yields_done.1 h
      refine .inr ⟨rfl, rfl, ?_⟩
      rintro q hq
      obtain rfl := Option.some.inj (hp.symm.trans hq)
      exact hid

/-! ## Looking for a provider -/

/-- Only eligible plugins of the roster are asked. -/
theorem mem_eligible {order : List Nat} (h : p ∈ r.eligible order) :
    r.find? p.handle = some p ∧ isEligible p = true := by
  obtain ⟨hf, he⟩ := List.mem_filter.1 h
  obtain ⟨n, -, hn⟩ := List.mem_filterMap.1 hf
  obtain ⟨-, rfl⟩ := mem_of_find? hn
  exact ⟨hn, he⟩

/-- Nobody is a candidate twice. -/
theorem nodup_eligible {order : List Nat} (h : order.Nodup) :
    ((r.eligible order).map (·.handle)).Nodup := by
  have hsub : ∀ order : List Nat, ((order.filterMap r.find?).map (·.handle)).Sublist order := by
    intro order
    induction order with
    | nil => simp
    | cons n order ih =>
      cases hn : r.find? n with
      | none => simpa [hn] using ih.cons n
      | some p =>
        obtain ⟨-, rfl⟩ := mem_of_find? hn
        simpa [hn] using ih.cons_cons p.handle
  exact h.sublist (((List.filter_sublist ..).map _).trans (hsub order))

/-- The candidates are asked one after the other. What a candidate was when the round began and what
it is when its turn comes is the same, because only the candidate whose turn it is changes. -/
theorem offerInTurn_steps {processes : List Process} {cs : List Plugin} (hc : r.Consistent)
    (hn : r.provider = none) (hd : (cs.map (·.handle)).Nodup)
    (he : ∀ c ∈ cs, ∀ p, r.find? c.handle = some p → isEligible p = true)
    (h : Yields (offerInTurn processes cs r) t s) : r.Steps t s := by
  induction cs generalizing r t with
  | nil =>
    obtain ⟨rfl, rfl⟩ := yields_done.1 h
    exact .refl _
  | cons c cs ih =>
    obtain ⟨hfresh, hd'⟩ := List.nodup_cons.1 hd
    have he' : ∀ c' ∈ cs, ∀ p, r.find? c'.handle = some p → isEligible p = true :=
      fun c' hc' => he c' (List.mem_cons_of_mem c hc')
    cases hf : r.find? c.handle with
    | none =>
      -- a candidate that is gone is passed over
      unfold offerInTurn at h
      rw [hf] at h
      exact ih hc hn hd' he' h
    | some p =>
      obtain ⟨hmem, hh⟩ := mem_of_find? hf
      obtain ⟨hl, hen⟩ : p.loaded = true ∧ p.enabled = true := by
        simpa [isEligible] using he c (by simp) p hf
      have ha : p.active = false := by
        cases ha : p.active with
        | false => rfl
        | true => simp [(hc.held p hmem).1 ha] at hn
      rcases offerInTurn_step hf h with ⟨hoff, rfl⟩ | ⟨u, code, w, hreply, hok, rfl, hrest⟩
      · -- the plugin wants the place and gets it
        exact .of_step (.accepted p processes t hmem hl hen hn hoff)
      · -- the plugin does not want it, now or ever
        have hdecl : r.Step u r := .unchanged hc hmem
          (.declined processes u code hl ha (hreply.offered (hc.sound p hmem)) hok)
        rw [Plugin.dismissal_of_inactive ha, List.append_nil]
        refine (Steps.of_step hdecl).trans ?_
        by_cases hperm : code = .permanent
        · -- it is never asked again
          rw [Plugin.obeying, if_neg hok, if_pos hperm] at hrest
          have hforb : r.Step [] (r.update { p with enabled := false, active := false }) := by
            have := Step.change (r := r) p _ [] hmem (.forbidden ha)
            rwa [ha] at this
          rw [← List.nil_append w]
          refine (Steps.of_step hforb).trans (ih (hforb.consistent hc) hn hd' ?_ hrest)
          intro c' hc' q hq
          have hne : c'.handle ≠ p.handle := by
            rw [hh]
            exact fun e => hfresh (List.mem_map.2 ⟨c', hc', e⟩)
          rw [find?_update_of_ne (p := { p with enabled := false, active := false }) hne] at hq
          exact he' c' hc' q hq
        · rw [Plugin.obeying, if_neg hok, if_neg hperm, hc.update_self hmem] at hrest
          exact ih hc hn hd' he' hrest

/-- A provider that is there stays. -/
theorem arbitrate_of_provider {order : List Nat} (hn : r.provider = some n)
    (h : Yields (r.arbitrate order) t s) : t = [] ∧ s = r := by
  unfold arbitrate at h
  rw [if_pos (by simp [isProviding, hn])] at h
  exact yields_done.1 h

/-- Looking for a provider is a sequence of steps. -/
theorem arbitrate_steps {order : List Nat} (hc : r.Consistent) (ho : order.Nodup)
    (h : Yields (r.arbitrate order) t s) : r.Steps t s := by
  unfold arbitrate at h
  split at h
  · obtain ⟨rfl, rfl⟩ := yields_done.1 h
    exact .refl _
  · rename_i hp
    have hn : r.provider = none := by simpa [isProviding] using hp
    dsimp only at h
    split at h
    · obtain ⟨rfl, rfl⟩ := yields_done.1 h
      exact .refl _
    · -- the process table is read once for all candidates
      obtain ⟨_, _, processes, rfl, h₁, h₂⟩ := yields_bind.1 h
      obtain rfl := yields_query.1 h₁
      refine (Steps.of_step (.looked processes)).trans
        (offerInTurn_steps hc hn (nodup_eligible ho) ?_ h₂)
      intro c hcand p hp
      obtain ⟨hf, he⟩ := mem_eligible hcand
      obtain rfl := Option.some.inj (hf.symm.trans hp)
      exact he

end Roster

end PluginHost
