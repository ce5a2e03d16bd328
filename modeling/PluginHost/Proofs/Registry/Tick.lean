import PluginHost.Proofs.Registry.Finite
import PluginHost.Proofs.Registry.Identity

/-!
# What a tick does

A tick looks for a provider if there is none, fetches once, and looks for another provider if the
first one stops.

* **`Roster.Chosen`**: who is fetched from, and the roster at that moment.
* **`Registry.Course`**, **`tick_course`**: the ways in which a tick goes, with the answers of all
  offers that are made in it.
* **`Registry.Failover`**: what happens in the tick in which the provider stops.
* **`tick_outcome`**: what a tick returns and leaves behind.
-/

namespace PluginHost

open Interaction Transcript

/-- A fetch is neither an offer nor the end of a session. -/
theorem Transcript.of_frame? {e : Exchange} {w : Occupant × Frame} (h : e.frame? = some w) :
    Transcript.frames [e] = [w] ∧ Transcript.offers [e] = [] ∧ Transcript.stops [e] = [] := by
  have hquiet : e.offer? = none ∧ e.isStop = false := by
    obtain ⟨q, r⟩ := e
    cases q with
    | plugin who c => cases c <;> first | exact ⟨rfl, rfl⟩ | simp [Exchange.frame?] at h
    | _ => exact ⟨rfl, rfl⟩
  refine ⟨?_, List.filterMap_eq_nil_iff.2 (by simpa using hquiet.1),
    List.filter_eq_nil_iff.2 (by simpa using hquiet.2)⟩
  rw [Transcript.frames, List.filterMap_cons, h]
  rfl

namespace Plugin

variable {p : Plugin} {c : ChangeCache UInt8 × ChangeCache UInt32}

/-- How a session is ended does not depend on what was fetched in it. -/
@[simp] theorem parting_withCaches : (p.withCaches c).parting = p.parting := by
  unfold parting heard withCaches
  cases hb : p.backend <;> simp [hb, exports]

/-- A fetch neither offers anything nor ends a session. -/
theorem Fetched.quiet {s : Snapshot} {t : Transcript} {x : Bool × Plugin × Snapshot}
    (h : p.Fetched s t x) : t.offers = [] ∧ t.stops = [] ∧ t.length ≤ 1 := by
  cases h with
  | unable => exact ⟨rfl, rfl, Nat.zero_le _⟩
  | frame e f c hq hf hc =>
    obtain ⟨-, hoffers, hstops⟩ := Transcript.of_frame? hf
    exact ⟨hoffers, hstops, Nat.le_refl _⟩

/-- A fetch changes nothing of a plugin but its caches. -/
theorem Fetched.keeps {α : Type} {s s' : Snapshot} {t : Transcript} {b : Bool} {q : Plugin}
    (h : p.Fetched s t (b, q, s')) (f : Plugin → α) (hf : ∀ c, f (p.withCaches c) = f p) :
    f q = f p := by
  cases h with
  | unable => rfl
  | frame e fr c hq hfr hc => exact hf c

/-- A fetch from a plugin that does not go on: it asked to stop, or there is nothing to fetch
with. -/
theorem Fetched.declined {s s' : Snapshot} {t : Transcript} {q : Plugin}
    (h : p.Fetched s t (false, q, s')) :
    (∃ f, t.frames = [(p.who, f)] ∧ f.proceed = false) ∨ (p.fetchCall? = none ∧ t.frames = []) := by
  generalize hx : (false, q, s') = x at h
  cases h with
  | unable hq => exact .inr ⟨hq, rfl⟩
  | frame e f c hq hf hc =>
    exact .inl ⟨f, (Transcript.of_frame? hf).1, (congrArg Prod.fst hx).symm⟩

/-- The session of a provider of the current interface ends with exactly one call. -/
theorem Sound.parting_eq (h : p.Sound) (ha : p.active = true) (hg : p.generation = .current) :
    p.parting = [⟨.plugin p.who .stopPositional, ()⟩] := by
  have hsuits := h.suits
  rw [parting]
  cases hb : p.backend with
  | current e =>
    have hstop := h.stoppable ha e hb
    have hexports : p.exports .stopPositional = true := by
      rw [exports, hb]
      exact hstop
    exact if_pos hexports
  | legacy a => simp [Backend.Suits, hb, hg] at hsuits
  | unresolved => simp [Backend.Suits, hb] at hsuits

end Plugin

/-! ## Who is fetched from -/

namespace Roster

variable {r o : Roster} {p : Plugin} {t : Transcript} {as : List Answer} {P : Option Plugin}

/-- The provider stays; if there is none, the plugins are asked in their order. -/
inductive Chosen (r : Roster) : Transcript → List Answer → Option Plugin → Roster → Prop
  | held (p : Plugin) (hp : r.providing? = some p) : Chosen r [] [] (some p) r
  | sought (t : Transcript) (as : List Answer) (hn : r.provider = none)
      (h : Sought r.plugins t as) : Chosen r t as (winner? as) (r.settle as)

/-- Looking for a provider ends with the one who holds the place or with the outcome of a round. -/
theorem arbitrate_chosen (hc : r.Consistent)
    (h : Yields (r.arbitrate (r.plugins.map (·.handle))) t o) : ∃ as P, Chosen r t as P o := by
  cases hn : r.provider with
  | some n =>
    obtain ⟨rfl, rfl⟩ := arbitrate_of_provider hn h
    obtain ⟨p, hp, rfl⟩ := hc.present n hn
    have hprov := hc.providing?_eq_some.2 ⟨hp, (hc.held p hp).2 hn⟩
    exact ⟨[], some p, .held p hprov⟩
  | none =>
    obtain ⟨as, hs, rfl⟩ := arbitrate_sought hc hn (.refl _) h
    exact ⟨as, winner? as, .sought t as hn hs⟩

/-- The session of the provider ends. -/
theorem release_inv (hp : r.providing? = some p) (h : Yields r.release t o) :
    t = p.farewell ∧ o = { r.update { p with active := false } with provider := none } := by
  unfold release at h
  rw [hp] at h
  obtain ⟨_, _, q, rfl, h₁, h₂⟩ := yields_bind.1 h
  obtain ⟨rfl, rfl⟩ := yields_done.1 h₂
  obtain ⟨rfl, rfl⟩ := Plugin.stopPositional_inv h₁
  exact ⟨List.append_nil _, rfl⟩

/-- The roster after the session of a provider that had become `q`. -/
def deposed (o : Roster) (q : Plugin) : Roster :=
  { o.update { q with active := false } with provider := none }

theorem nodup_deposed {q : Plugin} (hc : o.Consistent) :
    ((o.deposed q).plugins.map (·.handle)).Nodup := by
  have hsame := handles_update o { q with active := false }
  exact hsame ▸ hc.distinct

/-- Giving up the place tells the provider to stop. -/
theorem release_update {q : Plugin} {o' : Roster} (hp : (o.update q).providing? = some q)
    (h : Yields (o.update q).release t o') : t = q.farewell ∧ o' = o.deposed q := by
  obtain ⟨ht, ho⟩ := release_inv hp h
  refine ⟨ht, ?_⟩
  have hupdate : (o.update q).update { q with active := false } =
      o.update { q with active := false } := update_update rfl
  rw [ho, hupdate, deposed]

/-- After a round the plugin that accepted holds the place, if nobody held it before. -/
theorem providing?_settle {ps : List Plugin} (hd : (r.plugins.map (·.handle)).Nodup)
    (hs : (r.settle as).Consistent) (hn : r.provider = none) (hps : ps.Sublist r.plugins)
    (h : Sought ps t as) :
    (r.settle as).providing? = (winner? as).map fun p => { p with active := true } := by
  have hfits := fits_of_sought hd hps h
  have hprovider := h.provider_settle r
  cases hw : winner? as with
  | none =>
    rw [hw, hn] at hprovider
    rw [providing?, hprovider]
    rfl
  | some p =>
    have hmem := mem_of_winner? hw
    have hsettled : p.settled as = { p with active := true } := by
      rw [Plugin.settled, hfits.answer?_eq hmem]
      rfl
    refine hs.providing?_eq_some.2 ⟨?_, rfl⟩
    rw [plugins_settle hd hfits]
    exact List.mem_map.2 ⟨p, hfits.mem _ hmem, hsettled⟩

/-- The plugin that was chosen holds the place. -/
theorem Chosen.providing?_eq (h : Chosen r t as P o) (hc : r.Consistent) (ho : o.Consistent) :
    o.providing? = P.map fun p => { p with active := true } := by
  cases h with
  | held p hp =>
    have hactive := (hc.providing?_eq_some.1 hp).2
    rw [hp, Option.map_some, ← hactive]
  | sought t as hn h => exact providing?_settle hc.distinct ho hn (.refl _) h

/-- The plugin that was chosen is in the roster, and active. -/
theorem Chosen.mem (h : Chosen r t as (some p) o) (hc : r.Consistent) (ho : o.Consistent) :
    { p with active := true } ∈ o.plugins :=
  (ho.providing?_eq_some.1 (h.providing?_eq hc ho)).1

/-- Whoever refused for good while a provider was looked for has lost the permission. -/
theorem Chosen.plugins_eq (h : Chosen r t as P o) (hc : r.Consistent) :
    o.plugins = r.plugins.map (·.settled as) := by
  cases h with
  | held p hp => simp [Plugin.settled, answer?]
  | sought t as hn h => exact plugins_settle hc.distinct (fits_of_sought hc.distinct (.refl _) h)

/-- While a provider is looked for nobody is fetched from and no session ends. -/
theorem Chosen.quiet (h : Chosen r t as P o) (u : Transcript) :
    (t ++ u).frames = u.frames ∧ (t ++ u).stops = u.stops := by
  have hquiet : t.frames = [] ∧ t.stops = [] := by
    cases h with
    | held p hp => exact ⟨rfl, rfl⟩
    | sought t as hn h => exact ⟨h.frames, h.stops⟩
  constructor
  · rw [Transcript.frames_append, hquiet.1, List.nil_append]
  · rw [Transcript.stops_append, hquiet.2, List.nil_append]

/-- The plugins besides one. -/
def others (o : Roster) (p : Plugin) : List Plugin := o.plugins.filter (·.handle != p.handle)

/-- As long as no two plugins share an identity, it does not matter that the provider that stopped
is left out by its identity, and not by its handle. -/
theorem filter_deposed {q : Plugin} (hh : q.handle = p.handle) (hi : q.id = p.id)
    (hinj : ∀ a ∈ o.plugins, a.id = p.id → a.handle = p.handle) :
    (o.deposed q).plugins.filter (·.id != p.id) = o.others p := by
  simp only [deposed, update, others, List.filter_map]
  have hkeep : o.plugins.filter ((fun a => a.id != p.id) ∘ fun a =>
        if a.handle = Plugin.handle { q with active := false }
        then { q with active := false } else a) =
      o.plugins.filter (·.handle != p.handle) := by
    refine List.filter_congr fun a ha => ?_
    by_cases he : a.handle = q.handle
    · have he' : a.handle = Plugin.handle { q with active := false } := he
      simp [he', hi, ← hh]
      rfl
    · have he' : ¬a.handle = Plugin.handle { q with active := false } := he
      have hne : ¬a.handle = p.handle := hh ▸ he
      have hid : ¬a.id = p.id := fun e => hne (hinj a ha e)
      simp only [Function.comp_apply, if_neg he', bne_iff_ne.2 hid, bne_iff_ne.2 hne]
  rw [hkeep]
  conv_rhs => rw [← List.map_id (o.plugins.filter _)]
  refine List.map_congr_left fun a ha => ?_
  have hne : a.handle ≠ p.handle := by simpa using (List.mem_filter.1 ha).2
  rw [if_neg (fun e => hne (e.trans hh))]
  rfl

end Roster

/-! ## The course of a tick -/

namespace Registry

variable {r : Registry} {t : Transcript}

/-- The ways in which a tick goes, with all answers to offers. -/
inductive Course (r : Registry) : Transcript → List Answer → Bool × Registry → Prop
  | idle (t : Transcript) (as : List Answer) (o : Roster) (h : Roster.Chosen r.roster t as none o) :
      Course r t as (false, { r with roster := o, snapshot := .zeroed })
  | fresh (t : Transcript) (as : List Answer) (o : Roster) (p : Plugin) (e : Exchange) (f : Frame)
      (c : ChangeCache UInt8 × ChangeCache UInt32) (h : Roster.Chosen r.roster t as (some p) o)
      (ho : o.Consistent) (hf : e.frame? = some (p.who, f)) (hgo : f.proceed = true)
      (hc : Plugin.CoherentCaches c) :
      Course r (t ++ [e]) as (true, { r with
        roster := o.update (Plugin.withCaches { p with active := true } c)
        snapshot := (r.snapshot.apply f).sanitized })
  | stopped (t u v : Transcript) (as bs : List Answer) (o : Roster) (p q : Plugin)
      (snapshot : Snapshot) (h : Roster.Chosen r.roster t as (some p) o) (ho : o.Consistent)
      (hf : Plugin.Fetched { p with active := true } r.snapshot u (false, q, snapshot))
      (hs : Sought ((o.deposed q).plugins.filter (·.id != p.id)) v bs) :
      Course r (t ++ (u ++ (p.parting ++ v))) (as ++ bs)
        (false, { r with roster := (o.deposed q).settle bs, snapshot := .zeroed })

/-- **The course of a tick.** Nobody is found, or the frame of the provider is fresh, or the
provider stops and the others are sought once. -/
theorem tick_course {x : Bool × Registry} (hc : r.Consistent) (h : Yields r.tick t x) :
    ∃ as, r.Course t as x := by
  obtain ⟨t, _, o, rfl, h₁, h₂⟩ := yields_bind.1 h
  obtain ⟨as, P, hchosen⟩ := Roster.arbitrate_chosen hc.roster h₁
  have ho := (Roster.arbitrate_steps hc.roster hc.roster.distinct h₁).consistent hc.roster
  have hprov := hchosen.providing?_eq hc.roster ho
  cases P with
  | none =>
    rw [hprov] at h₂
    obtain ⟨rfl, rfl⟩ := yields_done.1 h₂
    rw [List.append_nil]
    exact ⟨as, .idle t as o hchosen⟩
  | some p =>
    have hmem := hchosen.mem hc.roster ho
    rw [hprov] at h₂
    obtain ⟨u, _, ⟨proceed, q, snapshot⟩, rfl, h₃, h₄⟩ := yields_bind.1 h₂
    have hfetch := Plugin.fetch_inv (ho.sound _ hmem) h₃
    cases proceed with
    | true =>
      obtain ⟨rfl, rfl⟩ := yields_done.1 h₄
      rw [List.append_nil]
      generalize hgo : (true, q, snapshot) = y at hfetch
      cases hfetch with
      | unable hq => simp at hgo
      | frame e f c hq hf hcoh =>
        simp only [Prod.mk.injEq] at hgo
        obtain ⟨hgo, rfl, rfl⟩ := hgo
        exact ⟨as, .fresh t as o p e f c hchosen ho hf hgo.symm hcoh⟩
    | false =>
      obtain ⟨v, _, o₁, rfl, h₅, h₆⟩ := yields_bind.1 h₄
      obtain ⟨w, _, o₂, rfl, h₇, h₈⟩ := yields_bind.1 h₆
      obtain ⟨rfl, rfl⟩ := yields_done.1 h₈
      have hhandle : q.handle = p.handle := hfetch.keeps (·.handle) fun _ => by simp
      have hid : q.id = p.id := hfetch.keeps (·.id) fun _ => by simp
      have hactive : q.active = true := hfetch.keeps (·.active) fun _ => by simp
      have hparting : q.parting = p.parting := hfetch.keeps (·.parting) fun _ => by simp
      have ho' := ho.fetched hmem hfetch
      have hprov' : (o.update q).providing? = some q :=
        ho'.providing?_eq_some.2 ⟨Roster.mem_update.2 (.inr ⟨rfl, _, hmem, hhandle.symm⟩), hactive⟩
      have ho₁ := (Roster.release_steps ho' h₅).1.consistent ho'
      obtain ⟨rfl, rfl⟩ := Roster.release_update hprov' h₅
      -- the provider that stopped is not among those who are asked
      obtain ⟨bs, hs, rfl⟩ := Roster.arbitrate_sought ho₁ rfl (List.filter_sublist ..) h₇
      rw [hid] at hs
      rw [List.append_nil, Plugin.farewell_of_active hactive, hparting]
      exact ⟨as ++ bs, .stopped t u w as bs o p q snapshot hchosen ho hfetch hs⟩

/-! ## The outcome of a tick -/

/-- Who is fetched from after a search that left the transcript behind: the provider, or else the
first eligible plugin that accepted. -/
def choice (r : Registry) (t : Transcript) : Option Plugin :=
  r.providing?.or ((r.plugins.filter Roster.isEligible).find? fun q =>
    (q.who, OfferCode.ok) ∈ t.offers)

/-- The plugin from which the tick fetches is read off the transcript. -/
theorem chosen_eq_choice {as : List Answer} {P : Option Plugin} {o : Roster} (hc : r.Consistent)
    (h : r.roster.Chosen t as P o) : P = r.choice t := by
  cases h with
  | held p hp =>
    have hprov : r.providing? = some p := hp
    rw [choice, hprov]
    rfl
  | sought t as hn h =>
    have hprov : r.providing? = none := by rw [providing?, Roster.providing?, hn]; rfl
    rw [choice, hprov, Option.none_or]
    exact h.winner?_eq hc.roster.distinct

/-- The provider `p` did not go on. Its session is ended, and the other plugins of the roster are
asked once. -/
structure Failover (o : Roster) (p : Plugin) (t : Transcript) (s : Registry) : Prop where
  /-- It asked to stop, or there is nothing to fetch with. -/
  declined : (∃ f, t.frames = [(p.who, f)] ∧ f.proceed = false) ∨
    (p.fetchCall? = none ∧ t.frames = [])
  stops : t.stops = p.parting
  /-- With the current interface that is exactly one call. -/
  parting : p.generation = .current → t.stops = [⟨.plugin p.who .stopPositional, ()⟩]
  kept : ∃ q ∈ s.plugins, q.who = p.who ∧ q.loaded = true ∧ q.enabled = true ∧ q.active = false
  spared : ∀ code, (p.who, code) ∉ t.offers
  again : ∃ u v bs, t = u ++ (p.parting ++ v) ∧ u.offers = [] ∧ u.length ≤ 1 ∧
    Sought (o.others p) v bs ∧
    s.providing?.map (·.who) = (((o.others p).filter Roster.isEligible).find? fun q =>
      (q.who, OfferCode.ok) ∈ v.offers).map (·.who)

/-- What a failover is: one session ended, one round among the others, and the provider kept in the
registry without its session. -/
theorem failover_of_sought {o : Roster} {p q : Plugin} {u v : Transcript} {bs : List Answer}
    {snapshot snapshot' : Snapshot} {s : Registry} (ho : o.Consistent)
    (hi : (o.plugins.map (·.id)).Nodup) (hmem : { p with active := true } ∈ o.plugins)
    (hf : Plugin.Fetched { p with active := true } snapshot u (false, q, snapshot'))
    (hsought : Sought ((o.deposed q).plugins.filter (·.id != p.id)) v bs)
    (hs : s.roster = (o.deposed q).settle bs) (hcs : s.roster.Consistent) :
    Failover o p (u ++ (p.parting ++ v)) s := by
  -- the fetch changed nothing but caches
  have hwho : q.who = p.who := hf.keeps (·.who) fun _ => by simp
  have hhandle : q.handle = p.handle := congrArg Occupant.handle hwho
  have hid : q.id = p.id := hf.keeps (·.id) fun _ => by simp
  have hloaded : q.loaded = p.loaded := hf.keeps (·.loaded) fun _ => by simp
  have henabled : q.enabled = p.enabled := hf.keeps (·.enabled) fun _ => by simp
  have hsound := ho.sound _ hmem
  have hpenabled : p.enabled = true := hsound.enabled_of_active rfl
  have hploaded : p.loaded = true := hsound.loaded_of_enabled hpenabled
  have hinj : ∀ a ∈ o.plugins, a.id = p.id → a.handle = p.handle := by
    intro a ha e
    have hsame : a = { p with active := true } := List.inj_on_of_nodup_map hi ha hmem e
    rw [hsame]
    rfl
  rw [Roster.filter_deposed hhandle hid hinj] at hsought
  have hd := Roster.nodup_deposed (q := q) ho
  have hsub : (o.others p).Sublist (o.deposed q).plugins := by
    rw [← Roster.filter_deposed hhandle hid hinj]
    exact List.filter_sublist ..
  have hnot : ∀ a ∈ o.others p, a.handle ≠ p.handle := fun a ha => by
    simpa using (List.mem_filter.1 ha).2
  obtain ⟨hoffers, hstops, hlen⟩ := hf.quiet
  have hframes : (u ++ (p.parting ++ v)).frames = u.frames := by
    simp [p.frames_parting, hsought.frames]
  have hends : (u ++ (p.parting ++ v)).stops = p.parting := by
    simp [hstops, p.stops_parting, hsought.stops]
  have hparting : p.generation = .current →
      (u ++ (p.parting ++ v)).stops = [⟨.plugin p.who .stopPositional, ()⟩] := fun hg =>
    hends.trans (hsound.parting_eq rfl hg)
  refine ⟨hframes ▸ hf.declined, hends, hparting, ?_, fun code hcode => ?_, ?_⟩
  · -- it does not answer in the second round
    have hq : { q with active := false } ∈ (o.deposed q).plugins :=
      Roster.mem_update.2 (.inr ⟨rfl, _, hmem, hhandle.symm⟩)
    have hfits := Roster.fits_of_sought hd hsub hsought
    have hsilent : q.handle ∉ bs.map (·.1.handle) := by
      intro hq
      obtain ⟨a, ha, he⟩ := List.mem_map.1 hq
      exact hnot _ (hsought.mem ha).1 (he.trans hhandle)
    refine ⟨{ q with active := false }, ?_, hwho, hloaded.trans hploaded,
      henabled.trans hpenabled, rfl⟩
    rw [plugins, hs, Roster.plugins_settle hd hfits]
    exact List.mem_map.2 ⟨_, hq, Plugin.settled_of_not_mem hsilent⟩
  · have hv : (p.who, code) ∈ v.offers := by simpa [hoffers, p.offers_parting] using hcode
    obtain ⟨a, ha, he⟩ := List.mem_map.1 (hsought.offers_sublist.subset hv)
    have hh : a.1.handle = p.handle := congrArg (fun w => w.1.handle) he
    exact hnot _ (hsought.mem ha).1 hh
  · refine ⟨u, v, bs, rfl, hoffers, hlen, hsought, ?_⟩
    have hprov := Roster.providing?_settle hd (hs ▸ hcs) rfl hsub hsought
    rw [providing?, hs, hprov, Option.map_map,
      hsought.winner?_eq (hd.sublist (hsub.map _))]
    rfl

/-- A tick returns true iff whoever it chose goes on, and then the snapshot is the frame written
into the old one; else the snapshot is zeroed. Whoever stopped is not asked again in the same
tick. -/
theorem tick_outcome {directories : PluginDirectories} {h : History} {x : Bool × Registry}
    (hf : (new directories).Follows h r) (hx : Yields r.tick t x) :
    r.plugins.Pairwise (fun p q => p.id < q.id) ∧
    (x.1 = false → x.2.snapshot = .zeroed) ∧
    ∃ t₁ t₂ as o, t = t₁ ++ t₂ ∧ r.roster.Chosen t₁ as (r.choice t₁) o ∧
      o.plugins = r.plugins.map (·.settled as) ∧
      t.frames = t₂.frames ∧ t.stops = t₂.stops ∧ t.frames.length ≤ 1 ∧
      (x.1 = true ↔
        ∃ p f, r.choice t₁ = some p ∧ t.frames = [(p.who, f)] ∧ f.proceed = true) ∧
      (x.1 = true → ∃ p f q, r.choice t₁ = some p ∧ t.frames = [(p.who, f)] ∧
        x.2.providing? = some q ∧ q.who = p.who ∧ q.active = true ∧
        r.snapshot.Refreshed f x.2.snapshot) ∧
      (r.choice t₁ = none → t₂ = [] ∧ x.2.providing? = none) ∧
      ∀ p, r.choice t₁ = some p → x.1 = false → Failover o p t₂ x.2 := by
  have hc := hf.consistent (consistent_new directories)
  have hsorted := hf.ordered.sorted
  have hcs := ((tick_inv hc hx).performed hc).consistent hc
  obtain ⟨as, hcourse⟩ := tick_course hc hx
  refine ⟨hsorted, ?_⟩
  cases hcourse with
  | idle t as o hchosen =>
    have hnone := (chosen_eq_choice hc hchosen).symm
    obtain ⟨hframes, hstops⟩ := hchosen.quiet []
    rw [List.append_nil] at hframes hstops
    have hprov : o.providing? = none := hchosen.providing?_eq hc.roster hcs.roster
    have hone : t.frames.length ≤ 1 := by
      rw [hframes]
      exact Nat.zero_le _
    refine ⟨fun _ => rfl, t, [], as, o, (List.append_nil t).symm, hnone ▸ hchosen,
      hchosen.plugins_eq hc.roster, hframes, hstops, hone, ?_, ?_, fun _ => ⟨rfl, hprov⟩, ?_⟩
    · simp [hnone]
    · simp
    · simp [hnone]
  | fresh t as o p e f c hchosen ho hfr hgo hcoh =>
    have hsome := (chosen_eq_choice hc hchosen).symm
    obtain ⟨hlast, hstops⟩ := hchosen.quiet [e]
    have hframes : (t ++ [e]).frames = [(p.who, f)] := hlast.trans (Transcript.of_frame? hfr).1
    have hone : (t ++ [e]).frames.length ≤ 1 := by
      rw [hframes]
      exact Nat.le_refl _
    refine ⟨by simp, t, [e], as, o, rfl, hsome ▸ hchosen, hchosen.plugins_eq hc.roster, hlast,
      hstops, hone, ?_, fun _ => ?_, by simp [hsome], by simp⟩
    · exact iff_of_true rfl ⟨p, f, hsome, hframes, hgo⟩
    · -- the provider is active, so it is the one that holds the place
      have hmem' : Plugin.withCaches { p with active := true } c ∈
          (o.update (Plugin.withCaches { p with active := true } c)).plugins :=
        Roster.mem_update.2 (.inr ⟨rfl, _, hchosen.mem hc.roster ho, Plugin.handle_withCaches.symm⟩)
      have hprov := hcs.roster.providing?_eq_some.2 ⟨hmem', Plugin.active_withCaches⟩
      exact ⟨p, f, _, hsome, hframes, hprov, by simp, by simp, Snapshot.refreshed_iff.2 rfl⟩
  | stopped t u v as bs o p q snapshot hchosen ho hfetch hsought =>
    have hsome := (chosen_eq_choice hc hchosen).symm
    -- offers change no identity
    have hids : (o.plugins.map (·.id)).Nodup := by
      have hsame : o.plugins.map (·.id) = r.plugins.map (·.id) := by
        rw [hchosen.plugins_eq hc.roster, List.map_map]
        exact List.map_congr_left fun _ _ => Plugin.id_settled
      rw [hsame]
      exact (List.pairwise_map.2 hsorted).imp UInt32.ne_of_lt
    have hover := failover_of_sought ho hids (hchosen.mem hc.roster ho) hfetch hsought rfl
      hcs.roster
    obtain ⟨hframes, hstops⟩ := hchosen.quiet (u ++ (p.parting ++ v))
    have hone : (t ++ (u ++ (p.parting ++ v))).frames.length ≤ 1 := by
      rw [hframes]
      rcases hover.declined with ⟨f, hone, -⟩ | ⟨-, hnone⟩
      · rw [hone]
        exact Nat.le_refl _
      · rw [hnone]
        exact Nat.zero_le _
    refine ⟨fun _ => rfl, t, _, as, o, rfl, hsome ▸ hchosen, hchosen.plugins_eq hc.roster, hframes,
      hstops, hone, ?_, by simp, by simp [hsome], ?_⟩
    · -- a frame that says to go on is not among those that were brought
      refine iff_of_false (by simp) ?_
      rintro ⟨p', f, -, hbrought, hgo⟩
      rw [hframes] at hbrought
      rcases hover.declined with ⟨f', hframe, hstop⟩ | ⟨-, hnone⟩
      · obtain ⟨-, rfl⟩ : p.who = p'.who ∧ f' = f := by simpa using hframe.symm.trans hbrought
        simp [hgo] at hstop
      · simp [hnone] at hbrought
    · intro p' hp' _
      obtain rfl : p = p' := by simpa [hsome] using hp'
      exact hover

end Registry

/-! ## A provider that stops

Of two plugins that take every offer the first stops as soon as it is fetched from. -/

namespace Relay

def answer : (q : Query) → q.Reply
  | .plugin ⟨_, .builtIn 0⟩ .fetchPositional => ⟨.replicate none, none, none, false⟩
  | q => Duo.answer .zero q

/-- Both plugins are registered and started. -/
def scan : List Operation := Duo.firstFetch.take 3

def ready : Registry := (Duo.start.record answer scan).2

end Relay

namespace Registry

/-- The second plugin takes over in the tick in which the first one stops. -/
theorem tick_outcome_relay :
    let x := (Relay.ready.tick.record Relay.answer).2
    x.1 = false ∧ x.2.snapshot = .zeroed ∧
      x.2.plugins.map (fun p => (p.id, p.enabled, p.active)) = [(1, true, false), (2, true, true)] ∧
      ∃ t₁ t₂ o p, Relay.ready.choice t₁ = some p ∧ Failover o p t₂ x.2 := by
  intro x
  have hready := follows_record Relay.answer Duo.start Relay.scan
  have hstopped : x.1 = false := by decide +kernel
  have hsecond : x.2.providing?.isSome = true := by decide +kernel
  obtain ⟨-, hzero, t₁, t₂, as, o, -, -, -, -, -, -, -, -, hnone, hover⟩ :=
    tick_outcome hready (yields_record Relay.answer Relay.ready.tick)
  refine ⟨hstopped, hzero hstopped, by decide +kernel, t₁, t₂, o, ?_⟩
  cases hp : Relay.ready.choice t₁ with
  | none =>
    have hidle : x.2.providing? = none := (hnone hp).2
    rw [hidle] at hsecond
    exact absurd hsecond (by decide)
  | some p => exact ⟨p, rfl, hover p hp hstopped⟩

end Registry

end PluginHost
