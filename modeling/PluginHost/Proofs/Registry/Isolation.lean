import PluginHost.Proofs.Registry.Caches
import PluginHost.Proofs.Registry.Snapshot

/-!
# Isolation of providers

Two histories in which the world gives the same answers, except that the frames of some plugins
differ. What shows of the difference while another plugin provides positional data?

* **`Transcript.AlikeBut`**: the same answers as long as the same is asked, except for the frames of
  the plugins. That the same is asked is not assumed, it is proved.
* **`determined`**: an interaction that fetches nothing asks the same and ends the same.
* **`Follows.alike`**: the registries that are reached differ in their snapshots and caches only.
* **`isolation_iff`**: the snapshots of another provider are the same iff the vectors are that one
  of the plugins wrote last. A snapshot is not zeroed when the provider is unloaded or forbidden, so
  there are such vectors; after every other end of a session there are none.
-/

namespace PluginHost

open Interaction Transcript

/-! ## Transcripts that differ in frames -/

section
variable (A : Occupant → Prop)

/-- The same exchange, or two fetches from one of the plugins that agree in whether it goes on. -/
inductive Exchange.AlikeBut : Exchange → Exchange → Prop
  | same (e : Exchange) : AlikeBut e e
  | frame (e e' : Exchange) (who : Occupant) (f f' : Frame) (hq : e.query = e'.query) (hA : A who)
      (hf : e.frame? = some (who, f)) (hf' : e'.frame? = some (who, f'))
      (hgo : f.proceed = f'.proceed) : AlikeBut e e'

/-- Alike exchanges up to where one transcript ends or something else is asked. -/
inductive Transcript.AlikeBut : Transcript → Transcript → Prop
  | nilLeft (t : Transcript) : AlikeBut [] t
  | nilRight (t : Transcript) : AlikeBut t []
  | apart (e e' : Exchange) (t t' : Transcript) (hq : e.query ≠ e'.query) :
      AlikeBut (e :: t) (e' :: t')
  | cons {e e' : Exchange} {t t' : Transcript} (h : e.AlikeBut A e') (ht : AlikeBut t t') :
      AlikeBut (e :: t) (e' :: t')

/-- The same operations with alike transcripts. -/
def History.AlikeBut (h h' : History) : Prop :=
  List.Forall₂ (fun x x' => x.1 = x'.1 ∧ x.2.AlikeBut A x'.2) h h'

/-- The same plugins brought frames, and only those of the plugins in question differ. -/
def FramesAlike (fs fs' : List (Occupant × Frame)) : Prop :=
  List.Forall₂ (fun x x' => x = x' ∨ (A x.1 ∧ x.1 = x'.1 ∧ x.2.proceed = x'.2.proceed)) fs fs'

end

section
variable {A : Occupant → Prop} {α : Type} {x : Interaction α} {a a' : α} {t u u' v v' : Transcript}
  {e e' : Exchange}

/-- Alike frames of which none is from the plugins are the same. -/
theorem FramesAlike.eq_of_forall {fs fs' : List (Occupant × Frame)} (h : FramesAlike A fs fs')
    (hfs : ∀ x ∈ fs, ¬ A x.1) : fs = fs' := by
  induction h with
  | nil => rfl
  | cons hx _ ih =>
    obtain ⟨hhead, htail⟩ := List.forall_mem_cons.1 hfs
    rcases hx with rfl | ⟨hA, -⟩
    · rw [ih htail]
    · exact absurd hA hhead

/-- An interaction that fetches nothing asks the same and ends the same. -/
theorem determined (h : Yields x u a) (h' : Yields x u' a') (hu : u.frames = [])
    (halike : (u ++ v).AlikeBut A (u' ++ v')) : u' = u ∧ a' = a ∧ v.AlikeBut A v' := by
  induction h generalizing u' with
  | done a =>
    obtain ⟨rfl, rfl⟩ := yields_done.1 h'
    exact ⟨rfl, rfl, halike⟩
  | @ask q next r t a h ih =>
    obtain ⟨r', w, rfl, hnext⟩ := yields_ask.1 h'
    have hhead : (⟨q, r⟩ : Exchange).frame? = none := by
      cases hf : (⟨q, r⟩ : Exchange).frame? with
      | none => rfl
      | some x => simp [Transcript.frames, hf] at hu
    have hrest : Transcript.frames t = [] := by simpa [Transcript.frames, hhead] using hu
    -- both ask the same, so the answers are alike, and no fetch means that they are the same
    cases halike with
    | apart _ _ _ _ hq => exact absurd rfl hq
    | cons he ht =>
      cases he with
      | same =>
        obtain ⟨rfl, rfl, hv⟩ := ih hnext hrest ht
        exact ⟨rfl, rfl, hv⟩
      | frame _ who f f' hq hA hf hf' hgo => simp [hhead] at hf

/-- Two worlds that answer alike leave alike transcripts, whatever is asked of each. -/
theorem alike_record {β : Type} {answer answer' : (q : Query) → q.Reply}
    (hans : ∀ q, (⟨q, answer q⟩ : Exchange).AlikeBut A ⟨q, answer' q⟩) (x : Interaction α)
    (y : Interaction β) : (x.record answer).1.AlikeBut A (y.record answer').1 := by
  induction x generalizing y with
  | done a => exact .nilLeft _
  | ask q next ih =>
    cases y with
    | done b => exact .nilRight _
    | ask q' next' =>
      by_cases hq : q = q'
      · subst hq
        exact .cons (hans q) (ih (answer q) _)
      · exact .apart _ _ _ _ hq

end

namespace Registry

variable {A : Occupant → Prop} {r r' s s' : Registry} {p : Plugin} {t t' u u' v v' : Transcript}
  {h h' : History} {directories : PluginDirectories}

/-! ## One operation in two histories -/

/-- Two rosters that differ in their caches go on alike with what fetches nothing. -/
theorem roster_determined {f : Roster → Interaction Roster} {o o' q q' : Roster}
    (hf : ∀ o, f o.bare = Roster.bare <$> f o) (ho : o.bare = o'.bare) (h : Yields (f o) u q)
    (h' : Yields (f o') u' q') (hu : u.frames = []) (hal : (u ++ v).AlikeBut A (u' ++ v')) :
    u' = u ∧ q.bare = q'.bare ∧ v.AlikeBut A v' := by
  have hb : Yields (f o.bare) u q.bare := by
    rw [hf]
    exact yields_map.2 ⟨q, rfl, h⟩
  have hb' : Yields (f o.bare) u' q'.bare := by
    rw [ho, hf]
    exact yields_map.2 ⟨q', rfl, h'⟩
  obtain ⟨rfl, heq, hv⟩ := determined hb hb' hu hal
  exact ⟨rfl, heq.symm, hv⟩

/-- Any operation but a tick asks the same in registries that differ in caches and snapshots only,
and they differ in no more afterwards. -/
theorem perform_determined {op : Operation} (hop : op ≠ .tick) (hc : r.Consistent)
    (hr : r.bare = r'.bare) (h : Yields (op.perform r) t s) (h' : Yields (op.perform r') t' s')
    (hal : t.AlikeBut A t') : t' = t ∧ s.bare = s'.bare := by
  have hb : Yields (bare <$> op.perform r.bare) t s.bare := by
    rw [perform_bare hop]
    exact yields_map.2 ⟨s, rfl, h⟩
  have hb' : Yields (bare <$> op.perform r.bare) t' s'.bare := by
    rw [hr, perform_bare hop]
    exact yields_map.2 ⟨s', rfl, h'⟩
  have hwhole : (t ++ []).AlikeBut A (t' ++ []) := by
    rw [List.append_nil, List.append_nil]
    exact hal
  obtain ⟨rfl, heq, -⟩ := determined hb hb' (perform_steps hop hc h).frames hwhole
  exact ⟨rfl, heq.symm⟩

theorem framesAlike_singleton {x x' : Occupant × Frame}
    (h : x = x' ∨ (A x.1 ∧ x.1 = x'.1 ∧ x.2.proceed = x'.2.proceed)) : FramesAlike A [x] [x'] :=
  .cons h .nil

/-- Two fetches from plugins that differ in their caches: the frames are alike, and so is whether
the plugin goes on. -/
theorem fetch_determined {p' : Plugin} {a a' : Snapshot} {y y' : Bool × Plugin × Snapshot}
    (hs : p.Sound) (hs' : p'.Sound) (hp : p.bare = p'.bare) (h : Yields (p.fetch a) u y)
    (h' : Yields (p'.fetch a') u' y') (hal : (u ++ v).AlikeBut A (u' ++ v')) :
    y.1 = y'.1 ∧ y.2.1.bare = p.bare ∧ y'.2.1.bare = p.bare ∧ FramesAlike A u.frames u'.frames ∧
      v.AlikeBut A v' := by
  have hcall : p.fetchCall? = p'.fetchCall? := by
    rw [← Plugin.fetchCall?_bare, hp, Plugin.fetchCall?_bare]
  have hwho : p.who = p'.who := by
    have := congrArg Plugin.who hp
    simpa using this
  cases Plugin.fetch_inv hs h with
  | unable hq =>
    cases Plugin.fetch_inv hs' h' with
    | unable hq' => exact ⟨rfl, rfl, hp.symm, .nil, hal⟩
    | frame e' f' c' hq' hf' hc' => simp [← hcall, hq] at hq'
  | frame e f c hq hf hc =>
    cases Plugin.fetch_inv hs' h' with
    | unable hq' => simp [hcall, hq'] at hq
    | frame e' f' c' hq' hf' hc' =>
      have hb : (p.withCaches c).bare = p.bare := Plugin.bare_withCaches
      have hb' : (p'.withCaches c').bare = p.bare := Plugin.bare_withCaches.trans hp.symm
      have hquery : e.query = e'.query := by
        rw [hcall, hwho] at hq
        exact Option.some.inj (hq.symm.trans hq')
      have hfr : Transcript.frames [e] = [(p.who, f)] := by simp [Transcript.frames, hf]
      have hfr' : Transcript.frames [e'] = [(p'.who, f')] := by simp [Transcript.frames, hf']
      cases hal with
      | apart _ _ _ _ hne => exact absurd hquery hne
      | cons he ht =>
        rw [hfr, hfr']
        cases he with
        | same =>
          obtain rfl : f = f' := congrArg Prod.snd (Option.some.inj (hf.symm.trans hf'))
          exact ⟨rfl, hb, hb', framesAlike_singleton (.inl (by rw [hwho])), ht⟩
        | frame _ who g g' _ hA hg hg' hgo =>
          obtain ⟨rfl, rfl⟩ := Prod.mk.inj (Option.some.inj (hf.symm.trans hg))
          obtain ⟨-, rfl⟩ := Prod.mk.inj (Option.some.inj (hf'.symm.trans hg'))
          exact ⟨hgo, hb, hb', framesAlike_singleton (.inr ⟨hA, hwho, hgo⟩), ht⟩

/-- The rest of two registries is the same if they are but for caches and snapshots. -/
theorem bare_with {o o' : Roster} {a a' : Snapshot} (hr : r.bare = r'.bare)
    (ho : o.bare = o'.bare) :
    bare { r with roster := o, snapshot := a } = bare { r' with roster := o', snapshot := a' } := by
  simp only [bare, mk.injEq] at hr ⊢
  exact ⟨hr.1, hr.2.1, hr.2.2.1, hr.2.2.2.1, ho, trivial⟩

/-- They have the same provider. -/
theorem providing_who_eq (hr : r.bare = r'.bare) :
    r.providing?.map (·.who) = r'.providing?.map (·.who) := by
  have hbare : ∀ r : Registry, r.bare.providing?.map (·.who) = r.providing?.map (·.who) := by
    intro r
    change r.roster.bare.providing?.map _ = r.roster.providing?.map _
    rw [Roster.providing?_bare, Option.map_map]
    exact congrArg (Option.map · _) (funext fun p => Plugin.who_withCaches)
  rw [← hbare r, hr, hbare r']

/-- After a provider that stopped, both end its session and look for another one alike. -/
theorem failover_determined {id : PluginId} {o o' o₁ o₁' o₂ o₂' : Roster} {w w' : Transcript}
    (hc : o.Consistent) (ho : o.bare = o'.bare) (h : Yields o.release u o₁)
    (h' : Yields o'.release u' o₁')
    (hl : Yields (o₁.arbitrate (handles (o₁.plugins.filter (·.id != id)))) v o₂)
    (hl' : Yields (o₁'.arbitrate (handles (o₁'.plugins.filter (·.id != id)))) v' o₂')
    (hal : (u ++ (v ++ w)).AlikeBut A (u' ++ (v' ++ w'))) :
    u' = u ∧ v' = v ∧ o₂.bare = o₂'.bare ∧ Transcript.frames u = [] ∧ Transcript.frames v = [] := by
  have hrel := (Roster.release_steps hc h).1
  have hc₁ := hrel.consistent hc
  have hagain := Roster.arbitrate_steps hc₁
    (hc₁.distinct.sublist ((List.filter_sublist ..).map _)) hl
  obtain ⟨rfl, ho₁, hv⟩ :=
    roster_determined (f := Roster.release) (fun o => Roster.release_bare) ho h h' hrel.frames hal
  -- the others are the same in both, so they are asked in the same order
  rw [(Roster.handles_others_eq ho₁ id).symm] at hl'
  obtain ⟨rfl, ho₂, -⟩ := roster_determined
    (f := fun o => o.arbitrate (handles (o₁.plugins.filter (·.id != id))))
    (fun o => Roster.arbitrate_bare) ho₁ hl hl' hagain.frames hv
  exact ⟨rfl, rfl, ho₂, hrel.frames, hagain.frames⟩

/-- The same for a tick, up to the frames that it fetches, which are alike. -/
theorem tick_determined {x x' : Bool × Registry} (hc : r.Consistent) (hc' : r'.Consistent)
    (hr : r.bare = r'.bare) (h : Yields r.tick t x) (h' : Yields r'.tick t' x')
    (hal : t.AlikeBut A t') :
    x.1 = x'.1 ∧ x.2.bare = x'.2.bare ∧ FramesAlike A t.frames t'.frames := by
  have hro : r.roster.bare = r'.roster.bare := congrArg Registry.roster hr
  have hord : handles r'.plugins = handles r.plugins := (Roster.handles_eq hro).symm
  obtain ⟨t₁, u, o, rfl, h₁, h₂⟩ := yields_bind.1 h
  obtain ⟨t₁', u', o', rfl, h₁', h₂'⟩ := yields_bind.1 h'
  -- a provider is looked for, and both find the same or none
  have hlook := Roster.arbitrate_steps hc.roster hc.roster.distinct h₁
  have hlook' := Roster.arbitrate_steps hc'.roster hc'.roster.distinct h₁'
  rw [hord] at h₁'
  obtain ⟨rfl, ho, hu⟩ := roster_determined (f := fun o => o.arbitrate (handles r.plugins))
    (fun o => Roster.arbitrate_bare) hro h₁ h₁' hlook.frames hal
  have hco := hlook.consistent hc.roster
  have hco' := hlook'.consistent hc'.roster
  have hprov : o.providing?.map Plugin.bare = o'.providing?.map Plugin.bare := by
    rw [← Roster.providing?_bare, ho, Roster.providing?_bare]
  cases hp : o.providing? with
  | none =>
    have hp' : o'.providing? = none := by simpa [hp] using hprov.symm
    rw [hp] at h₂
    rw [hp'] at h₂'
    obtain ⟨rfl, rfl⟩ := yields_done.1 h₂
    obtain ⟨rfl, rfl⟩ := yields_done.1 h₂'
    refine ⟨rfl, bare_with hr ho, ?_⟩
    rw [List.append_nil, hlook.frames]
    exact .nil
  | some p =>
    obtain ⟨p', hp', hpp⟩ : ∃ p', o'.providing? = some p' ∧ p.bare = p'.bare := by
      rw [hp] at hprov
      obtain ⟨p', hp', hb⟩ := Option.map_eq_some_iff.1 hprov.symm
      exact ⟨p', hp', hb.symm⟩
    rw [hp] at h₂
    rw [hp'] at h₂'
    obtain ⟨w, z, ⟨go, q, a⟩, rfl, h₃, h₄⟩ := yields_bind.1 h₂
    obtain ⟨w', z', ⟨go', q', a'⟩, rfl, h₃', h₄'⟩ := yields_bind.1 h₂'
    obtain ⟨hmem, -⟩ := hco.providing?_eq_some.1 hp
    obtain ⟨hmem', -⟩ := hco'.providing?_eq_some.1 hp'
    have hfetch := Plugin.fetch_inv (hco.sound p hmem) h₃
    obtain ⟨hgo, hq, hq', hfr, hz⟩ :=
      fetch_determined (hco.sound p hmem) (hco'.sound p' hmem') hpp h₃ h₃' hu
    dsimp only at hgo hq hq'
    subst hgo
    have hup : (o.update q).bare = (o'.update q').bare := by
      rw [← Roster.update_bare, ← Roster.update_bare, ho, hq, hq']
    have hcu := hco.fetched hmem hfetch
    -- alike frames agree in whether the provider goes on
    cases go with
    | true =>
      obtain ⟨rfl, rfl⟩ := yields_done.1 h₄
      obtain ⟨rfl, rfl⟩ := yields_done.1 h₄'
      refine ⟨rfl, bare_with hr hup, ?_⟩
      simpa [hlook.frames] using hfr
    | false =>
      obtain ⟨y₁, _, o₁, rfl, h₅, h₆⟩ := yields_bind.1 h₄
      obtain ⟨y₁', _, o₁', rfl, h₅', h₆'⟩ := yields_bind.1 h₄'
      obtain ⟨y₂, _, o₂, rfl, h₇, h₈⟩ := yields_bind.1 h₆
      obtain ⟨y₂', _, o₂', rfl, h₇', h₈'⟩ := yields_bind.1 h₆'
      obtain ⟨rfl, rfl⟩ := yields_done.1 h₈
      obtain ⟨rfl, rfl⟩ := yields_done.1 h₈'
      have hid : q'.id = q.id := by
        have := congrArg Plugin.id (hq'.trans hq.symm)
        simpa using this
      rw [hid] at h₇'
      obtain ⟨rfl, rfl, ho₂, hf₁, hf₂⟩ := failover_determined hcu hup h₅ h₅' h₇ h₇' hz
      refine ⟨rfl, bare_with hr ho₂, ?_⟩
      simpa [hlook.frames, hf₁, hf₂] using hfr

/-! ## Two histories -/

/-- Alike frames stay so when an operation carries them on. -/
theorem carry_alike {op : Operation} {fs fs' : List (Occupant × Frame)} (hfs : FramesAlike A fs fs')
    (ht : FramesAlike A t.frames t'.frames) : FramesAlike A (op.carry t fs) (op.carry t' fs') := by
  have hany : ∀ {gs gs' : List (Occupant × Frame)}, FramesAlike A gs gs' →
      gs.any (fun x => x.2.proceed) = gs'.any fun x => x.2.proceed := by
    intro gs gs' h
    induction h with
    | nil => rfl
    | @cons x x' gs gs' hx _ ih =>
      have hgo : x.2.proceed = x'.2.proceed := by
        rcases hx with rfl | ⟨-, -, hgo⟩
        · rfl
        · exact hgo
      simp only [List.any_cons, hgo, ih]
  cases op with
  | rescan fs => exact .nil
  | tick =>
    simp only [Operation.carry, hany ht]
    split
    · exact List.rel_append hfs ht
    · exact .nil
  | _ => exact hfs

theorem alike_concat {x x' : Operation × Transcript}
    (hal : History.AlikeBut A (h ++ [x]) (h' ++ [x'])) :
    History.AlikeBut A h h' ∧ x.1 = x'.1 ∧ x.2.AlikeBut A x'.2 := by
  have hrev := List.forall₂_reverse_iff.2 hal
  simp only [List.reverse_append, List.reverse_singleton, List.singleton_append,
    List.forall₂_cons] at hrev
  exact ⟨List.forall₂_reverse_iff.1 hrev.2, hrev.1⟩

theorem frames_concat {op : Operation} :
    History.frames (h ++ [(op, t)]) = op.carry t h.frames := by
  simp [History.frames]

/-- Histories with alike transcripts lead to registries that differ in caches and snapshots only,
and the frames in the snapshots are alike. -/
theorem Follows.alike (hf : (new directories).Follows h s) (hf' : (new directories).Follows h' s')
    (hal : h.AlikeBut A h') : s.bare = s'.bare ∧ FramesAlike A h.frames h'.frames := by
  have hnew := consistent_new directories
  induction hf generalizing h' s' with
  | nil =>
    cases hf' with
    | nil => exact ⟨rfl, .nil⟩
    | snoc hf' hp' => simpa using hal.length_eq
  | @snoc h₀ s₀ s op t hf hp ih =>
    cases hf' with
    | nil => simpa using hal.length_eq
    | @snoc h₀' s₀' s' op' t' hf' hp' =>
      obtain ⟨hal₀, rfl, htt⟩ := alike_concat hal
      obtain ⟨hb, hfr⟩ := ih hf' hal₀
      have hc := hf.consistent hnew
      have hc' := hf'.consistent hnew
      rw [frames_concat, frames_concat]
      by_cases hop : op = .tick
      · subst hop
        obtain ⟨x, rfl, hx⟩ := yields_map.1 hp
        obtain ⟨x', rfl, hx'⟩ := yields_map.1 hp'
        obtain ⟨-, hbare, hfr'⟩ := tick_determined hc hc' hb hx hx' htt
        exact ⟨hbare, carry_alike hfr hfr'⟩
      · obtain ⟨rfl, hbare⟩ := perform_determined hop hc hb hp hp' htt
        have hnone := (perform_steps hop hc hp).frames
        exact ⟨hbare, carry_alike hfr (by rw [hnone]; exact .nil)⟩

end Registry

/-! ## What is left over -/

/-- What was written last is from one of the plugins. -/
def LeftOver (A : Occupant → Prop) (w : Option (Occupant × Vector3)) : Prop :=
  ∃ who v, w = some (who, v) ∧ A who

/-- Two poses, place by place. -/
def Pose.pairs {α : Type} (p q : Pose α) : List (α × α) := (p.zipWith Prod.mk q).toList

section
variable {A : Occupant → Prop}

/-- Writing alike frames keeps that two places agree or show what is left over. -/
theorem leftOver_step {x x' : Occupant × Frame} {v v' : Option Vector3}
    {w w' : Option (Occupant × Vector3)}
    (hx : (x.1 = x'.1 ∧ v = v') ∨ (A x.1 ∧ x.1 = x'.1))
    (hw : w = w' ∨ LeftOver A w ∨ LeftOver A w') :
    (v.map (x.1, ·)).or w = (v'.map (x'.1, ·)).or w' ∨
      LeftOver A ((v.map (x.1, ·)).or w) ∨ LeftOver A ((v'.map (x'.1, ·)).or w') := by
  cases v with
  | some a =>
    rcases hx with ⟨he, rfl⟩ | ⟨hA, -⟩
    · exact .inl (by simp [he])
    · exact .inr (.inl ⟨x.1, a, rfl, hA⟩)
  | none =>
    cases v' with
    | none => simpa using hw
    | some a' =>
      rcases hx with ⟨-, hv⟩ | ⟨hA, he⟩
      · simp at hv
      · exact .inr (.inr ⟨x'.1, a', rfl, he ▸ hA⟩)

/-- Alike frames leave two places that agree, unless something left over shows in one of them.
Induction along the frames. -/
theorem leftOver_writers {fs fs' : List (Occupant × Frame)} (h : FramesAlike A fs fs') :
    ∀ y ∈ (Pose.writers fs).pairs (Pose.writers fs'),
      y.1 = y.2 ∨ LeftOver A y.1 ∨ LeftOver A y.2 := by
  have hfold : ∀ w w' : Pose (Option (Occupant × Vector3)),
      (∀ y ∈ w.pairs w', y.1 = y.2 ∨ LeftOver A y.1 ∨ LeftOver A y.2) →
      ∀ y ∈ Pose.pairs
        (fs.foldl (fun w x => x.2.vectors.zipWith (fun v old => (v.map (x.1, ·)).or old) w) w)
        (fs'.foldl (fun w x => x.2.vectors.zipWith (fun v old => (v.map (x.1, ·)).or old) w) w'),
        y.1 = y.2 ∨ LeftOver A y.1 ∨ LeftOver A y.2 := by
    induction h with
    | nil => exact fun w w' hw => hw
    | @cons x x' fs fs' hx _ ih =>
      intro w w' hw
      rw [List.foldl_cons, List.foldl_cons]
      apply ih
      -- the same for each of the six places
      have hplace : ∀ (get : Pose (Option Vector3) → Option Vector3),
          (x.1 = x'.1 ∧ get x.2.vectors = get x'.2.vectors) ∨ (A x.1 ∧ x.1 = x'.1) := by
        intro get
        rcases hx with rfl | ⟨hA, he, -⟩
        · exact .inl ⟨rfl, rfl⟩
        · exact .inr ⟨hA, he⟩
      simp only [Pose.pairs, Pose.zipWith, Pose.toList, List.forall_mem_cons, List.not_mem_nil,
        false_imp_iff, implies_true, and_true] at hw ⊢
      obtain ⟨h₁, h₂, h₃, h₄, h₅, h₆⟩ := hw
      exact ⟨leftOver_step (hplace _) h₁, leftOver_step (hplace _) h₂, leftOver_step (hplace _) h₃,
        leftOver_step (hplace _) h₄, leftOver_step (hplace _) h₅, leftOver_step (hplace _) h₆⟩
  exact hfold _ _ (by simp [Pose.pairs, Pose.replicate, Pose.zipWith, Pose.toList])

/-- Two snapshots with alike frames under the same last frame are the same iff they are where
something is left over. -/
theorem portray_eq_iff {fs fs' : List (Occupant × Frame)} {x : Occupant × Frame}
    (h : FramesAlike A (fs ++ [x]) (fs' ++ [x])) :
    Snapshot.portray (fs ++ [x]) = Snapshot.portray (fs' ++ [x]) ↔
      ∀ y ∈ (Pose.writers (fs ++ [x])).pairs (Pose.writers (fs' ++ [x])),
        LeftOver A y.1 ∨ LeftOver A y.2 → Snapshot.shown y.1 = Snapshot.shown y.2 := by
  have hpose : ∀ w w' : Pose (Option (Occupant × Vector3)),
      w.map Snapshot.shown = w'.map Snapshot.shown ↔
        ∀ y ∈ w.pairs w', Snapshot.shown y.1 = Snapshot.shown y.2 := by
    intro w w'
    simp only [Pose.pairs, Pose.zipWith, Pose.toList, Pose.map, Pose.mk.injEq, List.forall_mem_cons,
      List.not_mem_nil, false_imp_iff, implies_true, and_true]
  have htext : ∀ gs : List (Occupant × Frame),
      (Snapshot.portray (gs ++ [x])).context = x.2.context ∧
      (Snapshot.portray (gs ++ [x])).identity = x.2.identity := by
    intro gs
    simp [Snapshot.portray, Snapshot.sanitized, Snapshot.apply]
  have hsame : Snapshot.portray (fs ++ [x]) = Snapshot.portray (fs' ++ [x]) ↔
      (Snapshot.portray (fs ++ [x])).pose = (Snapshot.portray (fs' ++ [x])).pose := by
    constructor
    · exact fun h => congrArg _ h
    · intro hp
      have hc := (htext fs).1.trans (htext fs').1.symm
      have hi := (htext fs).2.trans (htext fs').2.symm
      generalize Snapshot.portray (fs ++ [x]) = a at *
      generalize Snapshot.portray (fs' ++ [x]) = b at *
      cases a
      cases b
      simp_all
  rw [hsame, Snapshot.pose_portray, Snapshot.pose_portray, hpose]
  constructor
  · exact fun heq y hy _ => heq y hy
  · intro hleft y hy
    rcases leftOver_writers h y hy with heq | hl
    · rw [heq]
    · exact hleft y hy hl

end

namespace Registry

variable {A : Occupant → Prop} {r r' s s' : Registry} {p : Plugin} {t t' : Transcript} {b : Bool}
  {h h' : History} {directories : PluginDirectories}

/-- Two histories that differ in frames of some plugins only, up to a tick that brings data of
another one. The other tick brings data of the same plugin. The data is the same iff it is where the
vector is one that the plugins left over, and it is the same if no session of theirs was ended by an
operation that names them. -/
theorem isolation_iff (hf : (new directories).Follows h r) (hf' : (new directories).Follows h' r')
    (ht : Yields r.tick t (true, s)) (ht' : Yields r'.tick t' (b, s'))
    (hal : History.AlikeBut A (h ++ [(.tick, t)]) (h' ++ [(.tick, t')]))
    (hp : s.providing? = some p) (hA : ¬ A p.who) :
    b = true ∧ s'.providing?.map (·.who) = some p.who ∧
      (s.snapshot = s'.snapshot ↔
        ∀ y ∈ (Pose.writers (History.frames (h ++ [(.tick, t)]))).pairs
            (Pose.writers (History.frames (h' ++ [(.tick, t')]))),
          LeftOver A y.1 ∨ LeftOver A y.2 → Snapshot.shown y.1 = Snapshot.shown y.2) ∧
      ((∀ who, A who → ¬ Ousted directories h who) → s.snapshot = s'.snapshot) := by
  have hnew := consistent_new directories
  have hc := hf.consistent hnew
  obtain ⟨hal₀, -, htt⟩ := alike_concat hal
  obtain ⟨hb, hfr⟩ := hf.alike hf' hal₀
  obtain ⟨hgo, hbare, hfrt⟩ := tick_determined hc (hf'.consistent hnew) hb ht ht' htt
  obtain rfl : b = true := hgo.symm
  have hnext : (new directories).Follows (h ++ [(.tick, t)]) s :=
    hf.snoc (yields_map.2 ⟨_, rfl, ht⟩)
  have hnext' : (new directories).Follows (h' ++ [(.tick, t')]) s' :=
    hf'.snoc (yields_map.2 ⟨_, rfl, ht'⟩)
  -- the last frame of both is the same, because it is from another plugin
  obtain ⟨f, hft, hpr, hkeep⟩ : ∃ f, Transcript.frames t = [(p.who, f)] ∧ f.proceed = true ∧
      ∀ q, r.providing? = some q → q.who = p.who := by
    rcases tick_frames hc ht with ⟨hgo, -⟩ | ⟨-, q, f, hq, hft, hpr, -, hkeep⟩
    · simp at hgo
    · obtain rfl := Option.some.inj (hp.symm.trans hq)
      exact ⟨f, hft, hpr, hkeep⟩
  have hft' : Transcript.frames t' = [(p.who, f)] := by
    rw [hft] at hfrt
    exact (hfrt.eq_of_forall (by simpa using hA)).symm
  have hcarry : ∀ {g : History} {w : Transcript}, w.frames = [(p.who, f)] →
      History.frames (g ++ [(.tick, w)]) = g.frames ++ [(p.who, f)] := by
    intro g w hw
    simp [frames_concat, Operation.carry, hw, hpr]
  rw [hnext.snapshot_eq, hnext'.snapshot_eq, hcarry hft, hcarry hft']
  refine ⟨rfl, ?_, portray_eq_iff (List.rel_append hfr (.cons (.inl rfl) .nil)), fun hout => ?_⟩
  · rw [← providing_who_eq hbare, hp]
    rfl
  · -- a frame of one of the plugins would be from the provider, who is not one of them
    have hnone : ∀ x ∈ h.frames, ¬ A x.1 := by
      intro x hx hxA
      rcases hf.frames_inv hx with ⟨q, hq, hw⟩ | hx
      · exact hA (hkeep q hq ▸ hw ▸ hxA)
      · exact hout x.1 hxA hx
    rw [hfr.eq_of_forall hnone]

/-! ## Two plugins -/

/-- Worlds that answer alike leave alike histories of the same operations. -/
theorem alike_record_history {answer answer' : (q : Query) → q.Reply}
    (hans : ∀ q, (⟨q, answer q⟩ : Exchange).AlikeBut A ⟨q, answer' q⟩) (r r' : Registry)
    (ops : List Operation) :
    History.AlikeBut A (r.record answer ops).1 (r'.record answer' ops).1 := by
  induction ops generalizing r r' with
  | nil => exact .nil
  | cons op ops ih => exact .cons ⟨rfl, alike_record hans _ _⟩ (ih _ _)

end Registry

namespace Duo

/-- The first of the two plugins. -/
def IsFirst (who : Occupant) : Prop := who.source = .builtIn 0

/-- Only in the frames of the first plugin can it be seen where it puts the avatar. -/
theorem answer_alike (v v' : Vector3) (q : Query) :
    (⟨q, answer v q⟩ : Exchange).AlikeBut IsFirst ⟨q, answer v' q⟩ := by
  cases q with
  | plugin who c =>
    obtain ⟨n, source⟩ := who
    cases c with
    | fetchPositional =>
      cases source with
      | library path file => exact .same _
      | builtIn index =>
        cases index with
        | zero => exact .frame _ _ ⟨n, .builtIn 0⟩ _ _ rfl rfl rfl rfl rfl
        | succ index => exact .same _
    | _ => exact .same _
  | _ => exact .same _

/-- The first plugin was the provider and was forbidden. -/
def afterFirst (v : Vector3) : History × Registry := start.record (answer v) deposed

/-- The tick in which the second plugin takes its place. -/
def secondFetch (v : Vector3) : Transcript × (Bool × Registry) :=
  (afterFirst v).2.tick.record (answer v)

theorem follows_afterFirst (v : Vector3) : start.Follows (afterFirst v).1 (afterFirst v).2 :=
  Registry.follows_record (answer v) start deposed

/-- Somewhere else than in the origin. -/
def aside : Vector3 := ⟨.one, .zero, .zero⟩

/-- If the second tick succeeds it is a transcript that the registry can give. -/
theorem yields_secondFetch {v : Vector3} (h : (secondFetch v).2.1 = true) :
    Yields (afterFirst v).2.tick (secondFetch v).1 (true, (secondFetch v).2.2) := by
  have hpair : ∀ y : Bool × Registry, y.1 = true → (true, y.2) = y := by
    rintro ⟨_, s⟩ rfl
    rfl
  rw [hpair _ h]
  exact yields_record (answer v) (afterFirst v).2.tick

/-- The two histories that differ in where the first plugin put the avatar. -/
theorem history_alike : History.AlikeBut IsFirst
    ((afterFirst .zero).1 ++ [(.tick, (secondFetch .zero).1)])
    ((afterFirst aside).1 ++ [(.tick, (secondFetch aside).1)]) :=
  List.rel_append (Registry.alike_record_history (answer_alike .zero aside) _ _ _)
    (.cons ⟨rfl, alike_record (answer_alike .zero aside) _ _⟩ .nil)

/-- After the second tick the second plugin provides, whose frames are the same in both worlds. -/
theorem second_provides :
    ∃ p, (secondFetch .zero).2.2.providing? = some p ∧ ¬ IsFirst p.who := by
  have h : (secondFetch .zero).2.2.providing?.map (·.who.source) = some (.builtIn 1) := by
    decide +kernel
  obtain ⟨p, hp, hsource⟩ := Option.map_eq_some_iff.1 h
  exact ⟨p, hp, by simp [IsFirst, hsource]⟩

end Duo

namespace Registry

/-- The second plugin writes no vector, and its snapshot shows where the first put the avatar. -/
theorem left_over_shows :
    ∃ h h' r r' t t' s s' p,
      (new ⟨none, none⟩).Follows h r ∧ (new ⟨none, none⟩).Follows h' r' ∧
      Yields r.tick t (true, s) ∧ Yields r'.tick t' (true, s') ∧
      History.AlikeBut Duo.IsFirst (h ++ [(.tick, t)]) (h' ++ [(.tick, t')]) ∧
      s.providing? = some p ∧ ¬ Duo.IsFirst p.who ∧ s.snapshot ≠ s'.snapshot := by
  obtain ⟨p, hp, hA⟩ := Duo.second_provides
  refine ⟨_, _, _, _, _, _, _, _, p, Duo.follows_afterFirst .zero,
    Duo.follows_afterFirst Duo.aside, Duo.yields_secondFetch (by decide +kernel),
    Duo.yields_secondFetch (by decide +kernel), Duo.history_alike, hp, hA, ?_⟩
  decide +kernel

/-- The plugin that takes the place of the first is the same in both histories. -/
theorem isolation_iff_duo :
    ∃ p, (Duo.secondFetch .zero).2.2.providing? = some p ∧
      (Duo.secondFetch Duo.aside).2.2.providing?.map (·.who) = some p.who ∧
      ((Duo.secondFetch .zero).2.2.snapshot = (Duo.secondFetch Duo.aside).2.2.snapshot ↔
        ∀ y ∈ (Pose.writers (History.frames
              ((Duo.afterFirst .zero).1 ++ [(.tick, (Duo.secondFetch .zero).1)]))).pairs
            (Pose.writers (History.frames
              ((Duo.afterFirst Duo.aside).1 ++ [(.tick, (Duo.secondFetch Duo.aside).1)]))),
          LeftOver Duo.IsFirst y.1 ∨ LeftOver Duo.IsFirst y.2 →
            Snapshot.shown y.1 = Snapshot.shown y.2) := by
  obtain ⟨p, hp, hA⟩ := Duo.second_provides
  have hiff := isolation_iff (Duo.follows_afterFirst .zero) (Duo.follows_afterFirst Duo.aside)
    (Duo.yields_secondFetch (by decide +kernel)) (Duo.yields_secondFetch (by decide +kernel))
    Duo.history_alike hp hA
  exact ⟨p, hp, hiff.2.1, hiff.2.2.1⟩

end Registry

end PluginHost
