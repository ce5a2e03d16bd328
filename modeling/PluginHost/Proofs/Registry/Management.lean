import PluginHost.Proofs.Registry.Step

/-!
# Operations that manage plugins

Scanning, loading, unloading and forbidding, as sequences of steps.

* **`dropAll_steps`**, **`activateAll_steps`**, **`instantiateAll_steps`**: several plugins in a
  row, by induction on the list, from what happens to one.
* **`rescan_steps`**, **`load_steps`**, **`unload_steps`**, **`enableFor_steps`**: the operations,
  with what becomes of the provider and of the snapshot.
-/

namespace PluginHost

open Interaction Transcript

namespace Registry

variable {r s : Registry} {p q : Plugin} {t u : Transcript}

/-! ## Several plugins in a row -/

section
variable {o : Roster}

/-- Dropping some plugins of a roster is a sequence of steps after which exactly these are gone. -/
theorem dropAll_steps {ps : List Plugin} {x : Unit} (hc : o.Consistent)
    (hsub : ∀ p ∈ ps, p ∈ o.plugins) (hd : (ps.map (·.handle)).Nodup)
    (h : Yields (dropAll ps) t x) :
    ∃ n, (o.provider = none → n = none) ∧
      o.Steps t ⟨o.plugins.filter fun q => q.handle ∉ ps.map (·.handle), n⟩ := by
  induction ps generalizing o t with
  | nil =>
    obtain ⟨rfl, -⟩ := yields_done.1 h
    refine ⟨o.provider, id, ?_⟩
    simp only [List.map_nil, List.not_mem_nil, not_false_eq_true, decide_true, List.filter_true]
    exact .refl o
  | cons p ps ih =>
    obtain ⟨hfresh, hd'⟩ := List.nodup_cons.1 hd
    obtain ⟨u, v, _, rfl, h₁, h₂⟩ := yields_bind.1 h
    have hdrop := Roster.drop_steps hc (hsub p (by simp)) h₁
    -- letting go of one leaves the others as they are
    obtain ⟨n, hn, hrest⟩ := ih (hdrop.consistent hc) (fun q hq => Roster.mem_remove.2
      ⟨hsub q (List.mem_cons_of_mem p hq), fun e => hfresh (List.mem_map.2 ⟨q, hq, e⟩)⟩) hd' h₂
    refine ⟨n, fun hnone => hn (by simp [hnone]), ?_⟩
    have hfilter : (o.remove p.handle).plugins.filter (fun q => q.handle ∉ ps.map (·.handle)) =
        o.plugins.filter fun q => q.handle ∉ (p :: ps).map (·.handle) := by
      rw [Roster.remove, List.filter_filter]
      apply List.filter_congr
      intro q _
      by_cases hq : q.handle = p.handle <;> simp [hq]
    rw [← hfilter]
    exact hdrop.trans hrest

/-- Activating a plugin of a roster is a sequence of steps. -/
theorem activated_steps {allowed : Bool} {x : Except PluginError Status × Plugin}
    (hc : o.Consistent) (hp : p ∈ o.plugins) (h : p.Activated allowed t x) :
    o.Steps t (o.update x.2) := by
  have hasked : ∀ v, o.Step (p.heard .apiVersion .apiVersion v) o := fun v =>
    .unchanged hc hp (.described _ (Plugin.descriptive_heard rfl))
  cases h with
  | already hl =>
    rw [hc.update_self hp]
    exact .refl o
  | unsupported hl v hv =>
    rw [hc.update_self hp]
    exact .of_step (hasked v)
  | refused hl v status hs he =>
    rw [hc.update_self hp]
    exact (Steps.of_step (hasked v)).trans
      (.of_step (.unchanged hc hp (.refused hl status hs he)))
  | started hl v status hs =>
    obtain ⟨-, ha⟩ := (hc.sound p hp).flags_of_unloaded hl
    -- first it starts, and then it gets or loses the permission
    let q : Plugin := { p with loaded := true }
    have hstart : o.Step (p.activation status) (o.update q) :=
      .change p q _ hp (.started hl status hs)
    have hq : q ∈ (o.update q).plugins := Roster.mem_update.2 (.inr ⟨rfl, p, hp, rfl⟩)
    have hperm : (o.update q).Step [] ((o.update q).update { q with enabled := allowed }) := by
      cases allowed with
      | true => exact .change q _ [] hq (.permitted rfl)
      | false => exact .change q _ [] hq (.forbidden ha)
    have hmerge : (o.update q).update { q with enabled := allowed } =
        o.update { q with enabled := allowed } := Roster.update_update rfl
    rw [hmerge] at hperm
    exact (Steps.of_step (hasked v)).trans
      (by simpa using (Steps.of_step hstart).trans (.of_step hperm))

/-- In a consistent roster an update replaces the one plugin whose handle it has. -/
theorem update_middle {done ps : List Plugin} {n : Option Nat} (hc : Roster.Consistent o)
    (ho : o = ⟨done ++ p :: ps, n⟩) (hh : q.handle = p.handle) :
    o.update q = ⟨done ++ q :: ps, n⟩ := by
  subst ho
  have hd := hc.distinct
  simp only [List.map_append, List.map_cons, List.nodup_append, List.nodup_cons] at hd
  obtain ⟨-, ⟨hps, -⟩, hdone⟩ := hd
  -- no other plugin has the handle, so the others stay
  have hkeep : ∀ qs : List Plugin, (∀ q' ∈ qs, q'.handle ≠ p.handle) →
      qs.map (fun q' => if q'.handle = q.handle then q else q') = qs := by
    intro qs hqs
    conv_rhs => rw [← List.map_id qs]
    apply List.map_congr_left
    intro q' hq'
    rw [hh, if_neg (hqs q' hq')]
    rfl
  simp only [Roster.update, List.map_append, List.map_cons, Roster.mk.injEq, and_true]
  rw [hkeep done, hkeep ps, if_pos hh.symm]
  · exact fun q' hq' e => hps (List.mem_map.2 ⟨q', hq', e⟩)
  · exact fun q' hq' => hdone _ (List.mem_map_of_mem hq') _ (by simp)

/-- Activating plugins in turn is a sequence of steps. The induction moves the boundary between
those that are done and those that are left. -/
theorem activateAll_steps {allowed : Bool} {done ps qs : List Plugin} {n : Option Nat}
    (hc : Roster.Consistent ⟨done ++ ps, n⟩) (h : Yields (activateAll allowed ps) t qs) :
    Roster.Steps ⟨done ++ ps, n⟩ t ⟨done ++ qs, n⟩ := by
  induction ps generalizing done t qs with
  | nil =>
    obtain ⟨rfl, rfl⟩ := yields_traverse_nil.1 h
    exact .refl _
  | cons p ps ih =>
    obtain ⟨u, v, q, qs, rfl, rfl, h₁, h₂⟩ := yields_traverse_cons.1 h
    obtain ⟨x, rfl, h₃⟩ := yields_map.1 h₁
    have hp : p ∈ (Roster.mk (done ++ p :: ps) n).plugins := by simp
    have hact := Plugin.activate_inv (hc.sound p hp) h₃
    have hstep := activated_steps hc hp hact
    rw [update_middle hc rfl hact.handle_eq] at hstep
    have hc' : Roster.Consistent ⟨(done ++ [x.2]) ++ ps, n⟩ := by
      simpa using hstep.consistent hc
    have hrest := ih hc' h₂
    simp only [List.append_assoc, List.singleton_append] at hrest
    exact hstep.trans hrest

/-! ## Identities that are found twice -/

theorem displaced_sublist (ps : List Plugin) : (displaced ps).Sublist ps := by
  induction ps with
  | nil => exact .slnil
  | cons p ps ih =>
    unfold displaced
    split
    · exact ih.cons_cons p
    · exact ih.cons p

/-- What is kept is what does not give way. -/
theorem latest_eq_filter {ps : List Plugin} (hd : (ps.map (·.handle)).Nodup) :
    latest ps = ps.filter fun q => q.handle ∉ (displaced ps).map (·.handle) := by
  induction ps with
  | nil => rfl
  | cons p ps ih =>
    obtain ⟨hfresh, hd'⟩ := List.nodup_cons.1 hd
    unfold latest displaced
    split
    · -- a later plugin has the same identity
      rw [ih hd', List.filter_cons_of_neg (by simp)]
      apply List.filter_congr
      intro q hq
      have hne : q.handle ≠ p.handle := fun e => hfresh (List.mem_map.2 ⟨q, hq, e⟩)
      simp [hne]
    · have hp : p.handle ∉ (displaced ps).map (·.handle) := fun h =>
        hfresh (((displaced_sublist ps).map _).subset h)
      rw [ih hd', List.filter_cons_of_pos (by simpa using hp)]

end

/-! ## Creation -/

/-- Creating a plugin is one step; what comes of it is in the ledger and, if it is valid, in the
roster. -/
theorem created_step {source : Source} {generation : Generation}
    {x : Except PluginError Plugin × Ledger}
    (h : Plugin.Created source generation r.ledger t x) :
    r.Step t { r with
      ledger := x.2
      roster := ⟨r.roster.plugins ++ x.1.toOption.toList, r.roster.provider⟩ } := by
  cases h with
  | failed e l ht hl =>
    have hl' : l.nextHandle = r.ledger.nextHandle + 1 := by
      rcases hl with rfl | rfl <;> rfl
    simpa [Except.toOption] using Step.failed _ t l ht rfl hl'
  | born p hp hw hi hg =>
    exact .born p t _ hp (congrArg Occupant.handle hw) rfl

/-- The same for a file that is tried as one generation after the other. -/
theorem instantiate_steps {fs : FileSystem} {path : Path} {x : Option Plugin × Ledger}
    (h : Yields (instantiate fs r.ledger path) t x) :
    r.Steps t { r with
      ledger := x.2, roster := ⟨r.roster.plugins ++ x.1.toList, r.roster.provider⟩ } := by
  obtain ⟨_, _, ⟨result, l⟩, rfl, h₁, h₂⟩ := yields_bind.1 h
  have hfirst := created_step (Plugin.create_inv h₁)
  cases result with
  | ok p =>
    obtain ⟨rfl, rfl⟩ := yields_done.1 h₂
    rw [List.append_nil]
    exact .of_step hfirst
  | error e =>
    -- what is no plugin of the current interface may be one of the older
    obtain ⟨_, _, ⟨result, l'⟩, rfl, h₃, h₄⟩ := yields_bind.1 h₂
    obtain ⟨rfl, rfl⟩ := yields_done.1 h₄
    have hsecond := created_step (r := { r with ledger := l }) (Plugin.create_inv h₃)
    rw [List.append_nil]
    refine (Steps.of_step ?_).trans (.of_step hsecond)
    simpa [Except.toOption] using hfirst

/-- The same for the files of a scan. -/
theorem instantiateAll_steps {fs : FileSystem} {paths : List Path} {x : List Plugin × Ledger}
    (h : Yields (instantiateAll fs r.ledger paths) t x) :
    r.Steps t { r with
      ledger := x.2, roster := ⟨r.roster.plugins ++ x.1, r.roster.provider⟩ } := by
  induction paths generalizing r t x with
  | nil =>
    obtain ⟨rfl, rfl⟩ := yields_done.1 h
    simpa using Steps.refl r
  | cons path paths ih =>
    obtain ⟨_, _, ⟨p, l⟩, rfl, h₁, h₂⟩ := yields_bind.1 h
    obtain ⟨_, _, ⟨ps, l'⟩, rfl, h₃, h₄⟩ := yields_bind.1 h₂
    obtain ⟨rfl, rfl⟩ := yields_done.1 h₄
    have hfirst := instantiate_steps h₁
    have hrest := ih (r := { r with
      ledger := l, roster := ⟨r.roster.plugins ++ p.toList, r.roster.provider⟩ }) h₃
    rw [List.append_nil]
    simpa only [List.append_assoc] using hfirst.trans hrest

/-- The same for the built-in plugins. -/
theorem instantiateBuiltIns_steps {index : Nat} {bs : List BuiltIn} {x : List Plugin × Ledger}
    (h : Yields (instantiateBuiltIns index r.ledger bs) t x) :
    r.Steps t { r with
      ledger := x.2, roster := ⟨r.roster.plugins ++ x.1, r.roster.provider⟩ } := by
  induction bs generalizing r t x index with
  | nil =>
    obtain ⟨rfl, rfl⟩ := yields_done.1 h
    simpa using Steps.refl r
  | cons b bs ih =>
    obtain ⟨_, _, ⟨p, l⟩, rfl, h₁, h₂⟩ := yields_bind.1 h
    obtain ⟨_, _, ⟨ps, l'⟩, rfl, h₃, h₄⟩ := yields_bind.1 h₂
    obtain ⟨rfl, rfl⟩ := yields_done.1 h₄
    have hfirst := Steps.of_step (created_step (Plugin.create_inv h₁))
    have hrest := ih (r := { r with
      ledger := l, roster := ⟨r.roster.plugins ++ p.toOption.toList, r.roster.provider⟩ }) h₃
    rw [List.append_nil]
    simpa only [List.append_assoc] using hfirst.trans hrest

/-! ## Operations that fetch nothing -/

/-- Nobody is left when all plugins have been let go of. -/
theorem clear_steps {o o' : Roster} {x : Unit} (hc : o.Consistent) (h₁ : Yields o.release t o')
    (h₂ : Yields (dropAll o'.plugins) u x) : o.Steps (t ++ u) ⟨[], none⟩ := by
  obtain ⟨hrelease, hnone⟩ := Roster.release_steps hc h₁
  have ho' := hrelease.consistent hc
  obtain ⟨n, hn, hdrop⟩ := dropAll_steps ho' (fun p hp => hp) ho'.distinct h₂
  obtain rfl := hn hnone
  have hempty : o'.plugins.filter (fun q => q.handle ∉ o'.plugins.map (·.handle)) = [] := by
    apply List.filter_eq_nil_iff.2
    intro q hq
    simpa using ⟨q, hq, rfl⟩
  rw [hempty] at hdrop
  exact hrelease.trans hdrop

/-- After a scan there is no provider, and the snapshot is zeroed. -/
theorem rescan_steps {fs : FileSystem} {x : Nat × Registry} (hc : r.Consistent)
    (h : Yields (rescan fs r) t x) :
    r.Steps t x.2 ∧ x.2.roster.provider = none ∧ x.2.snapshot = .zeroed := by
  obtain ⟨t₁, _, o, rfl, h₁, h⟩ := yields_bind.1 h
  obtain ⟨t₂, _, _, rfl, h₂, h⟩ := yields_bind.1 h
  obtain ⟨t₃, _, ⟨libraries, l⟩, rfl, h₃, h⟩ := yields_bind.1 h
  obtain ⟨t₄, _, ⟨hosted, l'⟩, rfl, h₄, h⟩ := yields_bind.1 h
  obtain ⟨t₅, _, found, rfl, h₅, h⟩ := yields_bind.1 h
  obtain ⟨t₆, _, _, rfl, h₆, h⟩ := yields_bind.1 h
  obtain ⟨rfl, rfl⟩ := yields_done.1 h
  refine ⟨?_, rfl, rfl⟩
  -- everybody goes, and what the directories and the host have comes
  have hclear : r.Steps (t₁ ++ t₂) { r with roster := ⟨[], none⟩ } :=
    .of_roster (clear_steps hc.roster h₁ h₂)
  have hlibs : Steps { r with roster := ⟨[], none⟩ } t₃
      { r with ledger := l, roster := ⟨libraries, none⟩ } :=
    instantiateAll_steps (r := { r with roster := ⟨[], none⟩ }) h₃
  have hhost : Steps { r with ledger := l, roster := ⟨libraries, none⟩ } t₄
      { r with ledger := l', roster := ⟨libraries ++ hosted, none⟩ } :=
    instantiateBuiltIns_steps (r := { r with ledger := l, roster := ⟨libraries, none⟩ }) h₄
  have hborn := (hclear.trans hlibs).trans hhost
  have hc₁ : Roster.Consistent ⟨[] ++ (libraries ++ hosted), none⟩ :=
    (Steps.consistent hborn hc).roster
  -- whoever came is activated
  have hact : Roster.Steps ⟨libraries ++ hosted, none⟩ t₅ ⟨found, none⟩ :=
    activateAll_steps hc₁ h₅
  have hc₂ : Roster.Consistent ⟨found, none⟩ := hact.consistent hc₁
  -- of plugins with one identity the last stays
  obtain ⟨n, hn, hdis⟩ := dropAll_steps hc₂
    (fun p hp => (displaced_sublist found).subset hp)
    (hc₂.distinct.sublist ((displaced_sublist found).map _)) h₆
  obtain rfl := hn rfl
  have hkept : Roster.Steps ⟨found, none⟩ t₆ ⟨latest found, none⟩ := by
    rw [latest_eq_filter hc₂.distinct]
    exact hdis
  have hfilled : Steps { r with ledger := l', roster := ⟨libraries ++ hosted, none⟩ } (t₅ ++ t₆)
      { r with ledger := l', roster := ⟨latest found, none⟩ } := .of_roster (hact.trans hkept)
  simpa only [List.append_assoc, List.append_nil] using (hborn.trans hfilled).tail .zeroed

/-- Loading leaves the place and the snapshot alone. -/
theorem load_steps {id : PluginId} {x : Except PluginError Status × Registry} (hc : r.Consistent)
    (h : Yields (r.load id) t x) :
    r.Steps t x.2 ∧ x.2.roster.provider = r.roster.provider ∧ x.2.snapshot = r.snapshot := by
  unfold load at h
  split at h
  · obtain ⟨rfl, rfl⟩ := yields_done.1 h
    exact ⟨.refl _, rfl, rfl⟩
  · rename_i p hp
    obtain ⟨hmem, -⟩ := Roster.mem_of_byId? hp
    obtain ⟨_, _, y, rfl, h₁, h₂⟩ := yields_bind.1 h
    obtain ⟨rfl, rfl⟩ := yields_done.1 h₂
    rw [List.append_nil]
    exact ⟨.of_roster (activated_steps hc.roster hmem
      (Plugin.activate_inv (hc.roster.sound p hmem) h₁)), rfl, rfl⟩

/-- The identity of the provider. -/
def providerId (r : Registry) : Option PluginId := r.providing?.map (·.id)

theorem providerId_ne {id : PluginId} (h : r.byId? id = none) : r.providerId ≠ some id := by
  intro he
  obtain ⟨p, hp, rfl⟩ := Option.map_eq_some_iff.1 he
  obtain ⟨n, -, hf⟩ := Option.bind_eq_some_iff.1 hp
  have := List.find?_eq_none.1 h p (Roster.mem_of_find? hf).1
  simp at this

/-- Shutting a plugin down that is not the provider. -/
theorem shutdown_steps {o : Roster} (hc : o.Consistent) (hp : p ∈ o.plugins)
    (ha : p.active = false) (h : Yields p.shutdown t q) : o.Steps t (o.update q) := by
  obtain ⟨rfl, rfl⟩ := Plugin.shutdown_inv (hc.sound p hp) h
  cases hl : p.loaded with
  | true =>
    rw [Plugin.closing_of_inactive hl ha]
    exact .of_step (.change p _ _ hp (.closed hl ha))
  | false =>
    rw [(hc.sound p hp).asleep_eq hl, hc.update_self hp]
    simpa [Plugin.closing, hl] using Steps.refl o

/-- After the session of a provider with the identity has been ended, nobody with it is active. -/
theorem inactive_of_releaseIf {id : PluginId} {x : Bool × Roster} (hc : r.Consistent)
    (h : Yields (r.roster.releaseIf id) t x) :
    r.roster.Steps t x.2 ∧
      x.2.provider = (if r.providerId = some id then none else r.roster.provider) ∧
      ∀ p ∈ x.2.plugins, p.id = id → p.active = false := by
  rcases Roster.releaseIf_steps hc.roster h with ⟨hs, hn, p, hp, hid⟩ | ⟨rfl, hx, hother⟩
  · have hid' : r.providerId = some id := by simp [providerId, providing?, hp, hid]
    refine ⟨hs, by rw [hn, if_pos hid'], fun q hq _ => ?_⟩
    have := (hs.consistent hc.roster).held q hq
    simpa [hn] using this
  · have hid' : r.providerId ≠ some id := by
      intro he
      obtain ⟨p, hp, hid⟩ := Option.map_eq_some_iff.1 he
      exact hother p hp hid
    refine ⟨by rw [hx]; exact .refl _, by rw [hx, if_neg hid'], fun q hq hid => ?_⟩
    rw [hx] at hq
    cases ha : q.active with
    | false => rfl
    | true => exact absurd hid (hother q (hc.roster.providing?_eq_some.2 ⟨hq, ha⟩))

/-- Shutting the provider down ends its session, and leaves the snapshot as it is. -/
theorem unload_steps {id : PluginId} {x : Except PluginError Unit × Registry} (hc : r.Consistent)
    (h : Yields (r.unload id) t x) :
    r.Steps t x.2 ∧ x.2.snapshot = r.snapshot ∧
      x.2.roster.provider = if r.providerId = some id then none else r.roster.provider := by
  unfold unload at h
  split at h
  · rename_i hp
    obtain ⟨rfl, rfl⟩ := yields_done.1 h
    exact ⟨.refl _, rfl, by rw [if_neg (providerId_ne hp)]⟩
  · obtain ⟨_, _, ⟨released, o⟩, rfl, h₁, h₂⟩ := yields_bind.1 h
    obtain ⟨hs, hn, hid⟩ := inactive_of_releaseIf hc h₁
    dsimp only at hs hn hid h₂
    split at h₂
    · obtain ⟨rfl, rfl⟩ := yields_done.1 h₂
      rw [List.append_nil]
      exact ⟨.of_roster hs, rfl, hn⟩
    · -- its session is over, so the shutdown is nothing but a shutdown
      rename_i p hp
      obtain ⟨hmem, hpid⟩ := Roster.mem_of_byId? hp
      obtain ⟨_, _, q, rfl, h₃, h₄⟩ := yields_bind.1 h₂
      obtain ⟨rfl, rfl⟩ := yields_done.1 h₄
      have hdown := shutdown_steps (hs.consistent hc.roster) hmem (hid p hmem hpid) h₃
      rw [List.append_nil]
      exact ⟨.of_roster (hs.trans hdown), rfl, hn⟩

/-- Forbidding the provider ends its session, and leaves the snapshot as it is. -/
theorem enableFor_steps {id : PluginId} {on : Bool} (hc : r.Consistent)
    (h : Yields (r.enableFor id on) t s) :
    r.Steps t s ∧ s.snapshot = r.snapshot ∧
      s.roster.provider =
        if on = false ∧ r.providerId = some id then none else r.roster.provider := by
  unfold enableFor at h
  split at h
  · rename_i hp
    obtain ⟨rfl, rfl⟩ := yields_done.1 h
    exact ⟨.refl _, rfl, by rw [if_neg fun e => providerId_ne hp e.2]⟩
  · cases on with
    | true =>
      rename_i p hp
      obtain ⟨hmem, hpid⟩ := Roster.mem_of_byId? hp
      simp only [if_true, pure_eq_done, bind_eq, done_bind] at h
      rw [show r.roster.byId? id = some p from hp] at h
      obtain ⟨_, _, q, rfl, h₁, h₂⟩ := yields_bind.1 h
      obtain ⟨rfl, rfl⟩ := yields_done.1 h₂
      obtain ⟨rfl, rfl⟩ := Plugin.enable_true_inv h₁
      refine ⟨.of_roster ?_, rfl, rfl⟩
      split
      · rename_i hl
        exact .of_step (.change p _ [] hmem (.permitted hl))
      · rw [hc.roster.update_self hmem]
        exact .refl _
    | false =>
      obtain ⟨_, _, o, rfl, h₁, h₂⟩ := yields_bind.1 h
      obtain ⟨x, rfl, h₃⟩ := yields_map.1 h₁
      obtain ⟨hs, hn, hid⟩ := inactive_of_releaseIf hc h₃
      simp only [true_and]
      dsimp only at h₂
      split at h₂
      · obtain ⟨rfl, rfl⟩ := yields_done.1 h₂
        rw [List.append_nil]
        exact ⟨.of_roster hs, rfl, hn⟩
      · rename_i p hp
        obtain ⟨hmem, hpid⟩ := Roster.mem_of_byId? hp
        obtain ⟨_, _, q, rfl, h₄, h₅⟩ := yields_bind.1 h₂
        obtain ⟨rfl, rfl⟩ := yields_done.1 h₅
        obtain ⟨rfl, rfl⟩ := Plugin.enable_false_inv h₄
        have ha := hid p hmem hpid
        have hforb := Roster.Step.change (r := x.2) p _ [] hmem (.forbidden ha)
        rw [ha] at hforb
        rw [Plugin.farewell_of_inactive ha, List.append_nil]
        exact ⟨.of_roster (by simpa using hs.trans (.of_step hforb)), rfl, hn⟩

end Registry

end PluginHost
