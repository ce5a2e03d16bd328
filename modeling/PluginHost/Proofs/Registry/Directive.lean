import PluginHost.Proofs.Apart
import PluginHost.Proofs.Registry.Identity
import PluginHost.Proofs.Registry.Notes
import PluginHost.Proofs.Registry.Twins

/-!
# One plugin at a time

A host loads, unloads, allows and forbids plugins by their identities. Such an operation is a matter
between the registry and the one plugin.

* **`Directive`**: these operations. **`Directive.carryOut`**: what is done with the plugin.
* **`Registry.settle`**: the registry with what became of the plugin.
* **`errand_eq_none`**, **`errand_eq_some`**: on a registry that was reached an operation is
  nothing, or `carryOut` and then `settle`.
* **`Registry.Confined`**, **`errand_confined`**: what such an operation touches, and what it
  leaves.
* **`settle_comm`**, **`both_comm`**: operations on two plugins.
* **`one_at_a_time`**: this holds after every history.
-/

namespace PluginHost

open Interaction Transcript

/-! ## Directives -/

/-- What a host does with one of its plugins. -/
inductive Directive where
  | load
  | unload
  | enable (on : Bool)
deriving DecidableEq, Repr

namespace Directive

/-- The operation on the plugin with an identity. -/
def errand (id : PluginId) : Directive → Errand
  | load => .load id
  | unload => .unload id
  | enable on => .enableFor id on

/-- What is returned if no plugin has the identity. -/
def missing (id : PluginId) : Directive → Outcome
  | load => .loaded (.error (.notFound id))
  | unload => .unloaded (.error (.notFound id))
  | enable _ => .toggled

/-- What is returned if there is nothing to be done. -/
def idle : Directive → Outcome
  | load => .loaded (.ok .ok)
  | unload => .unloaded (.ok ())
  | enable _ => .toggled

/-- The plugin does not provide positional data any more afterwards. -/
def releases : Directive → Bool
  | load => false
  | unload => true
  | enable on => !on

/-- What is done with the plugin once it does not provide. -/
def act (allowed : Bool) (p : Plugin) : Directive → Interaction (Outcome × Plugin)
  | load => do
    let (result, p) ← Registry.activate allowed p
    return (.loaded result, p)
  | unload => do
    let p ← p.shutdown
    return (.unloaded (.ok ()), p)
  | enable on => do
    let p ← p.enable on
    return (.toggled, p)

/-- A plugin that may not provide any more is told to stop. -/
def prepare (p : Plugin) (d : Directive) : Interaction Plugin :=
  if d.releases then p.stopPositional else pure p

/-- What is done with the plugin. -/
def carryOut (allowed : Bool) (p : Plugin) (d : Directive) : Interaction (Outcome × Plugin) := do
  let p ← d.prepare p
  d.act allowed p

end Directive

namespace Registry

/-- The registry with what a directive made of one of its plugins. -/
def settle (r : Registry) (d : Directive) (q : Plugin) : Registry :=
  { r with
    roster := { r.roster.update q with
      provider := if d.releases ∧ r.roster.provider = some q.handle then none
        else r.roster.provider } }

end Registry

/-! ## The plugin -/

namespace Plugin

variable {p q : Plugin}

theorem handle_of_newborn (h : q.newborn = p.newborn) : q.handle = p.handle := by
  rw [← handle_newborn, h, handle_newborn]

theorem id_of_newborn (h : q.newborn = p.newborn) : q.id = p.id := by
  rw [← id_newborn, h, id_newborn]

end Plugin

namespace Directive

variable {d : Directive} {allowed : Bool} {p : Plugin} {t : Transcript} {x : Outcome × Plugin}

/-- Nobody else is asked. -/
theorem addresses_act : Addresses p.handle (d.act allowed p) := by
  cases d with
  | load => exact Plugin.addresses_activate.bind fun _ _ _ => addresses_done
  | unload => exact Plugin.addresses_shutdown.bind fun _ _ _ => addresses_done
  | enable on => exact Plugin.addresses_enable.bind fun _ _ _ => addresses_done

/-- Beforehand, at most the session of the plugin ends. -/
theorem prepare_inv {q : Plugin} (h : Yields (d.prepare p) t q) :
    t.Concerns p.handle ∧ (q = p ∨ q = { p with active := false }) := by
  unfold prepare at h
  split at h
  · obtain ⟨rfl, rfl⟩ := Plugin.stopPositional_inv h
    exact ⟨Plugin.concerns_farewell, .inr rfl⟩
  · obtain ⟨rfl, rfl⟩ := yields_done.1 h
    exact ⟨concerns_nil, .inl rfl⟩

/-- Nobody else is asked. -/
theorem addresses_carryOut : Addresses p.handle (d.carryOut allowed p) := by
  refine Addresses.bind (fun t q h => (prepare_inv h).1) fun t q h => ?_
  have hh : q.handle = p.handle := by obtain rfl | rfl := (prepare_inv h).2 <;> rfl
  rw [← hh]
  exact addresses_act

/-- It stays the plugin that it was created as, whatever is done with it. -/
theorem act_newborn (hs : p.Sound) (h : Yields (d.act allowed p) t x) :
    x.2.newborn = p.newborn := by
  cases d with
  | load =>
    obtain ⟨_, _, y, rfl, h₁, h₂⟩ := yields_bind.1 h
    rw [(yields_done.1 h₂).2]
    cases Plugin.activate_inv hs h₁ <;> rfl
  | unload =>
    obtain ⟨_, _, y, rfl, h₁, h₂⟩ := yields_bind.1 h
    rw [(yields_done.1 h₂).2, (Plugin.shutdown_inv hs h₁).2]
    rfl
  | enable on =>
    obtain ⟨_, _, y, rfl, h₁, h₂⟩ := yields_bind.1 h
    rw [(yields_done.1 h₂).2, Plugin.enable_result h₁]
    unfold Plugin.toggled
    repeat' split
    all_goals rfl

/-- It stays the plugin that it was created as. -/
theorem carryOut_newborn (hs : p.Sound) (h : Yields (d.carryOut allowed p) t x) :
    x.2.newborn = p.newborn := by
  obtain ⟨_, _, q, rfl, h₁, h₂⟩ := yields_bind.1 h
  obtain rfl | rfl := (prepare_inv h₁).2
  · exact act_newborn hs h₂
  · exact act_newborn (p := { p with active := false }) hs.deactivated h₂

/-- A plugin that could not be loaded because of an error is as it was. -/
theorem eq_of_error {e : PluginError} {q : Plugin} (hs : p.Sound)
    (h : Yields (d.carryOut allowed p) t (.loaded (.error e), q)) : d = .load ∧ q = p := by
  obtain ⟨_, _, p', rfl, h₁, h₂⟩ := yields_bind.1 h
  cases d with
  | load =>
    obtain ⟨-, rfl⟩ := yields_done.1 h₁
    obtain ⟨_, _, y, rfl, h₃, h₄⟩ := yields_bind.1 h₂
    obtain ⟨-, hy⟩ := yields_done.1 h₄
    obtain ⟨result, p'⟩ := y
    obtain ⟨hresult, rfl⟩ := Prod.mk.inj hy
    obtain rfl := Outcome.loaded.inj hresult
    cases Plugin.activate_inv hs h₃ with
    | unsupported => exact ⟨rfl, rfl⟩
  | unload | enable =>
    obtain ⟨_, _, y, rfl, -, h₄⟩ := yields_bind.1 h₂
    obtain ⟨-, hy⟩ := yields_done.1 h₄
    cases (Prod.mk.inj hy).1

end Directive

/-! ## The registry -/

namespace Roster

variable {r : Roster} {p : Plugin} {id : PluginId}

/-- After an update with a plugin of the same identity it is found under the identity. -/
theorem byId?_update {q : Plugin} (hc : r.Consistent) (hi : (r.plugins.map (·.id)).Nodup)
    (hp : r.byId? id = some p) (hh : q.handle = p.handle) (hid : q.id = p.id) :
    (r.update q).byId? id = some q := by
  obtain ⟨hmem, rfl⟩ := mem_of_byId? hp
  refine (byId?_eq_some ?_).2 ⟨mem_update.2 (.inr ⟨rfl, p, hmem, hh.symm⟩), hid⟩
  rw [map_update hc hmem hh hid]
  exact hi

/-- Updates with two plugins can be made in either order. -/
theorem update_comm {q : Plugin} (hne : p.handle ≠ q.handle) :
    (r.update p).update q = (r.update q).update p := by
  simp only [update, List.map_map, Roster.mk.injEq, and_true]
  refine List.map_congr_left fun o _ => ?_
  by_cases hp : o.handle = p.handle
  · simp [hp, hne]
  · by_cases hq : o.handle = q.handle
    · simp [hq, hne.symm]
    · simp [hp, hq]

/-- The provider is found by its identity only when it is the plugin itself. -/
theorem releaseIf_bind {α : Type} (f : Roster → Interaction α) (hc : r.Consistent)
    (hi : (r.plugins.map (·.id)).Nodup) (hp : r.byId? id = some p) :
    (r.releaseIf id).bind (fun x => f x.2) =
      p.stopPositional.bind fun q =>
        f { r.update q with
          provider := if r.provider = some p.handle then none else r.provider } := by
  obtain ⟨hmem, rfl⟩ := mem_of_byId? hp
  cases ha : p.active with
  | true =>
    have hprovider : r.providing? = some p := hc.providing?_eq_some.2 ⟨hmem, ha⟩
    rw [releaseIf, hprovider]
    dsimp only
    rw [if_pos rfl, release, hprovider, if_pos ((hc.held p hmem).1 ha)]
    simp only [bind_eq, pure_eq_done, bind_assoc, done_bind]
  | false =>
    -- another plugin provides, or nobody
    have hplace : ¬ r.provider = some p.handle := fun h => by simp [(hc.held p hmem).2 h] at ha
    have hkept : r.releaseIf p.id = .done (false, r) := by
      unfold releaseIf
      cases hprovider : r.providing? with
      | none => rfl
      | some p' =>
        obtain ⟨hmem', ha'⟩ := hc.providing?_eq_some.1 hprovider
        refine if_neg fun hid => ?_
        obtain rfl := List.inj_on_of_nodup_map hi hmem' hmem hid
        simp [ha] at ha'
    rw [hkept, Plugin.stopPositional, ha, if_neg hplace]
    simp only [pure_eq_done, done_bind, Bool.not_false, if_true, hc.update_self hmem]

end Roster

namespace Registry

variable {r s : Registry} {p : Plugin} {id : PluginId} {d : Directive} {t : Transcript}

/-- The second half of an operation, with the roster that the first half leaves. -/
def finish (r : Registry) (d : Directive) (id : PluginId) (o : Roster) :
    Interaction (Outcome × Registry) :=
  match o.byId? id with
  | none => .done (d.idle, { r with roster := o })
  | some p =>
    (d.act r.positionalDefault p).bind fun x => .done (x.1, { r with roster := o.update x.2 })

/-- The second half of an operation, if the plugin is still there. -/
theorem finish_eq {o : Roster} (hp : o.byId? id = some p) :
    r.finish d id o =
      (d.act r.positionalDefault p).bind fun x =>
        .done (x.1, { r with roster := o.update x.2 }) := by
  rw [finish, hp]

/-- With an unknown identity nothing is asked and nothing changes. -/
theorem errand_eq_none (hp : r.byId? id = none) :
    (d.errand id).perform r = .done (d.missing id, r) := by
  cases d with
  | load => simp [Directive.errand, Errand.perform, load, hp, Directive.missing]
  | unload => simp [Directive.errand, Errand.perform, unload, hp, Directive.missing]
  | enable on => simp [Directive.errand, Errand.perform, enableFor, hp, Directive.missing]

/-- Only a directive that ends sessions looks for the provider. -/
theorem errand_eq_finish (hp : r.byId? id = some p) :
    (d.errand id).perform r =
      if d.releases then (r.roster.releaseIf id).bind fun x => r.finish d id x.2
      else r.finish d id r.roster := by
  have hp' : r.roster.byId? id = some p := hp
  cases d with
  | load =>
    rw [finish_eq hp']
    simp only [Directive.errand, Errand.perform, load, hp, Directive.act, bind_eq, pure_eq_done,
      Interaction.bind_assoc, done_bind]
    rfl
  | unload =>
    simp only [Directive.errand, Errand.perform, unload, hp, bind_eq, pure_eq_done,
      Interaction.bind_assoc]
    refine bind_congr_yields fun t x hx => ?_
    unfold finish
    cases x.2.byId? id with
    | none => rfl
    | some p => simp only [Directive.act, bind_eq, pure_eq_done, Interaction.bind_assoc, done_bind]
  | enable on =>
    cases on with
    | true =>
      rw [show Directive.releases (.enable true) = false from rfl, if_neg Bool.false_ne_true,
        finish_eq hp']
      simp only [Directive.errand, Errand.perform, enableFor, hp, hp', Directive.act, if_true,
        bind_eq, pure_eq_done, Interaction.bind_assoc, done_bind]
    | false =>
      simp only [Directive.errand, Errand.perform, enableFor, hp, Bool.false_eq_true, if_false,
        map_eq_bind, bind_eq, pure_eq_done, Interaction.bind_assoc, done_bind]
      refine bind_congr_yields fun t x hx => ?_
      unfold finish
      cases x.2.byId? id with
      | none => rfl
      | some p =>
        simp only [Directive.act, bind_eq, pure_eq_done, Interaction.bind_assoc, done_bind]

/-- An operation on a registered plugin is what is done with the plugin, and the registry takes note
of it. Nobody else was told to stop, because a provider with the identity is this plugin. -/
theorem errand_eq_some (hc : r.Consistent) (hi : (r.plugins.map (·.id)).Nodup)
    (hp : r.byId? id = some p) :
    (d.errand id).perform r =
      (d.carryOut r.positionalDefault p).bind fun x => .done (x.1, r.settle d x.2) := by
  obtain ⟨hmem, -⟩ := Roster.mem_of_byId? hp
  rw [errand_eq_finish hp, Directive.carryOut, bind_eq, Interaction.bind_assoc, Directive.prepare]
  cases hd : d.releases with
  | false =>
    simp only [Bool.false_eq_true, if_false, pure_eq_done, done_bind, finish_eq hp, settle, hd,
      false_and]
    rfl
  | true =>
    rw [if_pos rfl, if_pos rfl, Roster.releaseIf_bind (r.finish d id) hc.roster hi hp]
    refine bind_congr_yields fun t q hq => ?_
    obtain ⟨hs, hh, hid⟩ : q.Sound ∧ q.handle = p.handle ∧ q.id = p.id := by
      obtain ⟨-, rfl⟩ := Plugin.stopPositional_inv hq
      exact ⟨(hc.roster.sound p hmem).deactivated, rfl, rfl⟩
    have hfound (n : Option Nat) : Roster.byId? ⟨(r.roster.update q).plugins, n⟩ id = some q :=
      Roster.byId?_update hc.roster hi hp hh hid
    refine (finish_eq (hfound _)).trans ?_
    refine bind_congr_yields fun u x hx => ?_
    -- what was noted first is replaced by what became of the plugin in the end
    have hx : x.2.handle = q.handle := Plugin.handle_of_newborn (Directive.act_newborn hs hx)
    have htwice := congrArg Roster.plugins (Roster.update_update (r := r.roster) hx)
    rw [settle, hd, hx, hh]
    simp only [true_and]
    rw [← htwice]
    rfl

/-! ## Registries with distinct identities -/

/-- No two plugins have one identity, and what the registry holds fits together. -/
structure Keyed (r : Registry) : Prop where
  consistent : r.Consistent
  ids : (r.plugins.map (·.id)).Nodup

/-- Identities and handles are distinct in every registry that a history leads to. -/
theorem Follows.keyed {directories : PluginDirectories} {h : History}
    (hf : (new directories).Follows h r) : r.Keyed where
  consistent := hf.consistent (consistent_new directories)
  ids := List.pairwise_map.2 (hf.ordered.sorted.imp fun hlt => UInt32.ne_of_lt hlt)

/-- Different identities belong to different handles. -/
theorem Keyed.handle_ne (h : r.Keyed) {id' : PluginId} {p' : Plugin} (hp : r.byId? id = some p)
    (hp' : r.byId? id' = some p') (hne : id ≠ id') : p.handle ≠ p'.handle := by
  obtain ⟨hmem, rfl⟩ := Roster.mem_of_byId? hp
  obtain ⟨hmem', rfl⟩ := Roster.mem_of_byId? hp'
  exact fun he => hne (by rw [h.consistent.roster.eq_of_handle_eq hmem hmem' he])

theorem Keyed.run_handle {σ : Type} {W : World σ} {s : σ} {allowed : Bool} (h : r.Keyed)
    (hp : r.byId? id = some p) : ((d.carryOut allowed p).run W s).1.2.handle = p.handle := by
  obtain ⟨t, ht⟩ := exists_yields_run W (d.carryOut allowed p) s
  have hs := h.consistent.roster.sound p (Roster.mem_of_byId? hp).1
  exact Plugin.handle_of_newborn (Directive.carryOut_newborn hs ht)

/-- One plugin is replaced, and the others stay. -/
theorem plugins_settle {q : Plugin} (h : r.Keyed) (hp : p ∈ r.plugins)
    (hq : q.newborn = p.newborn) :
    (r.settle d q).plugins = r.plugins.map fun o => if o.id = p.id then q else o := by
  refine List.map_congr_left fun o ho => if_congr ?_ rfl rfl
  rw [Plugin.handle_of_newborn hq]
  constructor
  · intro he
    rw [h.consistent.roster.eq_of_handle_eq ho hp he]
  · intro he
    rw [List.inj_on_of_nodup_map h.ids ho hp he]

/-- Under another identity the same plugin is found as before, or none as before. -/
theorem byId?_settle {q : Plugin} {other : PluginId} (h : r.Keyed) (hp : p ∈ r.plugins)
    (hq : q.newborn = p.newborn) (hne : other ≠ p.id) :
    (r.settle d q).byId? other = r.byId? other := by
  have hid := Plugin.id_of_newborn hq
  change (r.settle d q).plugins.find? _ = r.plugins.find? _
  rw [plugins_settle h hp hq]
  induction r.plugins with
  | nil => rfl
  | cons o os ih =>
    by_cases ho : o.id = p.id
    · simp [ho, hid, hne.symm, ih]
    · simp [List.find?_cons, ho, ih]

/-- An operation on one plugin is a sequence of steps. -/
theorem errand_steps {x : Outcome × Registry} (hc : r.Consistent)
    (h : Yields ((d.errand id).perform r) t x) : r.Steps t x.2 := by
  cases d with
  | load =>
    obtain ⟨_, _, y, rfl, h₁, h₂⟩ := yields_bind.1 h
    obtain ⟨rfl, rfl⟩ := yields_done.1 h₂
    rw [List.append_nil]
    exact (load_steps hc h₁).1
  | unload =>
    obtain ⟨_, _, y, rfl, h₁, h₂⟩ := yields_bind.1 h
    obtain ⟨rfl, rfl⟩ := yields_done.1 h₂
    rw [List.append_nil]
    exact (unload_steps hc h₁).1
  | enable on =>
    obtain ⟨_, _, y, rfl, h₁, h₂⟩ := yields_bind.1 h
    obtain ⟨rfl, rfl⟩ := yields_done.1 h₂
    rw [List.append_nil]
    exact (enableFor_steps hc h₁).1

/-- What was done with the plugin, and what the registry made of it. -/
theorem errand_inv {x : Outcome × Registry} (h : r.Keyed) (hp : r.byId? id = some p)
    (hx : Yields ((d.errand id).perform r) t x) :
    ∃ q, Yields (d.carryOut r.positionalDefault p) t (x.1, q) ∧ x.2 = r.settle d q ∧
      q.newborn = p.newborn := by
  rw [errand_eq_some h.consistent h.ids hp] at hx
  obtain ⟨_, _, y, rfl, h₁, h₂⟩ := yields_bind.1 hx
  obtain ⟨rfl, rfl⟩ := yields_done.1 h₂
  rw [List.append_nil]
  have hs := h.consistent.roster.sound p (Roster.mem_of_byId? hp).1
  exact ⟨y.2, h₁, rfl, Directive.carryOut_newborn hs h₁⟩

/-- An operation on one plugin leaves identities and handles distinct. -/
theorem Keyed.errand {x : Outcome × Registry} (h : r.Keyed)
    (hx : Yields ((d.errand id).perform r) t x) : x.2.Keyed := by
  refine ⟨(errand_steps h.consistent hx).consistent h.consistent, ?_⟩
  cases hp : r.byId? id with
  | none =>
    rw [errand_eq_none hp] at hx
    rw [(yields_done.1 hx).2]
    exact h.ids
  | some p =>
    obtain ⟨hmem, -⟩ := Roster.mem_of_byId? hp
    obtain ⟨q, -, hr, hq⟩ := errand_inv h hp hx
    rw [hr]
    exact (Roster.map_update h.consistent.roster hmem (Plugin.handle_of_newborn hq)
      (Plugin.id_of_newborn hq)).symm ▸ h.ids

/-! ## One operation -/

/-- What an operation on the plugin `p` touches: only `p` is asked, and of the registry only `p` and
the place of the provider change. -/
structure Confined (r : Registry) (d : Directive) (p : Plugin) (t : Transcript)
    (x : Outcome × Registry) : Prop where
  calls : t.Concerns p.handle
  /-- What became of `p` is in its place, and is the same plugin but for its flags. -/
  plugins : ∃ q, q.newborn = p.newborn ∧
    x.2.plugins = r.plugins.map fun o => if o.id = p.id then q else o
  others : ∀ o ∈ r.plugins, o.id ≠ p.id → t.callsTo o.handle = [] ∧ o ∈ x.2.plugins
  /-- The place is only ever given up, and only by `p`. -/
  provider : x.2.roster.provider =
    if d.releases ∧ r.providing? = some p then none else r.roster.provider
  /-- The snapshot is the same, and so is everything else. -/
  rest : x.2 = { r with roster := x.2.roster }
  unsupported : ∀ v, x.1 = .loaded (.error (.unsupportedApiVersion v)) → x.2 = r

/-- **An operation keeps to its plugin.** It is carried out with the plugin that has the identity,
and the registry takes back what is left of it. -/
theorem errand_confined {x : Outcome × Registry} (h : r.Keyed) (hp : r.byId? id = some p)
    (hx : Yields ((d.errand id).perform r) t x) : r.Confined d p t x := by
  obtain ⟨hmem, rfl⟩ := Roster.mem_of_byId? hp
  obtain ⟨q, hq, hr, hnew⟩ := errand_inv h hp hx
  have hconcerns : t.Concerns p.handle := Directive.addresses_carryOut t _ hq
  have hplugins : x.2.plugins = r.plugins.map fun o => if o.id = p.id then q else o := by
    rw [hr]
    exact plugins_settle h hmem hnew
  refine ⟨hconcerns, ⟨q, hnew, hplugins⟩, fun o ho hne => ⟨?_, ?_⟩, ?_, by rw [hr]; rfl, ?_⟩
  · refine hconcerns.callsTo_of_ne fun hh => hne ?_
    rw [h.consistent.roster.eq_of_handle_eq ho hmem hh]
  · rw [hplugins]
    exact List.mem_map.2 ⟨o, ho, if_neg hne⟩
  · rw [hr, settle, Plugin.handle_of_newborn hnew]
    refine if_congr (and_congr_right fun _ => ?_) rfl rfl
    rw [← h.consistent.roster.held p hmem]
    exact (h.consistent.roster.providing?_eq_some.trans (and_iff_right hmem)).symm
  · intro v hv
    rw [hv] at hq
    obtain ⟨rfl, rfl⟩ := Directive.eq_of_error (h.consistent.roster.sound p hmem) hq
    rw [hr, settle, h.consistent.roster.update_self hmem]
    rfl

/-! ## Two operations -/

/-- An operation on one plugin and then one on another. -/
def both (r : Registry) (d : Directive) (id : PluginId) (d' : Directive) (id' : PluginId) :
    Interaction (Outcome × Outcome × Registry) := do
  let (x, r) ← (d.errand id).perform r
  let (y, r) ← (d'.errand id').perform r
  return (x, y, r)

/-- What becomes of two plugins can be noted in either order. -/
theorem settle_comm {d' : Directive} {q q' : Plugin} (hne : q.handle ≠ q'.handle) :
    (r.settle d q).settle d' q' = (r.settle d' q').settle d q := by
  have hupdate := congrArg Roster.plugins (Roster.update_comm (r := r.roster) hne)
  have hplace : ∀ (a b : Bool) (n : Option Nat),
      (if b ∧ (if a ∧ n = some q.handle then none else n) = some q'.handle then none
        else if a ∧ n = some q.handle then none else n) =
      if a ∧ (if b ∧ n = some q'.handle then none else n) = some q.handle then none
        else if b ∧ n = some q'.handle then none else n := by
    intro a b n
    split_ifs <;> simp_all
  simp only [settle, Registry.mk.injEq, Roster.mk.injEq, true_and, and_true]
  exact ⟨hupdate, hplace _ _ _⟩

/-- An operation on one plugin does not bear on who is found under another identity. -/
theorem byId?_errand {x : Outcome × Registry} {other : PluginId} (h : r.Keyed)
    (hx : Yields ((d.errand id).perform r) t x) (hne : other ≠ id) :
    x.2.byId? other = r.byId? other := by
  cases hp : r.byId? id with
  | none =>
    rw [errand_eq_none hp] at hx
    rw [(yields_done.1 hx).2]
  | some p =>
    obtain ⟨hmem, rfl⟩ := Roster.mem_of_byId? hp
    obtain ⟨q, -, hr, hq⟩ := errand_inv h hp hx
    rw [hr]
    exact byId?_settle h hmem hq hne

section
variable {S : Type} (B : Behaviour S) (answer : (q : Query) → q.Reply) (d d' : Directive)
  {id' : PluginId} {p' : Plugin}

/-- Among plugins with states of their own, an operation depends on the state of its plugin and
changes no other. -/
theorem run_errand (h : r.Keyed) (hp : r.byId? id = some p) (s : Nat → S) :
    ((d.errand id).perform r).run (apart B answer) s =
      let y := (d.carryOut r.positionalDefault p).run (alone B answer) (s p.handle)
      ((y.1.1, r.settle d y.1.2), Function.update s p.handle y.2) := by
  rw [errand_eq_some h.consistent h.ids hp, run_bind, run_apart Directive.addresses_carryOut]
  rfl

/-- An operation on nobody can as well be left out. -/
theorem run_both_none (h : r.Keyed) (hne : id ≠ id') (hp : r.byId? id = none) (s : Nat → S) :
    let y := ((d'.errand id').perform r).run (apart B answer) s
    (r.both d id d' id').run (apart B answer) s = ((d.missing id, y.1.1, y.1.2), y.2) ∧
      (r.both d' id' d id).run (apart B answer) s = ((y.1.1, d.missing id, y.1.2), y.2) := by
  intro y
  obtain ⟨t, ht⟩ := exists_yields_run (apart B answer) ((d'.errand id').perform r) s
  have hafter : y.1.2.byId? id = none := (byId?_errand h ht hne).trans hp
  constructor
  · simp only [both, bind_eq, run_bind, errand_eq_none hp]
    rfl
  · simp only [both, bind_eq, run_bind]
    rw [show (d.errand id).perform y.1.2 = _ from errand_eq_none hafter]
    rfl

/-- Each of two plugins is asked as if the other were not there. -/
theorem run_both_some (h : r.Keyed) (hne : id ≠ id') (hp : r.byId? id = some p)
    (hp' : r.byId? id' = some p') (s : Nat → S) :
    let y := (d.carryOut r.positionalDefault p).run (alone B answer) (s p.handle)
    let y' := (d'.carryOut r.positionalDefault p').run (alone B answer) (s p'.handle)
    (r.both d id d' id').run (apart B answer) s =
      ((y.1.1, y'.1.1, (r.settle d y.1.2).settle d' y'.1.2),
        Function.update (Function.update s p.handle y.2) p'.handle y'.2) := by
  intro y y'
  obtain ⟨t, ht⟩ := exists_yields_run (apart B answer) ((d.errand id).perform r) s
  have hfirst := run_errand B answer d h hp s
  rw [hfirst] at ht
  have hkeyed : (r.settle d y.1.2).Keyed := h.errand ht
  have hafter : (r.settle d y.1.2).byId? id' = some p' := (byId?_errand h ht hne.symm).trans hp'
  have hhandles : p'.handle ≠ p.handle := h.handle_ne hp' hp hne.symm
  simp only [both, bind_eq, run_bind, hfirst]
  rw [run_errand B answer d' hkeyed hafter, Function.update_of_ne hhandles]
  rfl

/-- If no plugin takes notice of the calls to the others, it does not matter which of two is dealt
with first. -/
theorem both_comm (h : r.Keyed) (hne : id ≠ id') (s : Nat → S) :
    let a := (r.both d id d' id').run (apart B answer) s
    let b := (r.both d' id' d id).run (apart B answer) s
    a.1.1 = b.1.2.1 ∧ a.1.2.1 = b.1.1 ∧ a.1.2.2 = b.1.2.2 ∧ a.2 = b.2 := by
  intro a b
  cases hp : r.byId? id with
  | none =>
    obtain ⟨ha, hb⟩ := run_both_none B answer d d' h hne hp s
    simp only [a, b, ha, hb, and_self]
  | some p =>
    cases hp' : r.byId? id' with
    | none =>
      obtain ⟨hb, ha⟩ := run_both_none B answer d' d h hne.symm hp' s
      simp only [a, b, ha, hb, and_self]
    | some p' =>
      have ha := run_both_some B answer d d' h hne hp hp' s
      have hb := run_both_some B answer d' d h hne.symm hp' hp s
      simp only [a, b, ha, hb, true_and]
      have hhandles := h.handle_ne hp hp' hne
      refine ⟨settle_comm ?_, Function.update_comm hhandles _ _ _⟩
      rw [h.run_handle hp, h.run_handle hp']
      exact hhandles

end

/-! ## Every history -/

/-- A registry that was reached in some history, and operations on its plugins. On an identity that
is not registered they ask nothing and change nothing. On a plugin they touch nothing but this
plugin, and the place of the provider if it holds that. If no plugin takes notice of the calls to
the others, two such operations on different identities return the same in either order, and leave
the same registry and the same plugins. -/
theorem one_at_a_time {directories : PluginDirectories} {h : History}
    (hf : (new directories).Follows h r) :
    (∀ (d : Directive) id, r.byId? id = none →
      (d.errand id).perform r = .done (d.missing id, r)) ∧
    (∀ (d : Directive) id p t x, r.byId? id = some p → Yields ((d.errand id).perform r) t x →
      r.Confined d p t x) ∧
    ∀ (S : Type) (B : Behaviour S) (answer : (q : Query) → q.Reply) (s : Nat → S)
      (d : Directive) id (d' : Directive) id', id ≠ id' →
      let a := (r.both d id d' id').run (apart B answer) s
      let b := (r.both d' id' d id).run (apart B answer) s
      a.1.1 = b.1.2.1 ∧ a.1.2.1 = b.1.1 ∧ a.1.2.2 = b.1.2.2 ∧ a.2 = b.2 :=
  ⟨fun _ _ => errand_eq_none, fun _ _ _ _ _ => errand_confined hf.keyed,
    fun _ B answer _ d _ d' _ hne => both_comm B answer d d' hf.keyed hne _⟩

end Registry

namespace Duo

/-- Both plugins count what is asked of them, and start only if they are asked for the first
time. -/
def counting : Behaviour Nat := fun who c n =>
  (match c with
    | .init => if n = 0 then .ok else .genericError
    | c => answer .zero (.plugin who c), n + 1)

/-- The first plugin provides positional data. -/
def served : History × Registry := start.record (answer .zero) firstFetch

end Duo

namespace Registry

/-- The provider is unloaded, and the other plugin hears nothing of it. It does not matter whether
the other plugin is unloaded before or after that. -/
theorem one_at_a_time_duo :
    let r := Duo.served.2
    let x := ((Directive.unload.errand 1).perform r).record (Duo.answer .zero)
    let a := (r.both .unload 1 .unload 2).run (apart Duo.counting (Duo.answer .zero)) fun _ => 0
    let b := (r.both .unload 2 .unload 1).run (apart Duo.counting (Duo.answer .zero)) fun _ => 0
    (new ⟨none, none⟩).Follows Duo.served.1 r ∧ (∃ p, r.Confined .unload p x.1 x.2) ∧
      r.roster.provider = some 0 ∧ x.2.2.roster.provider = none ∧ x.1.callsTo 1 = [] ∧
      a.1.2.2 = b.1.2.2 ∧ a.2 = b.2 ∧ (a.2 0, a.2 1) = (2, 1) := by
  intro r x a b
  have hf : (new ⟨none, none⟩).Follows Duo.served.1 r := follows_record _ _ _
  obtain ⟨-, hconfined, hswap⟩ := one_at_a_time hf
  obtain ⟨p, hp⟩ : ∃ p, r.byId? 1 = some p := Option.isSome_iff_exists.1 (by decide +kernel)
  have hboth := hswap Nat Duo.counting (Duo.answer .zero) (fun _ => 0) .unload 1 .unload 2
    (by decide)
  exact ⟨hf, ⟨p, hconfined _ _ _ _ _ hp (yields_record _ _)⟩, by decide +kernel, by decide +kernel,
    by decide +kernel, hboth.2.2.1, hboth.2.2.2, by decide +kernel⟩

end Registry

end PluginHost
