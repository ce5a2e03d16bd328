import PluginHost.Proofs.Registry.History

/-!
# Change caches have no effect

An older plugin's change caches are part of the registry, and frames go into them. What the registry
asks and what becomes of everything else does not depend on them.

* **`Plugin.bare`**, **`Roster.bare`**, **`Registry.bare`**: what is left without the caches and
  without the snapshot.
* **`Roster.arbitrate_bare`**, **`Roster.release_bare`**: looking for a provider and ending its
  session are the same operation on what is left.
* **`Operation.perform_bare`**: so is every operation that fetches nothing.
-/

namespace PluginHost

open Interaction

/-! ## One plugin -/

namespace Plugin

variable {p q : Plugin}

/-- The plugin with empty caches. -/
abbrev bare (p : Plugin) : Plugin := p.withCaches (.empty, .empty)

@[simp] theorem callOr_bare {e : EntryPoint} {c : Call} {d : c.Reply} :
    p.bare.callOr e c d = p.callOr e c d := by
  unfold callOr call
  rw [exports_withCaches, who_withCaches]

@[simp] theorem notify_bare {e : EntryPoint} {c : Call} : p.bare.notify e c = p.notify e c := by
  unfold notify call
  rw [exports_withCaches, who_withCaches]

/-- From here on, one lemma for each operation: without the caches the same is asked, and the plugin
that is left differs in its caches only. -/
theorem stopPositional_bare : p.bare.stopPositional = bare <$> p.stopPositional := by
  obtain ⟨who, id, generation, origin, backend, valid, loaded, enabled, active⟩ := p
  cases active with
  | false => cases backend <;> rfl
  | true =>
    cases backend with
    | unresolved => rfl
    | current e =>
      simp only [stopPositional, Bool.not_true, Bool.false_eq_true, if_false, map_bind, map_pure]
      rfl
    | legacy a =>
      simp only [stopPositional, Bool.not_true, Bool.false_eq_true, if_false, map_bind, map_pure]
      rfl

theorem enable_bare {on : Bool} : p.bare.enable on = bare <$> p.enable on := by
  cases on with
  | true =>
    obtain ⟨who, id, generation, origin, backend, valid, loaded, enabled, active⟩ := p
    cases loaded <;> cases backend <;> rfl
  | false =>
    have h : ({ p.bare with enabled := false } : Plugin) = bare { p with enabled := false } := by
      obtain ⟨who, id, generation, origin, backend, valid, loaded, enabled, active⟩ := p
      cases backend <;> rfl
    exact (congrArg stopPositional h).trans stopPositional_bare

theorem shutdown_bare : p.bare.shutdown = bare <$> p.shutdown := by
  unfold shutdown
  rw [loaded_withCaches]
  cases p.loaded with
  | false => rfl
  | true =>
    simp only [Bool.not_true, Bool.false_eq_true, if_false, stopPositional_bare, map_bind,
      bind_map_left, map_pure]
    refine bind_congr fun q => ?_
    obtain ⟨who, id, generation, origin, backend, valid, loaded, enabled, active⟩ := q
    cases backend <;> rfl

theorem drop_bare : p.bare.drop = p.drop := by
  unfold drop
  rw [shutdown_bare, bind_map_left]
  refine bind_congr fun q => ?_
  unfold call
  rw [who_withCaches]

theorem init_bare : p.bare.init = (fun x => (x.1, x.2.bare)) <$> p.init := by
  obtain ⟨who, id, generation, origin, backend, valid, loaded, enabled, active⟩ := p
  cases valid with
  | false => cases backend <;> rfl
  | true =>
    cases loaded with
    | true => cases backend <;> rfl
    | false =>
      cases backend with
      | unresolved => rfl
      | legacy a => rfl
      | current e =>
        simp only [init, Bool.not_true, Bool.false_eq_true, if_false, map_bind, map_pure]
        rfl

/-- Activation starts the plugin and allows it positional data, both without a look at the
caches. -/
theorem activate_bare {allowed : Bool} :
    Registry.activate allowed p.bare =
      (fun x => (x.1, x.2.bare)) <$> Registry.activate allowed p := by
  have hhand : Registry.handTable p.bare = Registry.handTable p := by
    unfold Registry.handTable apiVersion registerApi
    rw [generation_withCaches, callOr_bare, notify_bare]
  unfold Registry.activate
  rw [loaded_withCaches, hhand]
  cases p.loaded with
  | true => rfl
  | false =>
    simp only [Bool.false_eq_true, if_false, map_bind]
    refine bind_congr fun x => ?_
    -- without a function table nothing else happens
    cases x with
    | error e => rfl
    | ok _ =>
      simp only [init_bare, map_bind, bind_map_left]
      refine bind_congr fun y => ?_
      cases y.1.isOk with
      | true => simp only [if_true, enable_bare, map_bind, bind_map_left, map_pure]
      | false =>
        simp only [Bool.false_eq_true, if_false, shutdown_bare, map_bind, bind_map_left,
          map_pure]

theorem offer_bare {processes : List Process} :
    p.bare.offer processes = (fun x => (x.1, x.2.bare)) <$> p.offer processes := by
  obtain ⟨who, id, generation, origin, backend, valid, loaded, enabled, active⟩ := p
  cases backend with
  | unresolved => rfl
  | current e =>
    simp only [offer, map_bind, map_pure]
    refine bind_congr fun code => ?_
    split <;> rfl
  | legacy a =>
    simp only [offer, map_bind, map_pure]
    refine bind_congr fun code => ?_
    split <;> rfl

/-- Caches that were put in do not show once all caches are taken away. -/
theorem bare_withCaches {c : ChangeCache UInt8 × ChangeCache UInt32} :
    (p.withCaches c).bare = p.bare := by
  obtain ⟨who, id, generation, origin, backend, valid, loaded, enabled, active⟩ := p
  cases backend <;> rfl

theorem bare_bare : p.bare.bare = p.bare := bare_withCaches

theorem fetchCall?_bare : p.bare.fetchCall? = p.fetchCall? := by
  obtain ⟨who, id, generation, origin, backend, valid, loaded, enabled, active⟩ := p
  cases backend <;> rfl

theorem name_bare : p.bare.name = p.name := by
  unfold name
  simp only [callOr_bare]
  obtain ⟨who, id, generation, origin, backend, valid, loaded, enabled, active⟩ := p
  cases backend <;> rfl

theorem info_bare : p.bare.info = p.info := by
  have hdescription : p.bare.description = p.description := by
    unfold description
    simp only [callOr_bare]
    obtain ⟨who, id, generation, origin, backend, valid, loaded, enabled, active⟩ := p
    cases backend <;> rfl
  have hversion : p.bare.version = p.version := by
    unfold version
    simp only [callOr_bare]
    obtain ⟨who, id, generation, origin, backend, valid, loaded, enabled, active⟩ := p
    cases backend <;> rfl
  have hfeatures : p.bare.features = p.features := by
    unfold features
    simp only [callOr_bare]
    obtain ⟨who, id, generation, origin, backend, valid, loaded, enabled, active⟩ := p
    cases backend <;> rfl
  unfold info author apiVersion isBuiltIn path?
  simp only [name_bare, hversion, hdescription, hfeatures, callOr_bare, id_withCaches,
    who_withCaches, generation_withCaches, loaded_withCaches, enabled_withCaches,
    active_withCaches]

theorem notifyOf_bare {n : Notification} : p.bare.notifyOf n = p.notifyOf n := notify_bare

theorem receive_bare {m : Message} : p.bare.receive m = p.receive m := by
  unfold receive
  rw [callOr_bare]

theorem audioInput_bare {samples : List Int16} {channels : UInt16} {speech : Bool} :
    p.bare.audioInput samples channels speech = p.audioInput samples channels speech := by
  unfold audioInput
  simp only [callOr_bare]

theorem audioStage_bare {stage : AudioStage} {samples : List Binary32} {channels : UInt16} :
    p.bare.audioStage stage samples channels = p.audioStage stage samples channels := by
  unfold audioStage
  simp only [callOr_bare]

end Plugin

/-! ## The roster -/

namespace Roster

variable {r : Roster} {p : Plugin}

/-- The roster with empty caches. -/
def bare (r : Roster) : Roster := { r with plugins := r.plugins.map Plugin.bare }

variable {o : Roster}

/-- Rosters that agree without caches hold the same handles. -/
theorem handles_eq (h : r.bare = o.bare) :
    Registry.handles r.plugins = Registry.handles o.plugins := by
  have hbare : ∀ o : Roster, Registry.handles o.bare.plugins = Registry.handles o.plugins := by
    intro o
    simp [bare, Registry.handles, Function.comp_def]
  rw [← hbare r, h, hbare o]

theorem handles_others_eq (h : r.bare = o.bare) (id : PluginId) :
    Registry.handles (r.plugins.filter (·.id != id)) =
      Registry.handles (o.plugins.filter (·.id != id)) := by
  have hbare : ∀ o : Roster, Registry.handles (o.bare.plugins.filter (·.id != id)) =
      Registry.handles (o.plugins.filter (·.id != id)) := by
    intro o
    simp [bare, Registry.handles, List.filter_map, Function.comp_def]
  rw [← hbare r, h, hbare o]

theorem find?_bare {n : Nat} : r.bare.find? n = (r.find? n).map Plugin.bare := by
  have hsame : (fun p : Plugin => p.handle == n) ∘ Plugin.bare = fun p => p.handle == n := by
    funext p
    simp
  unfold find? bare
  rw [List.find?_map, hsame]

theorem byId?_bare {id : PluginId} : r.bare.byId? id = (r.byId? id).map Plugin.bare := by
  have hsame : (fun p : Plugin => p.id == id) ∘ Plugin.bare = fun p => p.id == id := by
    funext p
    simp
  unfold byId? bare
  rw [List.find?_map, hsame]

theorem update_bare : r.bare.update p.bare = (r.update p).bare := by
  simp only [update, bare, List.map_map, mk.injEq, and_true]
  apply List.map_congr_left
  intro q _
  by_cases hq : q.handle = p.handle <;> simp [hq]

theorem providing?_bare : r.bare.providing? = r.providing?.map Plugin.bare := by
  change r.provider.bind r.bare.find? = _
  cases hn : r.provider with
  | none => simp [providing?, hn]
  | some n => simp [providing?, hn, find?_bare]

theorem eligible_bare {order : List Nat} :
    r.bare.eligible order = (r.eligible order).map Plugin.bare := by
  have hfind : order.filterMap r.bare.find? = (order.filterMap r.find?).map Plugin.bare := by
    rw [List.map_filterMap]
    exact congrArg (order.filterMap ·) (funext fun n => find?_bare)
  rw [eligible, hfind, List.filter_map]
  simp only [eligible, isEligible, Function.comp_def, Plugin.loaded_withCaches,
    Plugin.enabled_withCaches]
  rfl

theorem release_bare : r.bare.release = bare <$> r.release := by
  unfold release
  rw [providing?_bare]
  cases r.providing? with
  | none => rfl
  | some p =>
    simp only [Option.map_some, Plugin.stopPositional_bare, map_bind, bind_map_left, map_pure,
      update_bare]
    rfl

theorem releaseIf_bare {id : PluginId} :
    r.bare.releaseIf id = (fun x => (x.1, x.2.bare)) <$> r.releaseIf id := by
  unfold releaseIf
  rw [providing?_bare]
  cases r.providing? with
  | none => rfl
  | some p =>
    simp only [Option.map_some, Plugin.id_withCaches]
    by_cases hid : p.id = id
    · simp only [hid, if_true, release_bare, map_bind, bind_map_left, map_pure]
    · simp only [hid, if_false]
      rfl

/-- Offers in turn ask the same whatever is in the caches. The induction is on the candidates; the
roster changes with each answer. -/
theorem offerInTurn_bare {processes : List Process} {cs : List Plugin} :
    offerInTurn processes (cs.map Plugin.bare) r.bare = bare <$> offerInTurn processes cs r := by
  induction cs generalizing r with
  | nil => rfl
  | cons c cs ih =>
    simp only [List.map_cons, offerInTurn, Plugin.handle_withCaches, find?_bare]
    cases r.find? c.handle with
    | none => exact ih
    | some p =>
      simp only [Option.map_some, Plugin.offer_bare, map_bind, bind_map_left]
      refine bind_congr fun x => ?_
      -- the code of the answer alone decides how the round goes on
      by_cases hok : x.1 = .ok
      · simp only [hok, if_true, update_bare, Plugin.handle_withCaches]
        rfl
      · simp only [hok, if_false, update_bare]
        split
        · simp only [Plugin.enable_bare, map_bind, bind_map_left, update_bare, ih]
        · exact ih

theorem arbitrate_bare {order : List Nat} :
    r.bare.arbitrate order = bare <$> r.arbitrate order := by
  unfold arbitrate
  rw [eligible_bare]
  change (if r.isProviding then _ else _) = _
  cases r.isProviding with
  | true => rfl
  | false =>
    simp only [Bool.false_eq_true, if_false, List.isEmpty_map]
    cases (r.eligible order).isEmpty with
    | true => rfl
    | false => simp only [Bool.false_eq_true, if_false, offerInTurn_bare, map_bind]

end Roster

/-! ## The registry -/

namespace Interaction

variable {α β γ : Type}

theorem traverse_cons {f : α → Interaction β} {a : α} {as : List α} :
    traverse f (a :: as) = do
      let b ← f a
      let bs ← traverse f as
      return b :: bs := rfl

theorem traverse_map {f : β → Interaction γ} {g : α → β} {as : List α} :
    traverse f (as.map g) = traverse (fun a => f (g a)) as := by
  induction as with
  | nil => rfl
  | cons a as ih => simp only [List.map_cons, traverse, ih]

theorem foldM_map {f : γ → β → Interaction γ} {g : α → β} {as : List α} {c : γ} :
    foldM f c (as.map g) = foldM (fun c a => f c (g a)) c as := by
  induction as generalizing c with
  | nil => rfl
  | cons a as ih => simp only [List.map_cons, foldM, ih]

end Interaction

namespace Registry

variable {r r' : Registry}

/-- The registry with empty caches and a zeroed snapshot. -/
def bare (r : Registry) : Registry := { r with roster := r.roster.bare, snapshot := .zeroed }

theorem bare_bare : r.bare.bare = r.bare := by
  simp [bare, Roster.bare, Plugin.bare_bare]

theorem loadedPlugins_bare : r.bare.loadedPlugins = r.loadedPlugins.map Plugin.bare := by
  simp [loadedPlugins, plugins, bare, Roster.bare, List.filter_map, Function.comp_def]

theorem dropAll_bare {ps : List Plugin} : dropAll (ps.map Plugin.bare) = dropAll ps := by
  induction ps with
  | nil => rfl
  | cons p ps ih => simp only [List.map_cons, dropAll, Plugin.drop_bare, ih]

/-- Nothing of the old plugins is left after a scan. -/
theorem rescan_bare {fs : FileSystem} : r.bare.rescan fs = r.rescan fs := by
  unfold rescan
  change r.roster.bare.release >>= _ = _
  rw [Roster.release_bare, bind_map_left]
  refine bind_congr fun o => ?_
  change dropAll (o.plugins.map Plugin.bare) >>= _ = _
  rw [dropAll_bare]
  rfl

/-- The registry with another roster, without caches. -/
theorem bare_roster {o : Roster} : bare { r with roster := o } = { r.bare with roster := o.bare } :=
  rfl

theorem byId?_bare {id : PluginId} : r.bare.byId? id = (r.byId? id).map Plugin.bare :=
  Roster.byId?_bare

theorem load_bare {id : PluginId} :
    r.bare.load id = (fun x => (x.1, x.2.bare)) <$> r.load id := by
  unfold load
  rw [byId?_bare]
  cases r.byId? id with
  | none => rfl
  | some p =>
    simp only [Option.map_some, update, bare_roster, ← Roster.update_bare, map_bind, map_pure]
    change Registry.activate r.positionalDefault p.bare >>= _ = _
    rw [Plugin.activate_bare, bind_map_left]
    rfl

theorem unload_bare {id : PluginId} :
    r.bare.unload id = (fun x => (x.1, x.2.bare)) <$> r.unload id := by
  unfold unload
  rw [byId?_bare]
  cases r.byId? id with
  | none => rfl
  | some _ =>
    simp only [Option.map_some, map_bind]
    change r.roster.bare.releaseIf id >>= _ = _
    rw [Roster.releaseIf_bare, bind_map_left]
    refine bind_congr fun x => ?_
    simp only [Roster.byId?_bare]
    cases x.2.byId? id with
    | none => rfl
    | some p =>
      simp only [Option.map_some, Plugin.shutdown_bare, map_bind, bind_map_left, map_pure,
        Roster.update_bare]
      rfl

/-- The place is given up first when positional data is switched off, so the permission comes to a
roster that is already without caches. -/
theorem enableFor_bare {id : PluginId} {on : Bool} :
    r.bare.enableFor id on = bare <$> r.enableFor id on := by
  unfold enableFor
  rw [byId?_bare]
  cases r.byId? id with
  | none => rfl
  | some _ =>
    cases on with
    | true =>
      have hro : r.bare.roster = r.roster.bare := rfl
      simp only [Option.map_some, if_true, LawfulMonad.pure_bind]
      rw [hro, Roster.byId?_bare]
      cases r.roster.byId? id with
      | none => rfl
      | some p =>
        simp only [Option.map_some, Plugin.enable_bare, map_bind, bind_map_left, map_pure,
          Roster.update_bare, bare_roster]
    | false =>
      simp only [Option.map_some, Bool.false_eq_true, if_false, map_bind, bind_map_left]
      change r.roster.bare.releaseIf id >>= _ = _
      rw [Roster.releaseIf_bare, bind_map_left]
      refine bind_congr fun x => ?_
      dsimp only
      rw [Roster.byId?_bare]
      cases x.2.byId? id with
      | none => rfl
      | some p =>
        simp only [Option.map_some, Plugin.enable_bare, map_bind, bind_map_left, map_pure,
          Roster.update_bare, bare_roster]

theorem notify_bare {n : Notification} : r.bare.notify n = r.notify n := by
  unfold notify
  rw [loadedPlugins_bare, traverse_map]
  simp only [Plugin.notifyOf_bare]

theorem receive_bare {m : Message} : r.bare.receive m = r.receive m := by
  have h : ∀ ps : List Plugin, receiveInTurn m (ps.map Plugin.bare) = receiveInTurn m ps := by
    intro ps
    induction ps with
    | nil => rfl
    | cons p ps ih => simp only [List.map_cons, receiveInTurn, Plugin.receive_bare, ih]
  unfold receive
  rw [loadedPlugins_bare, h]

theorem audioInput_bare {samples : List Int16} {channels : UInt16} {speech : Bool} :
    r.bare.audioInput samples channels speech = r.audioInput samples channels speech := by
  unfold audioInput pipeline
  rw [loadedPlugins_bare, foldM_map]
  simp only [Plugin.audioInput_bare]

theorem audioStage_bare {stage : AudioStage} {samples : List Binary32} {channels : UInt16} :
    r.bare.audioStage stage samples channels = r.audioStage stage samples channels := by
  unfold audioStage pipeline
  rw [loadedPlugins_bare, foldM_map]
  simp only [Plugin.audioStage_bare]

/-- Sorting by name does not look at the caches. -/
theorem sortByName_bare {named : List (String × Plugin)} :
    sortByName (named.map fun x => (x.1, x.2.bare)) = (sortByName named).map Plugin.bare := by
  have hkeyed : ((named.map fun x => (x.1, x.2.bare)).map fun x =>
        (LetterCase.lowercase x.1, x.2)) =
      (named.map fun x => (LetterCase.lowercase x.1, x.2)).map fun x => (x.1, x.2.bare) := by
    simp only [List.map_map, Function.comp_def]
  unfold sortByName
  simp only [hkeyed]
  -- the order of two plugins is that of their names
  have hsort : ∀ l : List (String × Plugin),
      (l.map fun x => (x.1, x.2.bare)).mergeSort (fun a b => !decide (b.1 < a.1)) =
        (l.mergeSort fun a b => !decide (b.1 < a.1)).map fun x => (x.1, x.2.bare) :=
    fun l => (List.map_mergeSort (s := fun a b => !decide (b.1 < a.1))
      (f := fun x : String × Plugin => (x.1, x.2.bare)) fun _ _ _ _ => rfl).symm
  rw [hsort]
  simp only [List.map_map, Function.comp_def]

/-- A listing asks for names, in the same order. -/
theorem listing_bare {sorted : Bool} :
    r.bare.listing sorted = (List.map Plugin.bare) <$> r.listing sorted := by
  unfold listing
  cases sorted with
  | false => rfl
  | true =>
    have hnamed : ∀ ps : List Plugin,
        Interaction.traverse (fun p : Plugin => do return (← p.name, p)) (ps.map Plugin.bare) =
          (List.map fun x => (x.1, x.2.bare)) <$>
            Interaction.traverse (fun p : Plugin => do return (← p.name, p)) ps := by
      intro ps
      induction ps with
      | nil => rfl
      | cons p ps ih =>
        simp only [List.map_cons, traverse_cons, ih, Plugin.name_bare, map_bind, bind_map_left,
          map_pure, LawfulMonad.bind_assoc, LawfulMonad.pure_bind]
    simp only [Bool.not_true, Bool.false_eq_true, if_false, map_bind, map_pure]
    change Interaction.traverse _ (r.roster.plugins.map Plugin.bare) >>= _ = _
    rw [hnamed, bind_map_left]
    simp only [sortByName_bare]
    rfl

theorem infos_bare {sorted : Bool} : r.bare.infos sorted = r.infos sorted := by
  unfold infos
  rw [listing_bare, bind_map_left]
  simp only [traverse_map, Plugin.info_bare]

/-- Every operation but a tick is the same without the caches. -/
theorem perform_bare {op : Operation} (h : op ≠ .tick) :
    bare <$> op.perform r.bare = bare <$> op.perform r := by
  have hout : ∀ {α : Type} {x y : Interaction (α × Registry)},
      x = (fun z => (z.1, z.2.bare)) <$> y →
        bare <$> (Prod.snd <$> x) = bare <$> (Prod.snd <$> y) := by
    rintro α x y rfl
    simp only [Functor.map_map, bare_bare]
  have hkeep : ∀ {α : Type} {x y : Interaction α}, x = y →
      bare <$> ((fun _ => r.bare) <$> x) = bare <$> ((fun _ => r) <$> y) := by
    rintro α x y rfl
    simp only [Functor.map_map, bare_bare]
  cases op with
  | rescan fs => exact congrArg (fun x => bare <$> (Prod.snd <$> x)) rescan_bare
  | load id => exact hout load_bare
  | unload id => exact hout unload_bare
  | enableFor id on =>
    change bare <$> r.bare.enableFor id on = _
    rw [enableFor_bare]
    simp only [Functor.map_map, bare_bare]
    rfl
  | tick => exact absurd rfl h
  | notify n => exact hkeep notify_bare
  | receive m => exact hkeep receive_bare
  | audioInput samples channels speech => exact hkeep audioInput_bare
  | audioStage stage samples channels => exact hkeep audioStage_bare
  | infos sorted => exact hkeep infos_bare
  | allowByDefault on =>
    exact congrArg done (bare_bare (r := { r with positionalDefault := on }))
  | registerBuiltIn b => exact congrArg done (bare_bare (r := r.registerBuiltIn b))

end Registry

end PluginHost
