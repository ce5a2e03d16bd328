import PluginHost.Demo
import PluginHost.Proofs.Registry.Management
import PluginHost.Registry.Broadcast
import PluginHost.Registry.Listing

/-!
# Histories

Everything that can be asked of a registry, and the registries that are reached by asking.

* **`Operation`** and **`Operation.perform`**: an operation with its arguments. What plugins answer
  and which processes run is not an argument: it is in the transcript.
* **`Registry.Follows`**: a history of operations, each with its transcript, leads from one registry
  to another.
* **`perform_inv`**: an operation is a sequence of steps, with at most one fetch among them.
* **`Follows.consistent`**: every registry that is reached is consistent.
-/

namespace PluginHost

open Interaction Transcript

namespace Registry

variable {r s : Registry} {p q : Plugin} {t u : Transcript}

/-! ## Broadcasts and listings -/

/-- Where no item changes the registry, going through all of them does not either. -/
theorem steps_of_traverse {α β : Type} {f : α → Interaction β} {as : List α} {bs : List β}
    (hf : ∀ a ∈ as, ∀ u b, Yields (f a) u b → r.Steps u r)
    (h : Yields (Interaction.traverse f as) t bs) :
    r.Steps t r := by
  induction as generalizing t bs with
  | nil =>
    obtain ⟨rfl, -⟩ := yields_traverse_nil.1 h
    exact .refl r
  | cons a as ih =>
    obtain ⟨u, v, b, cs, rfl, rfl, hu, hv⟩ := yields_traverse_cons.1 h
    exact (hf a (by simp) u b hu).trans (ih (fun a' ha' => hf a' (List.mem_cons_of_mem a ha')) hv)

/-- The same for a fold. -/
theorem steps_of_foldM {α β : Type} {f : β → α → Interaction β} {as : List α} {b c : β}
    (hf : ∀ a ∈ as, ∀ b u d, Yields (f b a) u d → r.Steps u r) (h : Yields (foldM f b as) t c) :
    r.Steps t r := by
  induction as generalizing t b with
  | nil =>
    obtain ⟨rfl, -⟩ := yields_foldM_nil.1 h
    exact .refl r
  | cons a as ih =>
    obtain ⟨u, v, d, rfl, hu, hv⟩ := yields_foldM_cons.1 h
    exact (hf a (by simp) b u d hu).trans (ih (fun a' ha' => hf a' (List.mem_cons_of_mem a ha')) hv)

/-- A step of a plugin that leaves it as it is. -/
theorem steps_unchanged (hc : r.Consistent) (hp : p ∈ r.plugins) (h : p.Step t p) :
    r.Steps t r :=
  .of_roster (.of_step (.unchanged hc.roster hp h))

/-- A call that is forwarded to a loaded plugin is a step. -/
theorem steps_forwarded (hc : r.Consistent) (hp : p ∈ r.loadedPlugins) (h : p.Forwarded t) :
    r.Steps t r := by
  obtain ⟨hmem, hl⟩ := List.mem_filter.1 hp
  exact steps_unchanged hc hmem (.forwarded t hl h)

theorem notify_steps {n : Notification} {x : Unit} (hc : r.Consistent)
    (h : Yields (r.notify n) t x) : r.Steps t r := by
  obtain ⟨_, _, _, rfl, h₁, h₂⟩ := yields_bind.1 h
  rw [(yields_done.1 h₂).1, List.append_nil]
  exact steps_of_traverse (fun p hp u _ hu => steps_forwarded hc hp (Plugin.notifyOf_inv hu)) h₁

/-- A message goes to one plugin after another, up to the first that handled it. -/
theorem receive_steps {m : Message} {b : Bool} (hc : r.Consistent)
    (h : Yields (r.receive m) t b) : r.Steps t r := by
  have hturn : ∀ ps : List Plugin, (∀ p ∈ ps, p ∈ r.loadedPlugins) → ∀ t b,
      Yields (receiveInTurn m ps) t b → r.Steps t r := by
    intro ps
    induction ps with
    | nil =>
      intro _ t b h
      rw [(yields_done.1 h).1]
      exact .refl r
    | cons p ps ih =>
      intro hps t b h
      obtain ⟨u, _, handled, rfl, h₁, h₂⟩ := yields_bind.1 h
      have hfirst := steps_forwarded hc (hps p (by simp)) (Plugin.receive_inv h₁)
      -- the first plugin that takes the message is the last that gets it
      cases handled with
      | true =>
        rw [(yields_done.1 h₂).1, List.append_nil]
        exact hfirst
      | false =>
        exact hfirst.trans (ih (fun q hq => hps q (List.mem_cons_of_mem p hq)) _ b h₂)
  exact hturn _ (fun p hp => hp) t b h

/-- A pipeline calls one hook after another. -/
theorem pipeline_steps {α : Type} {hook : Plugin → List α → Interaction (Bool × List α)}
    {samples : List α} {x : Bool × List α} (hc : r.Consistent)
    (hhook : ∀ p samples u y, Yields (hook p samples) u y → Plugin.Forwarded p u)
    (h : Yields (pipeline hook r.loadedPlugins samples) t x) : r.Steps t r := by
  refine steps_of_foldM (fun p hp b u d hu => ?_) h
  obtain ⟨_, _, _, rfl, h₁, h₂⟩ := yields_bind.1 hu
  rw [(yields_done.1 h₂).1, List.append_nil]
  exact steps_forwarded hc hp (hhook p _ _ _ h₁)

/-- A listing is of the plugins of the registry. -/
theorem listing_steps {sorted : Bool} {ps : List Plugin} (hc : r.Consistent)
    (h : Yields (r.listing sorted) t ps) : r.Steps t r ∧ ∀ p ∈ ps, p ∈ r.plugins := by
  unfold listing at h
  split at h
  · obtain ⟨rfl, rfl⟩ := yields_done.1 h
    exact ⟨.refl r, fun p hp => hp⟩
  · obtain ⟨_, _, named, rfl, h₁, h₂⟩ := yields_bind.1 h
    obtain ⟨rfl, rfl⟩ := yields_done.1 h₂
    rw [List.append_nil]
    refine ⟨steps_of_traverse (fun p hp u y hu => ?_) h₁, fun p hp => ?_⟩
    · obtain ⟨_, _, _, rfl, h₃, h₄⟩ := yields_bind.1 hu
      rw [(yields_done.1 h₄).1, List.append_nil]
      exact steps_unchanged hc hp (.described _ (Plugin.name_inv h₃))
    · obtain ⟨⟨key, q⟩, hq, rfl⟩ := List.mem_map.1 hp
      obtain ⟨⟨name, q⟩, hq, hkey⟩ := List.mem_map.1 (List.mem_mergeSort.1 hq)
      obtain ⟨q', hq', u, hu⟩ := mem_of_yields_traverse h₁ hq
      obtain ⟨_, _, _, rfl, h₃, h₄⟩ := yields_bind.1 hu
      have := (yields_done.1 h₄).2
      simp only [Prod.mk.injEq] at hkey this
      rw [← hkey.2, this.2]
      exact hq'

theorem infos_steps {sorted : Bool} {is : List PluginInfo} (hc : r.Consistent)
    (h : Yields (r.infos sorted) t is) : r.Steps t r := by
  obtain ⟨_, _, ps, rfl, h₁, h₂⟩ := yields_bind.1 h
  obtain ⟨hlist, hmem⟩ := listing_steps hc h₁
  exact hlist.trans (steps_of_traverse
    (fun p hp u _ hu => steps_unchanged hc (hmem p hp) (.described u (Plugin.info_inv hu))) h₂)

/-! ## Ticks -/

/-- The ways in which a tick ends. -/
inductive Ticked (r : Registry) : Transcript → Bool × Registry → Prop
  /-- Nobody wants to provide positional data. -/
  | idle (t : Transcript) (o : Roster) (h : r.roster.Steps t o) (hn : o.provider = none) :
      Ticked r t (false, { r with roster := o, snapshot := .zeroed })
  /-- The provider brings a frame and goes on. -/
  | fresh (t : Transcript) (o : Roster) (p : Plugin) (e : Exchange) (f : Frame)
      (c : ChangeCache UInt8 × ChangeCache UInt32) (h : r.roster.Steps t o)
      (hp : o.providing? = some p) (hf : e.frame? = some (p.who, f))
      (hc : Plugin.CoherentCaches c) (hgo : f.proceed = true)
      (hkeep : ∀ n, r.roster.provider = some n → o = r.roster) :
      Ticked r (t ++ [e]) (true, { r with
        roster := o.update (p.withCaches c), snapshot := (r.snapshot.apply f).sanitized })
  /-- The provider stops, and another one is looked for. -/
  | lost (t u v : Transcript) (o o' : Roster) (p p' : Plugin) (snapshot : Snapshot)
      (h : r.roster.Steps t o) (hp : o.providing? = some p)
      (hf : p.Fetched r.snapshot u (false, p', snapshot)) (h' : (o.update p').Steps v o') :
      Ticked r (t ++ (u ++ v)) (false, { r with roster := o', snapshot := .zeroed })

/-- **What a tick asks.** Somebody is looked for if nobody provides. Whoever provides then is asked
for a frame, and if that was the last one, the session ends and the others are asked once. -/
theorem tick_inv {x : Bool × Registry} (hc : r.Consistent) (h : Yields r.tick t x) :
    r.Ticked t x := by
  obtain ⟨t, _, o, rfl, h₁, h₂⟩ := yields_bind.1 h
  have hlook := Roster.arbitrate_steps hc.roster hc.roster.distinct h₁
  have ho := hlook.consistent hc.roster
  split at h₂
  · -- there was no provider and none was found
    rename_i hp
    obtain ⟨rfl, rfl⟩ := yields_done.1 h₂
    rw [List.append_nil]
    exact .idle t o hlook (ho.provider_eq_none hp)
  · rename_i p hp
    obtain ⟨u, _, ⟨proceed, p', snapshot⟩, rfl, h₃, h₄⟩ := yields_bind.1 h₂
    have hfetch := Plugin.fetch_inv (ho.sound p (ho.providing?_eq_some.1 hp).1) h₃
    cases proceed with
    | true =>
      obtain ⟨rfl, rfl⟩ := yields_done.1 h₄
      rw [List.append_nil]
      generalize hgo : (true, p', snapshot) = y at hfetch
      cases hfetch with
      | unable hq => simp at hgo
      | frame e f c hq hf hcoh =>
        simp only [Prod.mk.injEq] at hgo
        obtain ⟨hgo, rfl, rfl⟩ := hgo
        exact .fresh t o p e f c hlook hp hf hcoh hgo.symm
          fun n hn => (Roster.arbitrate_of_provider hn h₁).2
    | false =>
      -- the session ends, and the others are asked once
      obtain ⟨v, _, o₁, rfl, h₅, h₆⟩ := yields_bind.1 h₄
      obtain ⟨w, _, o₂, rfl, h₇, h₈⟩ := yields_bind.1 h₆
      obtain ⟨rfl, rfl⟩ := yields_done.1 h₈
      have ho' := ho.fetched (ho.providing?_eq_some.1 hp).1 hfetch
      obtain ⟨hrel, -⟩ := Roster.release_steps ho' h₅
      have ho₁ := hrel.consistent ho'
      have hagain := Roster.arbitrate_steps ho₁
        (ho₁.distinct.sublist ((List.filter_sublist ..).map _)) h₇
      rw [List.append_nil]
      exact .lost t u _ o o₂ p p' snapshot hlook hp hfetch (hrel.trans hagain)

/-! ## The end -/

/-- When a registry is closed nobody is left. -/
theorem close_steps {x : Unit} (hc : r.Consistent) (h : Yields r.close t x) :
    r.Steps t { r with roster := ⟨[], none⟩ } := by
  obtain ⟨t₁, t₂, _, rfl, h₁, h₂⟩ := yields_bind.1 h
  have hsub : ∀ b : Plugin → Bool, ((r.plugins.filter b).map (·.handle)).Nodup := fun b =>
    hc.roster.distinct.sublist ((List.filter_sublist ..).map _)
  obtain ⟨n, -, hothers⟩ := dropAll_steps hc.roster
    (fun p hp => (List.mem_filter.1 hp).1) (hsub _) h₁
  have hc₁ := hothers.consistent hc.roster
  -- the provider is not among those that went first
  have hmem : ∀ p ∈ r.plugins.filter (fun p => r.roster.provider == some p.handle),
      p ∈ r.roster.plugins.filter fun q => q.handle ∉
        (r.plugins.filter fun p => r.roster.provider != some p.handle).map (·.handle) := by
    intro p hp
    obtain ⟨hp, hprov⟩ := List.mem_filter.1 hp
    refine List.mem_filter.2 ⟨hp, decide_eq_true ?_⟩
    intro hout
    obtain ⟨q, hq, hh⟩ := List.mem_map.1 hout
    have hne := (List.mem_filter.1 hq).2
    simp only [bne_iff_ne, beq_iff_eq] at hne hprov
    exact hne (hh ▸ hprov)
  obtain ⟨m, -, hlast⟩ := dropAll_steps hc₁ hmem (hsub _) h₂
  have hempty : (r.roster.plugins.filter fun q => q.handle ∉
        (r.roster.plugins.filter fun p => r.roster.provider != some p.handle).map (·.handle)).filter
      (fun q => q.handle ∉
        (r.plugins.filter fun p => r.roster.provider == some p.handle).map (·.handle)) = [] := by
    rw [List.filter_filter]
    apply List.filter_eq_nil_iff.2
    intro q hq
    by_cases hprov : r.roster.provider = some q.handle
    · have : q.handle ∈
          (r.plugins.filter fun p => r.roster.provider == some p.handle).map (·.handle) :=
        List.mem_map_of_mem (List.mem_filter.2 ⟨hq, by simpa using hprov⟩)
      simp [this]
    · have : q.handle ∈
          (r.roster.plugins.filter fun p => r.roster.provider != some p.handle).map (·.handle) :=
        List.mem_map_of_mem (List.mem_filter.2 ⟨hq, by simpa using hprov⟩)
      simp [this]
  dsimp only at hlast
  rw [hempty] at hlast
  -- nobody is left to hold the place
  have hm : m = none := by
    cases m with
    | none => rfl
    | some n =>
      obtain ⟨p, hp, -⟩ := (hlast.consistent hc₁).present n rfl
      simp at hp
  rw [hm] at hlast
  exact .of_roster (hothers.trans hlast)

/-! ## Operations -/

end Registry

/-- What can be asked of a registry. -/
inductive Operation where
  | rescan (fs : FileSystem)
  | load (id : PluginId)
  | unload (id : PluginId)
  | enableFor (id : PluginId) (on : Bool)
  | tick
  | notify (n : Notification)
  | receive (m : Message)
  | audioInput (samples : List Int16) (channels : UInt16) (speech : Bool)
  | audioStage (stage : AudioStage) (samples : List Binary32) (channels : UInt16)
  | infos (sorted : Bool)
  | allowByDefault (on : Bool)
  | registerBuiltIn (b : BuiltIn)

/-- Does what is asked, and keeps the registry that comes of it. -/
def Operation.perform (r : Registry) : Operation → Interaction Registry
  | rescan fs => Prod.snd <$> r.rescan fs
  | load id => Prod.snd <$> r.load id
  | unload id => Prod.snd <$> r.unload id
  | enableFor id on => r.enableFor id on
  | tick => Prod.snd <$> r.tick
  | notify n => (fun _ => r) <$> r.notify n
  | receive m => (fun _ => r) <$> r.receive m
  | audioInput samples channels speech => (fun _ => r) <$> r.audioInput samples channels speech
  | audioStage stage samples channels => (fun _ => r) <$> r.audioStage stage samples channels
  | infos sorted => (fun _ => r) <$> r.infos sorted
  | allowByDefault on => return { r with positionalDefault := on }
  | registerBuiltIn b => return r.registerBuiltIn b

namespace Registry

variable {r s : Registry} {t u : Transcript}

/-- An operation is a sequence of steps, with at most one fetch among them. -/
inductive Performed (r : Registry) : Transcript → Registry → Prop
  | steps {t : Transcript} {s : Registry} (h : r.Steps t s) : Performed r t s
  | fetch {t u : Transcript} {r₁ r₂ s : Registry} {e : Exchange} (h : r.Steps t r₁)
      (hf : r₁.Fetch e r₂) (h' : r₂.Steps u s) : Performed r (t ++ ([e] ++ u)) s

/-- A tick is a sequence of steps with at most one fetch among them. -/
theorem Ticked.performed {x : Bool × Registry} (hc : r.Consistent) (h : r.Ticked t x) :
    r.Performed t x.2 := by
  cases h with
  | idle t o h hn => exact .steps (by simpa using (Steps.of_roster h).tail .zeroed)
  | fresh t o p e f c h hp hf hcoh hgo =>
    obtain ⟨hmem, ha⟩ := (h.consistent hc.roster).providing?_eq_some.1 hp
    have hfetch := Fetch.frame (r := { r with roster := o }) p e f c hmem ha hf hcoh
    simpa using Performed.fetch (.of_roster h) hfetch (.refl _)
  | lost t u v o o' p p' snapshot h hp hf h' =>
    obtain ⟨hmem, ha⟩ := (h.consistent hc.roster).providing?_eq_some.1 hp
    generalize hgo : (false, p', snapshot) = y at hf
    cases hf with
    | unable hq =>
      -- without a fetch the plugin is what it was
      simp only [Prod.mk.injEq, true_and] at hgo
      obtain ⟨rfl, -⟩ := hgo
      rw [(h.consistent hc.roster).update_self hmem] at h'
      exact .steps (by simpa using (Steps.of_roster (h.trans h')).tail .zeroed)
    | frame e f c hq hf hcoh =>
      simp only [Prod.mk.injEq] at hgo
      obtain ⟨-, rfl, -⟩ := hgo
      have hfetch := Fetch.frame (r := { r with roster := o }) p e f c hmem ha hf hcoh
      have hrest := (Steps.of_roster (r := { r with
        roster := o.update (p.withCaches c), snapshot := (r.snapshot.apply f).sanitized }) h').tail
          .zeroed
      rw [List.append_nil] at hrest
      exact .fetch (.of_roster h) hfetch hrest

/-- Only a tick fetches. -/
theorem perform_steps {op : Operation} (hop : op ≠ .tick) (hc : r.Consistent)
    (h : Yields (op.perform r) t s) : r.Steps t s := by
  cases op with
  | rescan fs =>
    obtain ⟨x, rfl, h₁⟩ := yields_map.1 h
    exact (rescan_steps hc h₁).1
  | load id =>
    obtain ⟨x, rfl, h₁⟩ := yields_map.1 h
    exact (load_steps hc h₁).1
  | unload id =>
    obtain ⟨x, rfl, h₁⟩ := yields_map.1 h
    exact (unload_steps hc h₁).1
  | enableFor id on => exact (enableFor_steps hc h).1
  | tick => exact absurd rfl hop
  | notify n =>
    obtain ⟨x, rfl, h₁⟩ := yields_map.1 h
    exact notify_steps hc h₁
  | receive m =>
    obtain ⟨x, rfl, h₁⟩ := yields_map.1 h
    exact receive_steps hc h₁
  | audioInput samples channels speech =>
    obtain ⟨x, rfl, h₁⟩ := yields_map.1 h
    exact pipeline_steps hc (fun _ _ _ _ => Plugin.audioInput_inv) h₁
  | audioStage stage samples channels =>
    obtain ⟨x, rfl, h₁⟩ := yields_map.1 h
    exact pipeline_steps hc (fun _ _ _ _ => Plugin.audioStage_inv) h₁
  | infos sorted =>
    obtain ⟨x, rfl, h₁⟩ := yields_map.1 h
    exact infos_steps hc h₁
  | allowByDefault on =>
    obtain ⟨rfl, rfl⟩ := yields_done.1 h
    exact .of_step (.configured r.builtIns on)
  | registerBuiltIn b =>
    obtain ⟨rfl, rfl⟩ := yields_done.1 h
    exact .of_step (.configured (r.builtIns ++ [b]) r.positionalDefault)

/-- Every operation is a sequence of steps with at most one fetch among them. -/
theorem perform_inv {op : Operation} (hc : r.Consistent) (h : Yields (op.perform r) t s) :
    r.Performed t s := by
  by_cases hop : op = .tick
  · subst hop
    obtain ⟨x, rfl, h₁⟩ := yields_map.1 h
    exact (tick_inv hc h₁).performed hc
  · exact .steps (perform_steps hop hc h)

/-- No operation spoils the consistency of a registry. -/
theorem Performed.consistent (h : r.Performed t s) (hc : r.Consistent) : s.Consistent := by
  cases h with
  | steps h => exact h.consistent hc
  | fetch h hf h' => exact h'.consistent (hf.consistent (h.consistent hc))

/-! ## Histories -/

end Registry

/-- Operations with what was asked and answered in each. -/
abbrev History := List (Operation × Transcript)

/-- Everything that was asked and answered. -/
def History.transcript (h : History) : Transcript := h.flatMap (·.2)

namespace Registry

variable {r s s' : Registry} {t u : Transcript} {h h' : History}

/-- The history leads from one registry to the other. -/
inductive Follows (r : Registry) : History → Registry → Prop
  | nil : Follows r [] r
  | snoc {h : History} {s s' : Registry} {op : Operation} {t : Transcript} (hf : Follows r h s)
      (hp : Yields (op.perform s) t s') : Follows r (h ++ [(op, t)]) s'

namespace Follows

/-- No history does either. -/
theorem consistent (hf : r.Follows h s) (hc : r.Consistent) : s.Consistent := by
  induction hf with
  | nil => exact hc
  | snoc _ hp ih => exact (perform_inv ih hp).consistent ih

theorem append (hf : r.Follows h s) (hf' : s.Follows h' s') : r.Follows (h ++ h') s' := by
  induction hf' with
  | nil => simpa using hf
  | snoc _ hp ih => simpa [List.append_assoc] using ih.snoc hp

/-- What every step and every fetch keeps holds after every history. -/
theorem invariant {P : Transcript → Registry → Prop} (hf : r.Follows h s) (hc : r.Consistent)
    (h₀ : P [] r)
    (hstep : ∀ t u r s, r.Consistent → P t r → r.Step u s → P (t ++ u) s)
    (hfetch : ∀ t e r s, r.Consistent → P t r → r.Fetch e s → P (t ++ [e]) s) :
    P h.transcript s := by
  induction hf with
  | nil => exact h₀
  | @snoc h s s' op t hf hp ih =>
    have hcs := hf.consistent hc
    have htr : History.transcript (h ++ [(op, t)]) = h.transcript ++ t := by
      simp [History.transcript]
    rw [htr]
    cases perform_inv hcs hp with
    | steps hs => exact hs.invariant hcs ih hstep
    | fetch hs hfe hs' =>
      -- the steps before the fetch, the fetch, and the steps after it
      have h₁ := hs.invariant hcs ih hstep
      have hc₁ := hs.consistent hcs
      have h₂ := hfetch _ _ _ _ hc₁ h₁ hfe
      have h₃ := hs'.invariant (hfe.consistent hc₁) h₂ hstep
      simpa [List.append_assoc] using h₃

end Follows

/-! ## Recorded histories -/

/-- Does operations one after the other in a world that answers each query always in the same
way. -/
def record (answer : (q : Query) → q.Reply) : Registry → List Operation → History × Registry
  | r, [] => ([], r)
  | r, op :: ops =>
    let x := (op.perform r).record answer
    let rest := record answer x.2 ops
    ((op, x.1) :: rest.1, rest.2)

/-- Operations that are carried out with fixed answers make up a history. -/
theorem follows_record (answer : (q : Query) → q.Reply) (r : Registry) (ops : List Operation) :
    r.Follows (r.record answer ops).1 (r.record answer ops).2 := by
  induction ops generalizing r with
  | nil => exact .nil
  | cons op ops ih =>
    have hfirst : r.Follows [(op, _)] _ := Follows.nil.snoc (yields_record answer (op.perform r))
    exact hfirst.append (ih _)

end Registry

/-! ## A host with two plugins

Both are part of the host, take every offer and go on for ever. The first writes the position of the
avatar, the second writes no vector. -/

namespace Duo

/-- What both export: what is mandatory, and the functions for positional data. -/
def table : SymbolTable :=
  ⟨"duo", (EntryPoint.mandatory ++ EntryPoint.positional).map fun e => (e.symbol, 1)⟩

def answer (position : Vector3) : (q : Query) → q.Reply
  | .plugin _ .load => some table
  | .plugin _ .apiVersion => .pluginApi
  | .plugin ⟨_, .builtIn 0⟩ .fetchPositional =>
    ⟨{ Pose.replicate none with avatarPosition := some position }, none, none, true⟩
  | .plugin _ .fetchPositional => ⟨.replicate none, none, none, true⟩
  | .plugin _ c => c.silence
  | .processes => []
  | .report _ => ()
  | .write _ => .ok ()
  | .pause _ => ()

def start : Registry := .new ⟨none, none⟩

/-- Both plugins are registered, and the first is fetched from. -/
def firstFetch : List Operation :=
  [.registerBuiltIn ⟨"first", .current⟩, .registerBuiltIn ⟨"second", .current⟩, .rescan ⟨[], []⟩,
    .tick]

/-- After that the first plugin, which provides positional data, is forbidden. -/
def deposed : List Operation := firstFetch ++ [.enableFor 1 false]

end Duo

end PluginHost
