import PluginHost.Proofs.Plugin.Validation
import PluginHost.Proofs.Registry.Protocol
import PluginHost.Proofs.Registry.Purpose

/-!
# Plugins with a part of the functions for positional data

Validation forgets the functions for positional data unless a plugin exports all three. What is
forgotten is never called.

* **`Transcript.Unpositional`**: none of the three functions is called.
* **`Plugin.Use`**, **`Plugin.Uses`**: what a plugin can be used for, and sequences of that.
* **`Plugin.Partial`** and **`Uses.spared`**: a plugin of the current interface without the three
  functions stays so, and is spared, in every sequence of uses.
* **`Registry.Follows.spared`**: the same for a plugin that is registered.
* **`validation_exact`**: validation together with what becomes of such a plugin.
-/

namespace PluginHost

open Interaction Transcript

/-! ## Calls for positional data -/

/-- The functions of the current interface for positional data. -/
def Call.isPositional : Call → Bool
  | offerPositional .. | fetchPositional | stopPositional => true
  | _ => false

def Exchange.isPositional (e : Exchange) : Bool :=
  match e.query with
  | .plugin _ c => c.isPositional
  | _ => false

namespace Transcript

/-- No function for positional data is called. -/
def Unpositional (t : Transcript) : Prop := ∀ e ∈ t, e.isPositional = false

variable {n : Nat} {t u : Transcript}

theorem unpositional_nil : Unpositional [] := by simp [Unpositional]

theorem Unpositional.append (ht : Unpositional t) (hu : Unpositional u) : Unpositional (t ++ u) :=
  fun e he => (List.mem_append.1 he).elim (ht e) (hu e)

theorem unpositional_singleton {who : Occupant} {c : Call} {r : c.Reply}
    (h : c.isPositional = false) : Unpositional [⟨.plugin who c, r⟩] := by
  intro e he
  rw [List.mem_singleton.1 he]
  exact h

theorem Descriptive.unpositional (h : Descriptive n t) : Unpositional t := by
  intro e he
  obtain ⟨who, c, hq, -, hc⟩ := h e he
  simp only [Exchange.isPositional, hq]
  cases c <;> first | rfl | simp [Call.isMetadata] at hc

end Transcript

/-- What is asked for other purposes spares the functions for positional data. -/
theorem Interaction.Asks.unpositional {α : Type} {ps : List Purpose} {x : Interaction α} {a : α}
    {t : Transcript} (hx : Asks ps x)
    (hps : ∀ purpose ∈ ps, purpose ∉ [Purpose.offering, .fetching, .stopping])
    (h : Yields x t a) : Unpositional t := by
  intro e he
  have hserves := hx t a h e he
  obtain ⟨q, r⟩ := e
  cases q with
  | plugin who c =>
    have hpurpose := hps _ hserves
    cases c <;> first | rfl | simp [Call.purpose] at hpurpose
  | _ => rfl

namespace Plugin

variable {p p' q : Plugin} {t u : Transcript}

theorem unpositional_heard {e : EntryPoint} {c : Call} {r : c.Reply} (h : c.isPositional = false) :
    Unpositional (p.heard e c r) := by
  unfold heard
  split
  · exact unpositional_singleton h
  · exact unpositional_nil

/-! ## Plugins that lack a function -/

/-- The plugin is of the current interface, and validation left it no function for positional
data. -/
structure Partial (p : Plugin) : Prop where
  current : ∃ entries, p.backend = .current entries
  lacks : ∀ e ∈ EntryPoint.positional, p.exports e = false

namespace Partial

/-- Only the functions that a plugin has matter. -/
theorem of_backend (h : p.Partial) (hb : q.backend = p.backend) : q.Partial := by
  obtain ⟨⟨entries, he⟩, hlacks⟩ := h
  refine ⟨⟨entries, hb.trans he⟩, fun e hmem => ?_⟩
  have := hlacks e hmem
  unfold exports at this ⊢
  rwa [hb]

/-- An offer asks nothing, and the plugin declines for good. -/
theorem offer_eq (h : p.Partial) (processes : List Process) :
    p.offer processes = pure (.permanent, p) := by
  obtain ⟨entries, hb⟩ := h.current
  have hno : p.exports .offerPositional = false := h.lacks _ (by decide)
  simp only [offer, hb, callOr, hno]
  rfl

/-- A fetch asks nothing, zeroes the snapshot and stops. -/
theorem fetch_eq (h : p.Partial) (before : Snapshot) :
    p.fetch before = pure (false, p, .zeroed) := by
  obtain ⟨entries, hb⟩ := h.current
  have hno : entries.has .fetchPositional = false := by
    simpa [exports, hb] using h.lacks .fetchPositional (by decide)
  have hzero : Snapshot.zeroed.sanitized = .zeroed :=
    Snapshot.sanitized_of_isFinite Snapshot.isFinite_zeroed
  simp only [fetch, hb, hno, Bool.false_eq_true, if_false, pure_eq_done, bind_eq, done_bind, hzero]

/-- There is nothing to be stopped, also if the plugin were active. -/
theorem stop_eq (h : p.Partial) : p.stopPositional = pure { p with active := false } := by
  obtain ⟨entries, hb⟩ := h.current
  have hno : p.exports .stopPositional = false := h.lacks _ (by decide)
  unfold stopPositional
  cases ha : p.active with
  | false =>
    have hp : { p with active := false } = p := by rw [← ha]
    rw [hp]
    rfl
  | true => simp only [hb, notify, hno, Bool.not_true, Bool.false_eq_true, if_false, pure_eq_done,
      bind_eq, done_bind]

end Partial

/-! ## Uses -/

/-- What a plugin can be used for. -/
inductive Use where
  | init
  | shutdown
  | registerApi
  | enable (on : Bool)
  | stop
  | offer (processes : List Process)
  | fetch (before : Snapshot)
  | name
  | description
  | author
  | version
  | apiVersion
  | features
  | info
  | deactivateFeatures (requested : FeatureSet)
  | showAbout
  | showConfig
  | notify (n : Notification)
  | receive (m : Message)
  | audioInput (samples : List Int16) (channels : UInt16) (speech : Bool)
  | audioStage (stage : AudioStage) (samples : List Binary32) (channels : UInt16)

/-- Uses a plugin, and keeps the plugin that comes of it. -/
def Use.perform (p : Plugin) : Use → Interaction Plugin
  | init => Prod.snd <$> p.init
  | shutdown => p.shutdown
  | registerApi => (fun _ => p) <$> p.registerApi
  | enable on => p.enable on
  | stop => p.stopPositional
  | offer processes => Prod.snd <$> p.offer processes
  | fetch before => (fun x => x.2.1) <$> p.fetch before
  | name => (fun _ => p) <$> p.name
  | description => (fun _ => p) <$> p.description
  | author => (fun _ => p) <$> p.author
  | version => (fun _ => p) <$> p.version
  | apiVersion => (fun _ => p) <$> p.apiVersion
  | features => (fun _ => p) <$> p.features
  | info => (fun _ => p) <$> p.info
  | deactivateFeatures requested => (fun _ => p) <$> p.deactivateFeatures requested
  | showAbout => (fun _ => p) <$> p.showAbout
  | showConfig => (fun _ => p) <$> p.showConfig
  | notify n => (fun _ => p) <$> p.notifyOf n
  | receive m => (fun _ => p) <$> p.receive m
  | audioInput samples channels speech => (fun _ => p) <$> p.audioInput samples channels speech
  | audioStage stage samples channels => (fun _ => p) <$> p.audioStage stage samples channels

/-- The uses, each with what was asked and answered, lead from one plugin to the other. -/
inductive Uses (p : Plugin) : List (Use × Transcript) → Plugin → Prop
  | nil : Uses p [] p
  | snoc {us : List (Use × Transcript)} {q q' : Plugin} {use : Use} {t : Transcript}
      (h : Uses p us q) (hq : Yields (use.perform q) t q') : Uses p (us ++ [(use, t)]) q'

/-- Starting a plugin leaves it the functions that it has. -/
theorem backend_init {x : Status × Plugin} (h : Yields p.init t x) : x.2.backend = p.backend := by
  rcases init_result h with hx | hx <;> rw [hx]

namespace Partial

/-- There is no session to end. -/
theorem stop_spared (h : p.Partial) (hq : Yields p.stopPositional t q) :
    q.Partial ∧ Unpositional t := by
  rw [h.stop_eq] at hq
  obtain ⟨rfl, rfl⟩ := yields_done.1 hq
  exact ⟨h.of_backend rfl, unpositional_nil⟩

/-- Shutting down asks for the shutdown and nothing else. -/
theorem shutdown_spared (h : p.Partial) (hq : Yields p.shutdown t q) :
    q.Partial ∧ Unpositional t := by
  unfold shutdown at hq
  split at hq
  · obtain ⟨rfl, rfl⟩ := yields_done.1 hq
    exact ⟨h, unpositional_nil⟩
  · obtain ⟨_, _, r, rfl, h₁, h₂⟩ := yields_bind.1 hq
    obtain ⟨hr, hstop⟩ := h.stop_spared h₁
    obtain ⟨_, _, _, rfl, h₃, h₄⟩ := yields_bind.1 h₂
    obtain ⟨rfl, rfl⟩ := yields_done.1 h₄
    rw [notify_eq_heard () h₃, List.append_nil]
    exact ⟨hr.of_backend rfl, hstop.append (unpositional_heard rfl)⟩

/-- One use: the plugin still lacks the functions, and none of them was called. -/
theorem spared (h : p.Partial) {use : Use} (hq : Yields (use.perform p) t q) :
    q.Partial ∧ Unpositional t := by
  -- most uses ask for something else and give the plugin back as it is
  have haside {α : Type} {ps : List Purpose} {x : Interaction α} (hx : Asks ps x)
      (hps : ∀ purpose ∈ ps, purpose ∉ [Purpose.offering, .fetching, .stopping])
      (hq : Yields ((fun _ => p) <$> x) t q) : q.Partial ∧ Unpositional t := by
    obtain ⟨_, rfl, h₁⟩ := yields_map.1 hq
    exact ⟨h, hx.unpositional hps h₁⟩
  have hdone : Asks [] (pure false : Interaction Bool) := asks_done
  have hdialogs : p.showAbout = pure false ∧ p.showConfig = pure false := by
    obtain ⟨entries, hb⟩ := h.current
    simp [showAbout, showConfig, aboutDialog?, configDialog?, hb, Legacy.Adapter.showDialog]
  cases use with
  | init =>
    obtain ⟨x, rfl, h₁⟩ := yields_map.1 hq
    exact ⟨h.of_backend (backend_init h₁), asks_init.unpositional (by decide) h₁⟩
  | shutdown => exact h.shutdown_spared hq
  | registerApi => exact haside asks_registerApi (by decide) hq
  | enable on =>
    cases on with
    | true =>
      obtain ⟨rfl, rfl⟩ := enable_true_inv hq
      exact ⟨h.of_backend (by split <;> rfl), unpositional_nil⟩
    | false => exact stop_spared (p := { p with enabled := false }) (h.of_backend rfl) hq
  | stop => exact h.stop_spared hq
  | offer processes =>
    obtain ⟨x, rfl, h₁⟩ := yields_map.1 hq
    obtain ⟨rfl, rfl⟩ := yields_done.1 (h.offer_eq processes ▸ h₁)
    exact ⟨h, unpositional_nil⟩
  | fetch before =>
    obtain ⟨x, rfl, h₁⟩ := yields_map.1 hq
    obtain ⟨rfl, rfl⟩ := yields_done.1 (h.fetch_eq before ▸ h₁)
    exact ⟨h, unpositional_nil⟩
  | name => exact haside asks_name (by decide) hq
  | description => exact haside asks_description (by decide) hq
  | author => exact haside asks_author (by decide) hq
  | version => exact haside asks_version (by decide) hq
  | apiVersion => exact haside asks_apiVersion (by decide) hq
  | features => exact haside asks_features (by decide) hq
  | info => exact haside asks_info (by decide) hq
  | deactivateFeatures requested =>
    have hasks : Asks [.describing] (p.deactivateFeatures requested) := asks_callOr rfl
    exact haside hasks (by decide) hq
  | showAbout =>
    rw [Use.perform, hdialogs.1] at hq
    exact haside hdone (by decide) hq
  | showConfig =>
    rw [Use.perform, hdialogs.2] at hq
    exact haside hdone (by decide) hq
  | notify n => exact haside asks_notifyOf (by decide) hq
  | receive m => exact haside asks_receive (by decide) hq
  | audioInput samples channels speech => exact haside asks_audioInput (by decide) hq
  | audioStage stage samples channels => exact haside asks_audioStage (by decide) hq

/-- Dropping the plugin ends no session either. -/
theorem drop_spared (h : p.Partial) {u : Unit} (hu : Yields p.drop t u) : Unpositional t := by
  obtain ⟨_, _, q, rfl, h₁, h₂⟩ := yields_bind.1 hu
  rw [yields_call.1 h₂]
  exact (h.shutdown_spared h₁).2.append (unpositional_singleton rfl)

end Partial

/-- Whatever a plugin is used for, in whatever order and whatever it answers: what it lacks at the
beginning it lacks for ever. -/
theorem Uses.spared {us : List (Use × Transcript)} (hu : p.Uses us q) (h : p.Partial) :
    q.Partial ∧ ∀ x ∈ us, Unpositional x.2 := by
  induction hu with
  | nil => exact ⟨h, by simp⟩
  | snoc _ hq ih =>
    obtain ⟨hlast, hall⟩ := ih
    obtain ⟨hnext, ht⟩ := hlast.spared hq
    refine ⟨hnext, fun x hx => ?_⟩
    rcases List.mem_append.1 hx with hx | hx
    · exact hall x hx
    · rw [List.mem_singleton.1 hx]
      exact ht

/-! ## Chronicles -/

theorem Forwarded.unpositional (h : p.Forwarded t) : Unpositional t := by
  cases h with
  | unheard => exact unpositional_nil
  | heard e c r he hc =>
    exact unpositional_singleton (by cases c <;> first | rfl | simp [Call.isEvent] at hc)

theorem unpositional_activation {status : Status} : Unpositional (p.activation status) :=
  (unpositional_heard rfl).append (((unpositional_heard rfl).append (unpositional_heard rfl)).append
    (unpositional_heard rfl))

namespace Partial

variable {processes : List Process} {code : OfferCode}

theorem newborn (h : p.Partial) : p.newborn.Partial := by
  obtain ⟨entries, hb⟩ := h.current
  exact ⟨⟨entries, by rw [backend_newborn, hb]⟩, fun e he => by rw [exports_newborn, h.lacks e he]⟩

theorem of_newborn (h : p.newborn.Partial) : p.Partial := by
  obtain ⟨entries, hb⟩ := h.current
  refine ⟨⟨entries, ?_⟩, fun e he => by rw [← exports_newborn, h.lacks e he]⟩
  rw [backend_newborn] at hb
  split at hb
  · cases hb
  · exact hb

/-- An offer asks nothing. -/
theorem offered (h : p.Partial) (ho : p.Offered processes t code) : t = [] ∧ code = .permanent := by
  obtain ⟨entries, hb⟩ := h.current
  cases ho with
  | unable => exact ⟨rfl, rfl⟩
  | asked e he hhas =>
    have hno := h.lacks .offerPositional (by decide)
    simp [exports, he, hhas] at hno
  | lockless a ha | locked a ha | lockedAmong a ha =>
    rw [hb] at ha
    cases ha

/-- A plugin that never takes an offer has no session. -/
theorem not_inSession (h : p.Partial) : ¬p.InSession t := by
  intro hs
  induction hs with
  | opened processes t ht => exact absurd (h.offered ht).2 (by decide)
  | event _ _ ih => exact ih
  | fetched _ _ _ _ ih => exact ih

/-- A life of such a plugin has no calls for positional data, in any of its stages. -/
theorem inService (h : p.Partial) (hs : p.InService t) : Unpositional t := by
  induction hs with
  | started => exact unpositional_activation
  | event _ hu ih => exact ih.append hu.unpositional
  | declined _ processes hu _ ih =>
    rw [(h.offered hu).1, List.append_nil]
    exact ih
  | session _ hu => exact absurd hu h.not_inSession

theorem atRest (h : p.Partial) (hs : p.AtRest t) : Unpositional t := by
  induction hs with
  | nil => exact unpositional_nil
  | refused _ _ _ _ ih => exact ih.append (unpositional_activation.append (unpositional_heard rfl))
  | served _ hu ih => exact ih.append ((h.inService hu).append (unpositional_heard rfl))

theorem lived (h : p.Partial) {l a : Bool} (hl : p.Lived l a t) : Unpositional t := by
  cases hl with
  | resting hr => exact h.atRest hr
  | serving hr hs => exact (h.atRest hr).append (h.inService hs)
  | providing _ _ hv => exact absurd hv h.not_inSession

/-- What the plugin has heard since its creation. -/
theorem chronicle (h : p.Partial) (hc : p.Chronicle t) : Unpositional t := by
  obtain ⟨birth, life, rfl, hbirth, hlife⟩ := hc
  obtain ⟨table, u, rfl, hu, -⟩ := hbirth.read
  have hdeeds := h.newborn.lived hlife
  refine Unpositional.append ?_ fun e he => ?_
  · exact (unpositional_singleton (c := .load) rfl).append hu.unpositional
  · -- questions are asked at any time, and are not about positional data
    by_cases hq : e.isQuestion = true
    · obtain ⟨q, r⟩ := e
      cases q with
      | plugin who c => cases c <;> first | rfl | simp [Exchange.isQuestion, Call.isMetadata] at hq
      | _ => rfl
    · exact hdeeds e (List.mem_filter.2 ⟨he, by simpa using hq⟩)

/-- A step leaves the plugin without the functions, and calls it for no positional data. -/
theorem step (h : p.Partial) (hs : p.Step t q) : q.Partial ∧ Unpositional t := by
  refine ⟨of_newborn (hs.newborn_eq ▸ h.newborn), ?_⟩
  cases hs with
  | described _ ht => exact ht.unpositional
  | forwarded _ _ ht => exact ht.unpositional
  | declined _ _ _ _ _ ht =>
    rw [(h.offered ht).1]
    exact unpositional_nil
  | permitted | forbidden => exact unpositional_nil
  | started => exact unpositional_activation
  | refused => exact unpositional_activation.append (unpositional_heard rfl)
  | closed => exact unpositional_heard rfl

/-- Such a plugin does not provide positional data. -/
theorem active_eq (h : p.Partial) (hs : p.Sound) : p.active = false := by
  cases ha : p.active with
  | false => rfl
  | true =>
    obtain ⟨entries, hb⟩ := h.current
    have hno := h.lacks .stopPositional (by decide)
    simp [exports, hb, hs.stoppable ha entries hb] at hno

end Partial

end Plugin

/-! ## Registered plugins -/

namespace Registry

variable {r s s' : Registry} {p : Plugin} {t u : Transcript} {n : Nat} {h h' : History}
  {directories : PluginDirectories}

/-- The handle has been given out, whoever has it lacks functions for positional data, and none was
called under it. -/
structure Spared (n : Nat) (t : Transcript) (r : Registry) : Prop where
  given : n < r.ledger.nextHandle
  lacking : ∀ q ∈ r.plugins, q.handle = n → q.Partial
  uncalled : Unpositional (t.callsTo n)

/-- One plugin goes on: if it has the handle, it still lacks the functions and was spared. -/
theorem Spared.update {q : Plugin} (hsp : r.Spared n t) (hh : q.handle = p.handle)
    (hu : Concerns p.handle u) (hq : p.handle = n → q.Partial ∧ Unpositional u)
    (hs : s.plugins = (r.roster.update q).plugins) (hl : s.ledger = r.ledger) :
    s.Spared n (t ++ u) := by
  refine ⟨hl ▸ hsp.given, fun o ho hn => ?_, ?_⟩
  · rw [hs] at ho
    rcases Roster.mem_update.1 ho with ⟨hmem, -⟩ | ⟨rfl, -⟩
    · exact hsp.lacking o hmem hn
    · exact (hq (hh ▸ hn)).1
  · by_cases hn : p.handle = n
    · subst hn
      rw [hu.callsTo_own]
      exact hsp.uncalled.append (hq rfl).2
    · rw [hu.callsTo_others (Ne.symm hn)]
      exact hsp.uncalled

/-- A step of the registry spares the plugin with the handle: either the step is its own, or it
concerns other handles. -/
theorem Step.spared (hs : r.Step u s) (hc : r.Consistent) (hsp : r.Spared n t) :
    s.Spared n (t ++ u) := by
  cases hs with
  | roster o _ hs =>
    cases hs with
    | looked processes =>
      refine ⟨hsp.given, hsp.lacking, ?_⟩
      rw [callsTo_append]
      exact hsp.uncalled.append unpositional_nil
    | change p p' _ hp hs =>
      exact hsp.update hs.handle_eq hs.concerns
        (fun hn => (hsp.lacking p hp hn).step hs) rfl rfl
    | accepted p processes _ hp hl he hn ht =>
      -- a plugin that lacks the functions takes no offer
      refine hsp.update (q := { p with active := true }) rfl ht.concerns (fun hn => ?_) rfl rfl
      exact absurd ((hsp.lacking p hp hn).offered ht).2 (by decide)
    | released p hp ha =>
      refine hsp.update (q := { p with active := false }) rfl Plugin.concerns_farewell
        (fun hn => ?_) rfl rfl
      have := (hsp.lacking p hp hn).active_eq (hc.roster.sound p hp)
      simp [ha] at this
    | removed p hp hl =>
      refine ⟨hsp.given, fun q hq => hsp.lacking q (Roster.mem_remove.1 hq).1, ?_⟩
      have hu : Unpositional (callsTo n [⟨.plugin p.who .unload, ()⟩]) := fun e he =>
        unpositional_singleton (c := .unload) rfl e (List.mem_filter.1 he).1
      rw [callsTo_append]
      exact hsp.uncalled.append hu
  | born p _ l hb hh hl =>
    have hne : n ≠ p.handle := by
      have := hsp.given
      omega
    refine ⟨by have := hsp.given; dsimp only; omega, fun q hq hn => ?_, ?_⟩
    · rcases List.mem_append.1 hq with hq | hq
      · exact hsp.lacking q hq hn
      · rw [List.mem_singleton.1 hq] at hn
        exact absurd hn.symm hne
    · rw [hb.concerns.callsTo_others hne]
      exact hsp.uncalled
  | failed who _ l ht hh hl =>
    have hne : n ≠ who.handle := by
      have := hsp.given
      omega
    refine ⟨by have := hsp.given; dsimp only; omega, hsp.lacking, ?_⟩
    rw [ht.concerns.callsTo_others hne]
    exact hsp.uncalled
  | zeroed =>
    rw [List.append_nil]
    exact ⟨hsp.given, hsp.lacking, hsp.uncalled⟩
  | configured builtIns allowed =>
    rw [List.append_nil]
    exact ⟨hsp.given, hsp.lacking, hsp.uncalled⟩

/-- A frame comes from a provider, which has the functions. -/
theorem Fetch.spared {e : Exchange} (hf : r.Fetch e s) (hc : r.Consistent) (hsp : r.Spared n t) :
    s.Spared n (t ++ [e]) := by
  obtain ⟨p, _, f, c, hp, ha, hf, hcoh⟩ := hf
  refine hsp.update Plugin.handle_withCaches (Plugin.concerns_of_frame? hf) (fun hn => ?_) rfl rfl
  have := (hsp.lacking p hp hn).active_eq (hc.roster.sound p hp)
  simp [ha] at this

/-- A registered plugin that lacks functions for positional data has never been called for any, and
never will be, also after it is gone. -/
theorem Follows.spared (hf : (new directories).Follows h s) (hp : p ∈ s.plugins) (hpart : p.Partial)
    (hf' : s.Follows h' s') :
    Unpositional ((h.transcript ++ h'.transcript).callsTo p.handle) := by
  have hc := hf.consistent (consistent_new directories)
  have hpast := hpart.chronicle (hf.accounted.registered p hp)
  have hnow : s.Spared p.handle [] := by
    refine ⟨hc.bounded p hp, fun q hq hn => ?_, unpositional_nil⟩
    exact hc.roster.eq_of_handle_eq hq hp hn ▸ hpart
  have hthen := hf'.invariant (P := fun t r => r.Spared p.handle t) hc hnow
    (fun _ _ _ _ hc hsp hs => hs.spared hc hsp) (fun _ _ _ _ hc hsp hf => hf.spared hc hsp)
  rw [callsTo_append]
  exact hpast.append hthen.uncalled

end Registry

/-! ## Validation -/

namespace Plugin

variable {p : Plugin} {t : Transcript} {source : Source} {generation : Generation} {ledger : Ledger}

/-- A plugin of the current interface whose table lacks one of the three functions. -/
theorem Born.partial_of_lacking {table : SymbolTable} {e : EntryPoint}
    (hb : p.Born (⟨.plugin p.who .load, some table⟩ :: t)) (hg : p.generation = .current)
    (he : e ∈ EntryPoint.positional) (hx : table.exports e.symbol = false) : p.Partial := by
  obtain ⟨table', u, heq, -, hread⟩ := hb.read
  obtain rfl : table = table' := by simpa using (List.cons.inj heq).1
  generalize hbackend : p.backend = b at hread
  cases hread with
  | current entries hres =>
    obtain rfl := EntryPoints.eq_ofTable_of_resolve hres
    -- one that is missing takes the others with it
    have hgroup : EntryPoints.exportsPositional (labelled p.who.source table) = false := by
      refine Bool.eq_false_iff.2 fun hall => ?_
      have := List.all_eq_true.1 hall e he
      simp [exports_labelled, hx] at this
    refine ⟨⟨_, hbackend⟩, fun e' he' => ?_⟩
    simp [exports, hbackend, EntryPoints.has_ofTable, hgroup, he']
  | legacy a _ _ _ _ =>
    have hsuits := hb.sound.suits
    simp [hbackend, hg, Backend.Suits] at hsuits

/-- What an attempt comes to whose code was mapped with an exported table. The transcript is that of
what happened after the mapping. -/
structure Judged (source : Source) (generation : Generation) (ledger : Ledger) (table : SymbolTable)
    (t : Transcript) (x : Except PluginError Plugin × Ledger) : Prop where
  accepted : (∃ p, x.1 = .ok p) ↔
    ∀ c ∈ generation.checks (labelled source table) t.mainRecord?, c.1 = true
  error : ∀ e, x.1 = .error e ↔
    firstFault? (generation.checks (labelled source table) t.mainRecord?) = some e
  /-- One identity was taken, and an accepted plugin has it. -/
  taken : x.2 = ledger.newHandle.2.allocateId.2
  identity : ∀ p, x.1 = .ok p → p.id = ledger.ids.next
  calls : ∀ e ∈ t, ∃ who c, e.query = .plugin who c ∧ who.handle = ledger.nextHandle ∧
    (c = .unload ∨ c.isMetadata = true)
  /-- An accepted plugin that lacks a function for positional data is never called for any. It
  declines each offer for good, and each fetch zeroes the snapshot. -/
  spared : generation = .current →
    (∃ symbol ∈ ["initPositionalData", "fetchPositionalData", "shutdownPositionalData"],
      table.exports symbol = false) →
    ∀ p us q, x.1 = .ok p → p.Uses us q →
      (∀ y ∈ us, Unpositional y.2) ∧ (∀ processes, q.offer processes = pure (.permanent, q)) ∧
        (∀ before, q.fetch before = pure (false, q, .zeroed)) ∧
        ∀ u v, Yields q.drop u v → Unpositional u

/-- What is left to say of an attempt when its outcome is decided. -/
theorem create_costs {table : SymbolTable} {x : Except PluginError Plugin × Ledger}
    (h : Yields (create source generation ledger)
      (⟨.plugin ⟨ledger.nextHandle, source⟩ .load, some table⟩ :: t) x) :
    x.2 = ledger.newHandle.2.allocateId.2 ∧
      (∀ e ∈ t, ∃ who c, e.query = .plugin who c ∧ who.handle = ledger.nextHandle ∧
        (c = .unload ∨ c.isMetadata = true)) ∧
      ∀ p, x.1 = .ok p → p.id = ledger.ids.next ∧ p.generation = generation ∧
        p.Born (⟨.plugin p.who .load, some table⟩ :: t) := by
  have hattempt := attempt_inv h
  generalize hT : (⟨.plugin ⟨ledger.nextHandle, source⟩ .load, some table⟩ :: t : Transcript) = T
    at hattempt
  generalize ho : x.1.toOption = o at hattempt
  generalize hl : x.2 = l at hattempt
  cases hattempt with
  | unmapped =>
    exact absurd (List.cons.inj hT).1 (by simp)
  | refused table' u hu hg =>
    obtain ⟨-, rfl⟩ := List.cons.inj hT
    refine ⟨rfl, fun e he => ?_, fun p hp => by simp [hp, Except.toOption] at ho⟩
    rcases List.mem_append.1 he with he | he
    · obtain ⟨who, c, hq, hw, hc⟩ := hu e he
      exact ⟨who, c, hq, hw, .inr hc⟩
    · rw [List.mem_singleton.1 he]
      exact ⟨_, _, rfl, rfl, .inl rfl⟩
  | made table' u p hu hg hb hw hi hp =>
    obtain ⟨htable, rfl⟩ := List.cons.inj hT
    obtain rfl : table = table' := by simpa using htable
    refine ⟨rfl, fun e he => ?_, fun p' hp' => ?_⟩
    · obtain ⟨who, c, hq, hw, hc⟩ := hu e he
      exact ⟨who, c, hq, hw, .inr hc⟩
    · obtain rfl : p' = p := by simpa [hp', Except.toOption] using ho
      exact ⟨hi, hp, by rwa [hw]⟩

/-- **How a table is judged.** The result is that of the first check that fails; the identity is
taken before the checks. -/
theorem judged {table : SymbolTable} {x : Except PluginError Plugin × Ledger}
    (h : Yields (create source generation ledger)
      (⟨.plugin ⟨ledger.nextHandle, source⟩ .load, some table⟩ :: t) x) :
    Judged source generation ledger table t x := by
  have hdecided := create_decided h
  obtain ⟨htaken, hcalls, hmade⟩ := create_costs h
  refine ⟨?_, ?_, htaken, fun p hp => (hmade p hp).1, hcalls, ?_⟩
  · rw [← firstFault?_eq_none]
    cases hx : x.1 with
    | ok p =>
      rw [hx] at hdecided
      exact ⟨fun _ => hdecided, fun _ => ⟨p, rfl⟩⟩
    | error e =>
      rw [hx] at hdecided
      simp [show firstFault? _ = some e from hdecided]
  · intro e
    cases hx : x.1 with
    | ok p =>
      rw [hx] at hdecided
      simp [show firstFault? _ = none from hdecided]
    | error e' =>
      rw [hx] at hdecided
      simp [show firstFault? _ = some e' from hdecided]
  · rintro hg ⟨symbol, hsymbol, hlacks⟩ p us q hp hus
    obtain ⟨-, hpg, hborn⟩ := hmade p hp
    obtain ⟨e, he, rfl⟩ : ∃ e ∈ EntryPoint.positional, e.symbol = symbol :=
      List.mem_map.1 (show symbol ∈ EntryPoint.positional.map (·.symbol) from hsymbol)
    obtain ⟨hpartial, huses⟩ := hus.spared (hborn.partial_of_lacking (hpg.trans hg) he hlacks)
    exact ⟨huses, hpartial.offer_eq, hpartial.fetch_eq, fun u v => hpartial.drop_spared⟩

/-- Whatever the world outside does, an attempt comes to an end, and is judged. -/
theorem judged_run {σ : Type} (world : World σ) (s : σ) {table : SymbolTable}
    (h : (world (.plugin ⟨ledger.nextHandle, source⟩ .load) s).1 = some table) :
    ∃ t, Judged source generation ledger table t
      ((create source generation ledger).run world s).1 := by
  obtain ⟨t, ht⟩ : ∃ t, Yields (create source generation ledger)
      (⟨.plugin ⟨ledger.nextHandle, source⟩ .load,
        (world (.plugin ⟨ledger.nextHandle, source⟩ .load) s).1⟩ :: t)
      ((create source generation ledger).run world s).1 :=
    (exists_yields_run world _ _).imp fun t ht => .ask _ ht
  rw [h] at ht
  exact ⟨t, judged ht⟩

end Plugin

/-- The table of a registered plugin is what the loader returned in the first exchange with it. -/
theorem Registry.Follows.partial_of_lacking {directories : PluginDirectories} {h : History}
    {s : Registry} {p : Plugin} {table : SymbolTable} {e : EntryPoint}
    (hf : (Registry.new directories).Follows h s) (hp : p ∈ s.plugins)
    (htable : (h.transcript.callsTo p.handle).head? = some ⟨.plugin p.who .load, some table⟩)
    (hg : p.generation = .current) (he : e ∈ EntryPoint.positional)
    (hx : table.exports e.symbol = false) : p.Partial := by
  obtain ⟨birth, life, hcalls, hbirth, -⟩ := hf.accounted.registered p hp
  obtain ⟨table', u, rfl, -⟩ := hbirth.read
  rw [hcalls, List.cons_append, List.head?_cons, Plugin.who_newborn] at htable
  obtain rfl : table' = table := by simpa using htable
  exact .of_newborn (hbirth.partial_of_lacking (by simpa [Plugin.newborn, Plugin.asleep] using hg)
    he hx)

/-! ## A plugin with two of the three functions -/

namespace Half

/-- What it exports: what is mandatory, and two functions for positional data. -/
def table : SymbolTable :=
  ⟨"half", (EntryPoint.mandatory ++ [EntryPoint.offerPositional, .fetchPositional]).map
    fun e => (e.symbol, 1)⟩

def answer : (q : Query) → q.Reply
  | .plugin _ .load => some table
  | .plugin _ .apiVersion => .pluginApi
  | .plugin _ c => c.silence
  | .processes => []
  | .report _ => ()
  | .write _ => .ok ()
  | .pause _ => ()

/-- The plugin as it is created. -/
def created : Plugin :=
  ⟨⟨0, .builtIn 0⟩, 1, .current, "half", .current (EntryPoints.ofTable table), true, false, false,
    false⟩

def scanned : History × Registry :=
  Duo.start.record answer [.registerBuiltIn ⟨"half", .current⟩, .rescan ⟨[], []⟩]

/-- The plugin is offered positional data, and is shut down. -/
def later : History × Registry := scanned.2.record answer [.tick, .unload 1]

end Half

/-- **Validation is exact.** A table of exports is accepted if and only if it passes all the checks
of its generation, and otherwise the error names the first fault in the order in which they are
written. One identity is taken either way, and nothing is called but metadata and, in the end, the
release of the library. A current plugin that lacks a function for positional data is never called
for any, in its own hands or in a registry. -/
theorem validation_exact :
    (∀ source generation ledger table t x, Yields (Plugin.create source generation ledger)
        (⟨.plugin ⟨ledger.nextHandle, source⟩ .load, some table⟩ :: t) x →
      Plugin.Judged source generation ledger table t x) ∧
    (∀ {σ : Type} (world : World σ) (s : σ) source generation ledger table,
      (world (.plugin ⟨ledger.nextHandle, source⟩ .load) s).1 = some table → ∃ t,
        Plugin.Judged source generation ledger table t
          ((Plugin.create source generation ledger).run world s).1) ∧
    ∀ directories h s p table h' s', (Registry.new directories).Follows h s → p ∈ s.plugins →
      p.generation = .current →
      (h.transcript.callsTo p.handle).head? = some ⟨.plugin p.who .load, some table⟩ →
      (∃ symbol ∈ ["initPositionalData", "fetchPositionalData", "shutdownPositionalData"],
        table.exports symbol = false) →
      s.Follows h' s' → Unpositional ((h.transcript ++ h'.transcript).callsTo p.handle) := by
  refine ⟨fun _ _ _ _ _ _ => Plugin.judged, fun world s _ _ _ _ => Plugin.judged_run world s, ?_⟩
  rintro directories h s p table h' s' hf hp hg htable ⟨symbol, hsymbol, hlacks⟩ hf'
  obtain ⟨e, he, rfl⟩ : ∃ e ∈ EntryPoint.positional, e.symbol = symbol :=
    List.mem_map.1 (show symbol ∈ EntryPoint.positional.map (·.symbol) from hsymbol)
  exact hf.spared hp (hf.partial_of_lacking hp htable hg he hlacks) hf'

/-- A table that has two of the three functions for positional data is accepted, declines every
offer for good, and is spared in a registry that ticks and unloads it. -/
theorem validation_exact_half :
    (∃ x, Yields (Plugin.create (.builtIn 0) .current .initial)
        [⟨.plugin ⟨0, .builtIn 0⟩ .load, some Half.table⟩] x ∧ x.1 = .ok Half.created ∧
      Half.created.id = 1 ∧
      Half.created.offer [⟨"game", 7⟩] = pure (.permanent, Half.created)) ∧
      Unpositional ((Half.scanned.1.transcript ++ Half.later.1.transcript).callsTo 0) := by
  obtain ⟨hcreate, -, hregistry⟩ := validation_exact
  have hyields : Yields (Plugin.create (.builtIn 0) .current .initial)
      [⟨.plugin ⟨0, .builtIn 0⟩ .load, some Half.table⟩] (.ok Half.created, ⟨⟨2⟩, 1⟩) :=
    yields_record Half.answer (Plugin.create (.builtIn 0) .current .initial)
  have hlacks : ∃ symbol ∈
      ["initPositionalData", "fetchPositionalData", "shutdownPositionalData"],
      Half.table.exports symbol = false := ⟨"shutdownPositionalData", by decide, by decide +kernel⟩
  have hjudged := hcreate (.builtIn 0) .current .initial Half.table [] _ hyields
  refine ⟨⟨_, hyields, rfl, ?_, ?_⟩, ?_⟩
  · exact hjudged.identity _ rfl
  · exact (hjudged.spared rfl hlacks Half.created [] Half.created rfl .nil).2.1 _
  · exact hregistry ⟨none, none⟩ _ Half.scanned.2
      { Half.created with loaded := true, enabled := true }
      Half.table _ _ (Registry.follows_record ..) (by decide +kernel) rfl rfl hlacks
      (Registry.follows_record ..)

end PluginHost
