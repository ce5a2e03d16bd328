import PluginHost.Proofs.Plugin.Step

/-!
# The call protocol

What a plugin may rely on about the order in which it is called. The questions about a plugin may
come at any time, so the protocol is about the other calls.

* **`Plugin.InSession`**, **`Plugin.InService`**, **`Plugin.AtRest`**: the grammar, from the inside
  to the outside. A session lies in a loaded phase, and the loaded phases lie between the creation
  and the end of the plugin.
* **`Plugin.Lived`**: how far into the grammar a plugin is that has certain flags.
* **`Step.lived`**: a step goes on in the grammar.
* **`Plugin.Finished`**: a whole life.
-/

namespace PluginHost

/-- Whether an exchange is a question about a plugin. -/
def Exchange.isQuestion (e : Exchange) : Bool :=
  match e.query with
  | .plugin _ c => c.isMetadata
  | _ => false

namespace Transcript

/-- What is left without the questions. -/
def deeds (t : Transcript) : Transcript := t.filter fun e => !e.isQuestion

variable {n : Nat} {t u : Transcript}

@[simp] theorem deeds_nil : deeds [] = [] := rfl

@[simp] theorem deeds_append : deeds (t ++ u) = deeds t ++ deeds u := List.filter_append ..

theorem deeds_eq_self (h : ∀ e ∈ t, e.isQuestion = false) : deeds t = t :=
  List.filter_eq_self.2 fun e he => by simp [h e he]

theorem Descriptive.deeds_eq_nil (h : Descriptive n t) : deeds t = [] := by
  apply List.filter_eq_nil_iff.2
  intro e he
  obtain ⟨who, c, hq, -, hc⟩ := h e he
  simp [Exchange.isQuestion, hq, hc]

/-- A call that is no question is a deed. -/
theorem deeds_singleton {who : Occupant} {c : Call} {r : c.Reply} (h : c.isMetadata = false) :
    deeds [⟨.plugin who c, r⟩] = [⟨.plugin who c, r⟩] := by
  apply deeds_eq_self
  intro e he
  rw [List.mem_singleton.1 he]
  exact h

end Transcript

namespace Plugin

open Interaction Transcript

variable {p p' : Plugin} {d t u : Transcript} {processes : List Process} {code : OfferCode}

/-! ## Calls that are not questions -/

theorem deeds_heard {e : EntryPoint} {c : Call} {r : c.Reply} (h : c.isMetadata = false) :
    deeds (p.heard e c r) = p.heard e c r := by
  unfold heard
  split
  · exact deeds_singleton h
  · rfl

theorem deeds_activation {status : Status} :
    deeds (p.activation status) = p.activation status := by
  simp only [activation, opening, deeds_append]
  rw [deeds_heard rfl, deeds_heard rfl, deeds_heard rfl, deeds_heard rfl]

theorem Forwarded.deeds_eq (h : p.Forwarded t) : deeds t = t := by
  cases h with
  | unheard => rfl
  | heard e c r he hc =>
    exact deeds_singleton (by cases c <;> first | rfl | simp [Call.isEvent] at hc)

theorem Offered.deeds_eq (h : p.Offered processes t code) : deeds t = t := by
  cases h <;> rfl

theorem deeds_of_frame? {e : Exchange} {x : Occupant × Frame} (h : e.frame? = some x) :
    deeds [e] = [e] := by
  unfold Exchange.frame? at h
  split at h
  · exact deeds_singleton rfl
  · exact deeds_singleton rfl
  · simp at h

theorem deeds_parting : deeds p.parting = p.parting := by
  unfold parting
  repeat' split
  all_goals first | exact deeds_heard rfl | exact deeds_singleton rfl | rfl

/-! ## What does not depend on the flags

The grammar is about the plugin as it was created. -/

theorem backend_newborn : p.newborn.backend = match p.backend with
    | .legacy a => .legacy { a with contextCache := .empty, identityCache := .empty }
    | b => b := by
  unfold newborn withCaches asleep
  cases p.backend <;> rfl

/-- What happens to a plugin later does not change what it may be called for. -/
theorem Forwarded.newborn (h : p.Forwarded t) : p.newborn.Forwarded t := by
  cases h with
  | unheard => exact .unheard
  | heard e c r he hc =>
    rw [← who_newborn]
    exact .heard e c r (by rwa [exports_newborn]) hc

theorem Offered.newborn (h : p.Offered processes t code) : p.newborn.Offered processes t code := by
  have hb := p.backend_newborn
  cases h with
  | unable e he hno => exact .unable e (by rw [hb, he]) hno
  | asked e he hyes code =>
    rw [← who_newborn]
    exact .asked e (by rw [hb, he]) hyes code
  | lockless a ha => exact .lockless _ (by rw [hb, ha])
  | locked a ha r =>
    rw [← who_newborn]
    exact .locked _ (by rw [hb, ha]) r
  | lockedAmong a ha r =>
    rw [← who_newborn]
    exact .lockedAmong _ (by rw [hb, ha]) r

/-! ## The grammar -/

/-- What a plugin hears in a session that is open: the offer that it took, then events and
fetches. -/
inductive InSession (p : Plugin) : Transcript → Prop
  | opened (processes : List Process) (t : Transcript) (ht : p.Offered processes t .ok) :
      InSession p t
  | event {t u : Transcript} (h : InSession p t) (hu : p.Forwarded u) : InSession p (t ++ u)
  | fetched {t : Transcript} (h : InSession p t) (e : Exchange) (f : Frame)
      (hf : e.frame? = some (p.who, f)) : InSession p (t ++ [e])

/-- What a plugin hears in a loaded phase while no session is open: an activation in which it said
that it started, then events, offers that it did not take, and sessions that ended. -/
inductive InService (p : Plugin) : Transcript → Prop
  | started (status : Status) (hs : status.isOk = true) : InService p (p.activation status)
  | event {t u : Transcript} (h : InService p t) (hu : p.Forwarded u) : InService p (t ++ u)
  | declined {t u : Transcript} {code : OfferCode} (h : InService p t) (processes : List Process)
      (hu : p.Offered processes u code) (hc : code ≠ .ok) : InService p (t ++ u)
  | session {t u : Transcript} (h : InService p t) (hu : p.InSession u) :
      InService p (t ++ (u ++ p.parting))

/-- What a plugin hears up to a moment in which it is not loaded: activations in which it did not
say that it started, each with a shutdown right after it, and loaded phases, each with a shutdown at
its end. -/
inductive AtRest (p : Plugin) : Transcript → Prop
  | nil : AtRest p []
  | refused {t : Transcript} (h : AtRest p t) (status : Status) (hs : status.isOk = false)
      (he : p.exports .init = true) :
      AtRest p (t ++ (p.activation status ++ p.heard .shutdown .shutdown ()))
  | served {t u : Transcript} (h : AtRest p t) (hu : p.InService u) :
      AtRest p (t ++ (u ++ p.heard .shutdown .shutdown ()))

/-- How far into the grammar a plugin is: its flags say which of the brackets are open. -/
inductive Lived (p : Plugin) : Bool → Bool → Transcript → Prop
  | resting {t : Transcript} (h : p.AtRest t) : Lived p false false t
  | serving {t u : Transcript} (h : p.AtRest t) (hu : p.InService u) : Lived p true false (t ++ u)
  | providing {t u v : Transcript} (h : p.AtRest t) (hu : p.InService u) (hv : p.InSession v) :
      Lived p true true (t ++ (u ++ v))

namespace Lived

variable {a : Bool}

/-- Events are for plugins that are loaded, with or without a session. -/
theorem event (h : p.Lived true a d) (hu : p.Forwarded u) : p.Lived true a (d ++ u) := by
  cases h with
  | serving h hs =>
    rw [List.append_assoc]
    exact .serving h (hs.event hu)
  | providing h hs hv =>
    rw [List.append_assoc, List.append_assoc]
    exact .providing h hs (hv.event hu)

/-- From here on, one lemma for each thing that may happen to a plugin: its life goes on in the
grammar. -/
theorem offer (h : p.Lived true false d) (hu : p.Offered processes u code) :
    p.Lived true (decide (code = .ok)) (d ++ u) := by
  cases h with
  | serving h hs =>
    rw [List.append_assoc]
    by_cases hc : code = .ok
    · subst hc
      exact .providing h hs (.opened processes u hu)
    · rw [decide_eq_false hc]
      exact .serving h (hs.declined processes hu hc)

theorem fetch {e : Exchange} {f : Frame} (h : p.Lived true true d)
    (hf : e.frame? = some (p.who, f)) : p.Lived true true (d ++ [e]) := by
  cases h with
  | providing h hs hv =>
    rw [List.append_assoc, List.append_assoc]
    exact .providing h hs (hv.fetched e f hf)

/-- The end of a session is a part of the loaded phase that it lies in. -/
theorem stop (h : p.Lived true true d) : p.Lived true false (d ++ p.parting) := by
  cases h with
  | providing h hs hv =>
    rw [List.append_assoc, List.append_assoc]
    exact .serving h (hs.session hv)

theorem start {status : Status} (h : p.Lived false false d) (hs : status.isOk = true) :
    p.Lived true false (d ++ p.activation status) := by
  cases h with
  | resting h => exact .serving h (.started status hs)

/-- A plugin that refuses to start is shut down. -/
theorem refuse {status : Status} (h : p.Lived false false d) (hs : status.isOk = false)
    (he : p.exports .init = true) :
    p.Lived false false (d ++ (p.activation status ++ p.heard .shutdown .shutdown ())) := by
  cases h with
  | resting h => exact .resting (h.refused status hs he)

theorem close (h : p.Lived true false d) :
    p.Lived false false (d ++ p.heard .shutdown .shutdown ()) := by
  cases h with
  | serving h hs =>
    rw [List.append_assoc]
    exact .resting (h.served hs)

end Lived

/-! ## Steps -/

/-- A step goes on in the grammar, from where the flags of the plugin say that it is. -/
theorem Step.lived (h : p.Step t p') (hs : p.Sound)
    (hl : p.newborn.Lived p.loaded p.active d) :
    p'.newborn.Lived p'.loaded p'.active (d ++ deeds t) := by
  rw [h.newborn_eq]
  cases h with
  | described _ ht =>
    rw [ht.deeds_eq_nil, List.append_nil]
    exact hl
  | forwarded _ hload ht =>
    rw [ht.deeds_eq]
    rw [hload] at hl ⊢
    exact hl.event ht.newborn
  | declined processes _ code hload ha ht hc =>
    -- an offer that is not taken opens no session
    rw [ht.deeds_eq]
    rw [hload, ha] at hl ⊢
    have := hl.offer ht.newborn
    rwa [decide_eq_false hc] at this
  -- what a plugin may do is not in the grammar
  | permitted hload => simpa using hl
  | forbidden ha => simpa using hl
  | started hload status hst =>
    obtain ⟨-, ha⟩ := hs.flags_of_unloaded hload
    dsimp only
    rw [deeds_activation, ha, ← activation_newborn]
    rw [hload, ha] at hl
    exact hl.start hst
  | refused hload status hst he =>
    -- the activation and the shutdown come in one step, so nothing comes between them
    obtain ⟨-, ha⟩ := hs.flags_of_unloaded hload
    rw [deeds_append, deeds_activation, deeds_heard rfl, ← activation_newborn, ← heard_newborn]
    rw [hload, ha] at hl ⊢
    exact hl.refuse hst (by rwa [exports_newborn])
  | closed hload ha =>
    rw [deeds_heard rfl, ← heard_newborn]
    rw [hload, ha] at hl
    exact hl.close

/-! ## Lives -/

/-- What a registered plugin has heard so far: its creation, and what its flags say. -/
def Chronicle (p : Plugin) (t : Transcript) : Prop :=
  ∃ birth life, t = birth ++ life ∧ p.newborn.Born birth ∧
    p.newborn.Lived p.loaded p.active (deeds life)

/-- A plugin that was just born has no life behind it. -/
theorem Born.chronicle (h : p.Born t) : p.Chronicle t := by
  obtain ⟨-, ha⟩ := h.sound.flags_of_unloaded h.unloaded
  refine ⟨t, [], by simp, by rwa [h.newborn_eq], ?_⟩
  rw [h.unloaded, ha]
  exact .resting .nil

/-- A chronicle goes on with what goes on in the grammar. -/
theorem Chronicle.extend (h : p.Chronicle t) (hn : p'.newborn = p.newborn)
    (hl : ∀ d, p.newborn.Lived p.loaded p.active d →
      p'.newborn.Lived p'.loaded p'.active (d ++ deeds u)) : p'.Chronicle (t ++ u) := by
  obtain ⟨birth, life, rfl, hb, hlife⟩ := h
  refine ⟨birth, life ++ u, List.append_assoc .., by rwa [hn], ?_⟩
  rw [deeds_append]
  exact hl _ hlife

/-- A whole life: the plugin is created, is called as the grammar says, and is not loaded when the
loader lets go of it. What is exported decides which of the calls there are. -/
structure Finished (p : Plugin) (t : Transcript) : Prop where
  calls : ∃ birth life, t = birth ++ life ++ [⟨.plugin p.who .unload, ()⟩] ∧ p.Born birth ∧
    p.AtRest (deeds life)
  mandatory : p.generation = .current → ∀ e ∈ EntryPoint.mandatory, p.exports e = true
  stoppable : p.exports .offerPositional = true → p.exports .stopPositional = true
  older : p.generation = .legacy → ∀ e, p.exports e = false

/-- The life of a plugin that is not loaded any more ends with the release of its code. -/
theorem Chronicle.finished (h : p.Chronicle t) (hs : p.Sound) (hl : p.loaded = false) :
    p.newborn.Finished (t ++ [⟨.plugin p.who .unload, ()⟩]) := by
  obtain ⟨birth, life, rfl, hb, hlife⟩ := h
  obtain ⟨-, ha⟩ := hs.flags_of_unloaded hl
  rw [hl, ha] at hlife
  cases hlife with
  | resting hlife =>
    refine ⟨⟨birth, life, by rw [who_newborn], hb, hlife⟩, hb.sound.exports_mandatory,
      hb.sound.exports_stop, hb.sound.not_exports⟩

end Plugin

end PluginHost
