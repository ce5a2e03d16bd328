import PluginHost.Interaction

/-!
# Transcripts

Which transcripts lead an interaction to which result, for each way of building an interaction, and
the part of a transcript that is about one plugin.

* **`Interaction.yields_call`**, **`yields_traverse_cons`**, **`yields_foldM_cons`**: the transcript
  of a composed interaction falls apart into those of its parts.
* **`Steps`**: the closure of a step relation, with the transcripts in a row.
* **`Transcript.callsTo`**: the exchanges with the plugin that has a handle, in their order.
* **`Call.isService`**: the calls that only a loaded plugin may get: offers, fetches, events and
  audio hooks. **`Call.isMetadata`**: the questions about a plugin that change nothing.
* **`Interaction.record`**: plays an interaction against plugins that answer the same question
  always in the same way, and keeps the transcript. Such a transcript is one of those that `Yields`
  allows.
-/

namespace PluginHost

namespace Interaction

variable {α β : Type} {t : Transcript}

/-! ## Parts of a transcript -/

/-- From here on, what it takes for an interaction to leave a transcript, by how it is built. -/
@[simp] theorem yields_query {q : Query} {r : q.Reply} :
    Yields (query q) t r ↔ t = [⟨q, r⟩] := by
  constructor
  · intro h
    obtain ⟨r', u, rfl, h'⟩ := yields_ask.1 h
    obtain ⟨rfl, rfl⟩ := yields_done.1 h'
    rfl
  · rintro rfl
    exact .ask r (.done r)

@[simp] theorem yields_call {who : Occupant} {c : Call} {r : c.Reply} :
    Yields (call who c) t r ↔ t = [⟨.plugin who c, r⟩] :=
  yields_query (q := .plugin who c)

@[simp] theorem yields_traverse_nil {f : α → Interaction β} {bs : List β} :
    Yields (traverse f []) t bs ↔ t = [] ∧ bs = [] := by
  simp [traverse]

/-- Going through a list asks for each item in turn. -/
theorem yields_traverse_cons {f : α → Interaction β} {a : α} {as : List α} {bs : List β} :
    Yields (traverse f (a :: as)) t bs ↔
      ∃ u v b cs, t = u ++ v ∧ bs = b :: cs ∧ Yields (f a) u b ∧ Yields (traverse f as) v cs := by
  simp only [traverse, yields_bind, yields_done]
  constructor
  · rintro ⟨u, _, b, rfl, hu, v, _, cs, rfl, hv, rfl, rfl⟩
    exact ⟨u, v, b, cs, by simp, rfl, hu, hv⟩
  · rintro ⟨u, v, b, cs, rfl, rfl, hu, hv⟩
    exact ⟨u, v, b, rfl, hu, v, [], cs, by simp, hv, rfl, rfl⟩

@[simp] theorem yields_foldM_nil {f : β → α → Interaction β} {b c : β} :
    Yields (foldM f b []) t c ↔ t = [] ∧ c = b := by
  simp [foldM]

theorem yields_foldM_cons {f : β → α → Interaction β} {b c : β} {a : α} {as : List α} :
    Yields (foldM f b (a :: as)) t c ↔
      ∃ u v d, t = u ++ v ∧ Yields (f b a) u d ∧ Yields (foldM f d as) v c := by
  simp only [foldM, yields_bind]

/-- Mapping over the result leaves the transcript as it is. -/
theorem yields_map {x : Interaction α} {f : α → β} {b : β} :
    Yields (f <$> x) t b ↔ ∃ a, b = f a ∧ Yields x t a := by
  change Yields (x.bind fun a => done (f a)) t b ↔ _
  simp only [yields_bind, yields_done]
  constructor
  · rintro ⟨u, _, a, rfl, hu, rfl, rfl⟩
    exact ⟨a, rfl, by simpa using hu⟩
  · rintro ⟨a, rfl, h⟩
    exact ⟨t, [], a, by simp, h, rfl, rfl⟩

/-- Every result of a traversal is the result of the action on some element. -/
theorem mem_of_yields_traverse {f : α → Interaction β} {as : List α} {bs : List β}
    (h : Yields (traverse f as) t bs) {b : β} (hb : b ∈ bs) :
    ∃ a ∈ as, ∃ u, Yields (f a) u b := by
  induction as generalizing t bs with
  | nil =>
    obtain ⟨-, rfl⟩ := yields_traverse_nil.1 h
    simp at hb
  | cons a as ih =>
    obtain ⟨u, v, b', cs, rfl, rfl, hu, hv⟩ := yields_traverse_cons.1 h
    -- it comes from the element in front or from one of the rest
    rcases List.mem_cons.1 hb with rfl | hb
    · exact ⟨a, by simp, u, hu⟩
    · obtain ⟨a', ha', w, hw⟩ := ih hv hb
      exact ⟨a', List.mem_cons_of_mem a ha', w, hw⟩

/-! ## Runs against plugins without memory -/

/-- Plays an interaction against a world that answers each query always in the same way. Returns
the transcript and the result. -/
def record (answer : (q : Query) → q.Reply) : Interaction α → Transcript × α
  | done a => ([], a)
  | ask q next =>
    let r := (next (answer q)).record answer
    (⟨q, answer q⟩ :: r.1, r.2)

/-- A world that answers each query in one way leaves a transcript. -/
theorem yields_record (answer : (q : Query) → q.Reply) (x : Interaction α) :
    Yields x (x.record answer).1 (x.record answer).2 := by
  induction x with
  | done a => exact .done a
  | ask q next ih => exact .ask _ (ih (answer q))

/-- In a recorded transcript every answer is the one that the world always gives. -/
theorem reply_of_mem_record {answer : (q : Query) → q.Reply} {x : Interaction α} {q : Query}
    {r : q.Reply} (h : ⟨q, r⟩ ∈ (x.record answer).1) : r = answer q := by
  induction x with
  | done a => cases h
  | ask q' next ih =>
    rcases List.mem_cons.1 h with he | h
    · cases he
      rfl
    · exact ih (answer q') h

end Interaction

/-! ## Steps -/

/-- Steps one after the other, with everything that is asked and answered in them. -/
inductive Steps {σ : Type} (step : σ → Transcript → σ → Prop) : σ → Transcript → σ → Prop
  | refl (a : σ) : Steps step a [] a
  | tail {a b c : σ} {t u : Transcript} (h : Steps step a t b) (hs : step b u c) :
      Steps step a (t ++ u) c

namespace Steps

variable {σ : Type} {step : σ → Transcript → σ → Prop} {a b c : σ} {t u : Transcript}

theorem of_step (h : step a t b) : Steps step a t b := by
  simpa using (Steps.refl a).tail h

/-- Sequences of steps are put together. -/
theorem trans (h : Steps step a t b) (h' : Steps step b u c) : Steps step a (t ++ u) c := by
  induction h' with
  | refl => simpa using h
  | tail _ hs ih => simpa [List.append_assoc] using ih.tail hs

end Steps

/-! ## Exchanges with one plugin -/

/-- The handle of the plugin that a query is put to. -/
def Exchange.handle? (e : Exchange) : Option Nat :=
  match e.query with
  | .plugin who _ => some who.handle
  | _ => none

namespace Transcript

/-- The exchanges with the plugin that has a handle. -/
def callsTo (n : Nat) (t : Transcript) : Transcript := t.filter fun e => e.handle? == some n

/-- All exchanges are with the plugin that has a handle. -/
def Concerns (n : Nat) (t : Transcript) : Prop := ∀ e ∈ t, e.handle? = some n

variable {n m : Nat} {t u : Transcript}

@[simp] theorem callsTo_append : callsTo n (t ++ u) = callsTo n t ++ callsTo n u :=
  List.filter_append ..

theorem Concerns.callsTo_self (h : Concerns n t) : callsTo n t = t :=
  List.filter_eq_self.2 fun e he => by simp [h e he]

theorem Concerns.callsTo_of_ne (h : Concerns n t) (hne : m ≠ n) : callsTo m t = [] :=
  List.filter_eq_nil_iff.2 fun e he => by simpa [h e he] using hne.symm

/-- What concerns a plugin is added to its calls. -/
theorem Concerns.callsTo_own (h : Concerns n u) : callsTo n (t ++ u) = callsTo n t ++ u := by
  rw [callsTo_append, h.callsTo_self]

/-- Calls to one plugin are not calls to the others. -/
theorem Concerns.callsTo_others (h : Concerns n u) (hne : m ≠ n) :
    callsTo m (t ++ u) = callsTo m t := by
  rw [callsTo_append, h.callsTo_of_ne hne, List.append_nil]

theorem Concerns.append (ht : Concerns n t) (hu : Concerns n u) : Concerns n (t ++ u) :=
  fun e he => (List.mem_append.1 he).elim (ht e) (hu e)

theorem concerns_nil : Concerns n [] := by simp [Concerns]

theorem concerns_singleton {who : Occupant} {c : Call} {r : c.Reply} :
    Concerns who.handle [⟨.plugin who c, r⟩] := by
  intro e he
  rw [List.mem_singleton.1 he]
  rfl

end Transcript

/-! ## Kinds of calls -/

namespace Call

/-- Events and audio hooks. -/
def isEvent : Call → Bool
  | serverConnected _ | serverDisconnected _ | channelEntered .. | channelExited ..
  | talkingChanged .. | receiveData .. | audioInput .. | audioFetched .. | audioProcessed ..
  | audioOutput _ => true
  | _ => false

/-- What a plugin is loaded for: events, audio hooks, offers of positional data and fetches. -/
def isService : Call → Bool
  | offerPositional .. | tryLock | tryLockAmong _ | fetchPositional | fetchLegacy => true
  | c => c.isEvent

/-- Questions about a plugin. -/
def isMetadata : Call → Bool
  | name | apiVersion | version | author | description | features | primaryFactory | extendedFactory
  | dialogFactory | longDescription => true
  | _ => false

theorem not_isService_of_isMetadata {c : Call} (h : c.isMetadata = true) : c.isService = false := by
  cases c <;> first | rfl | simp [isMetadata] at h

end Call

def Exchange.isService (e : Exchange) : Bool :=
  match e.query with
  | .plugin _ c => c.isService
  | _ => false

namespace Transcript

/-- No exchange is service. -/
def Restful (t : Transcript) : Prop := ∀ e ∈ t, e.isService = false

/-- All exchanges are questions about the plugin that has a handle. -/
def Descriptive (n : Nat) (t : Transcript) : Prop :=
  ∀ e ∈ t, ∃ who c, e.query = .plugin who c ∧ who.handle = n ∧ c.isMetadata = true

variable {n : Nat} {t u : Transcript}

theorem restful_nil : Restful [] := by simp [Restful]

theorem Restful.append (ht : Restful t) (hu : Restful u) : Restful (t ++ u) :=
  fun e he => (List.mem_append.1 he).elim (ht e) (hu e)

theorem restful_singleton {who : Occupant} {c : Call} {r : c.Reply} (h : c.isService = false) :
    Restful [⟨.plugin who c, r⟩] := by
  intro e he
  rw [List.mem_singleton.1 he]
  exact h

theorem descriptive_nil : Descriptive n [] := by simp [Descriptive]

theorem Descriptive.append (ht : Descriptive n t) (hu : Descriptive n u) : Descriptive n (t ++ u) :=
  fun e he => (List.mem_append.1 he).elim (ht e) (hu e)

theorem descriptive_singleton {who : Occupant} {c : Call} {r : c.Reply} (h : c.isMetadata = true) :
    Descriptive who.handle [⟨.plugin who c, r⟩] := by
  intro e he
  rw [List.mem_singleton.1 he]
  exact ⟨who, c, rfl, rfl, h⟩

theorem Descriptive.concerns (h : Descriptive n t) : Concerns n t := by
  intro e he
  obtain ⟨who, c, hq, rfl, -⟩ := h e he
  simp [Exchange.handle?, hq]

theorem Descriptive.restful (h : Descriptive n t) : Restful t := by
  intro e he
  obtain ⟨who, c, hq, -, hc⟩ := h e he
  simp [Exchange.isService, hq, Call.not_isService_of_isMetadata hc]

end Transcript

end PluginHost
