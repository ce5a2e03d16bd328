import PluginHost.Proofs.Plugin.Life

/-!
# Offers, fetches and events of one plugin

What a plugin is asked while it is loaded, and what the host makes of the answers.

* **`Plugin.Offered`** and **`offer_inv`**: the cases of an offer of positional data. A plugin is
  active afterwards iff the code is `ok`.
* **`Exchange.frame?`**: the frame that a fetch brought, read off the exchange alone. The change
  caches of older plugins do not show in it.
* **`Plugin.Fetched`** and **`fetch_inv`**: a fetch brings at most one frame, and the snapshot is
  that frame written into the old one.
* **`Plugin.Forwarded`**: an event or an audio buffer makes at most one call.
-/

namespace PluginHost

/-! ## Frames -/

/-- The frame that an older plugin left behind. -/
def Legacy.Adapter.frameOf (r : LegacyFetchReply) : Frame :=
  ⟨r.vectors, Utf8.decode (contextBytes r), Wide.decode (identityUnits r), r.attached != 0⟩

/-- The plugin that an exchange fetched from, and the frame that it brought. -/
def Exchange.frame? : Exchange → Option (Occupant × Frame)
  | ⟨.plugin who .fetchPositional, r⟩ => some (who, Plugin.frameOf r)
  | ⟨.plugin who .fetchLegacy, r⟩ => some (who, Legacy.Adapter.frameOf r)
  | _ => none

/-- A fetch is service. -/
theorem Exchange.frame?_eq_none {e : Exchange} (h : e.isService = false) : e.frame? = none := by
  obtain ⟨q, r⟩ := e
  -- the two calls that bring a frame are service
  cases q with
  | plugin who c => cases c <;> first | rfl | simp [Exchange.isService, Call.isService] at h
  | _ => rfl

theorem Plugin.concerns_of_frame? {p : Plugin} {e : Exchange} {f : Frame}
    (h : e.frame? = some (p.who, f)) : Transcript.Concerns p.handle [e] := by
  intro e' he
  rw [List.mem_singleton.1 he]
  unfold Exchange.frame? at h
  split at h
  · simp_all [Exchange.handle?, Plugin.handle]
  · simp_all [Exchange.handle?, Plugin.handle]
  · simp at h

/-- The frames that a transcript brought. -/
def Transcript.frames (t : Transcript) : List (Occupant × Frame) := t.filterMap Exchange.frame?

@[simp] theorem Transcript.frames_append (t u : Transcript) :
    Transcript.frames (t ++ u) = Transcript.frames t ++ Transcript.frames u :=
  List.filterMap_append

theorem Transcript.Restful.frames {t : Transcript} (h : t.Restful) : t.frames = [] :=
  List.filterMap_eq_nil_iff.2 fun e he => Exchange.frame?_eq_none (h e he)

namespace Plugin

open Interaction Transcript

variable {p p' : Plugin} {t : Transcript}

/-! ## Caches -/

/-- The plugin with other change caches; only an older plugin has any. -/
def withCaches (p : Plugin) (c : ChangeCache UInt8 × ChangeCache UInt32) : Plugin :=
  match p.backend with
  | .legacy a =>
    { p with backend := .legacy { a with contextCache := c.1, identityCache := c.2 } }
  | _ => p

section
variable {c : ChangeCache UInt8 × ChangeCache UInt32}

@[simp] theorem who_withCaches : (p.withCaches c).who = p.who := by
  unfold withCaches; split <;> rfl

@[simp] theorem handle_withCaches : (p.withCaches c).handle = p.handle := by simp [handle]

@[simp] theorem id_withCaches : (p.withCaches c).id = p.id := by
  unfold withCaches; split <;> rfl

@[simp] theorem generation_withCaches : (p.withCaches c).generation = p.generation := by
  unfold withCaches; split <;> rfl

@[simp] theorem valid_withCaches : (p.withCaches c).valid = p.valid := by
  unfold withCaches; split <;> rfl

@[simp] theorem loaded_withCaches : (p.withCaches c).loaded = p.loaded := by
  unfold withCaches; split <;> rfl

@[simp] theorem enabled_withCaches : (p.withCaches c).enabled = p.enabled := by
  unfold withCaches; split <;> rfl

@[simp] theorem active_withCaches : (p.withCaches c).active = p.active := by
  unfold withCaches; split <;> rfl

@[simp] theorem exports_withCaches {e : EntryPoint} :
    (p.withCaches c).exports e = p.exports e := by
  unfold withCaches exports
  cases hb : p.backend <;> simp [hb]

theorem withCaches_of_current {e : EntryPoints} (h : p.backend = .current e) :
    p.withCaches c = p := by
  simp [withCaches, h]

theorem withCaches_of_legacy {a : Legacy.Adapter} (h : p.backend = .legacy a) :
    p.withCaches c =
      { p with backend := .legacy { a with contextCache := c.1, identityCache := c.2 } } := by
  simp [withCaches, h]

end

/-- The text of each of two caches belongs to its buffer. -/
def CoherentCaches (c : ChangeCache UInt8 × ChangeCache UInt32) : Prop :=
  c.1.Coherent Utf8.decode ∧ c.2.Coherent Wide.decode

theorem coherentCaches_empty : CoherentCaches (.empty, .empty) :=
  ⟨ChangeCache.coherent_empty (by simp [Utf8.decode, Utf8.decodeChars]),
    ChangeCache.coherent_empty rfl⟩

/-- New caches do not make a plugin unsound if they hold what they say they do. -/
theorem Sound.withCaches {c : ChangeCache UInt8 × ChangeCache UInt32} (h : p.Sound)
    (hc : CoherentCaches c) : (p.withCaches c).Sound := by
  refine ⟨by simp [h.valid], ?_, ?_, by simpa using h.enabled_of_active,
    by simpa using h.loaded_of_enabled⟩
  · -- the caches are the only part of the backend that soundness looks at and that changes
    have hs := h.suits
    rw [generation_withCaches]
    unfold Plugin.withCaches
    split
    · rename_i a hb
      rw [hb] at hs
      cases hg : p.generation with
      | current => simp [Backend.Suits, hg] at hs
      | legacy => exact hc
    · exact hs
  · -- a plugin of the current interface has no caches
    intro ha e hb
    rw [active_withCaches] at ha
    unfold Plugin.withCaches at hb
    split at hb
    · simp at hb
    · exact h.stoppable ha e hb

/-! ## Offers -/

/-- The code that the answer of a lock stands for. -/
def lockCode (locked : Int32) : OfferCode := if locked = 0 then .temporary else .ok

/-- The cases of an offer: what is asked of the plugin, and the code that comes of it. -/
inductive Offered (p : Plugin) (processes : List Process) : Transcript → OfferCode → Prop
  /-- A plugin without the functions for positional data is not asked. -/
  | unable (e : EntryPoints) (hb : p.backend = .current e)
      (he : e.has .offerPositional = false) : Offered p processes [] .permanent
  | asked (e : EntryPoints) (hb : p.backend = .current e)
      (he : e.has .offerPositional = true) (code : OfferCode) :
      Offered p processes
        [⟨.plugin p.who (.offerPositional ((nameable processes).map fun q => Utf8.encode q.name)
          ((nameable processes).map (·.pid))), code⟩] code
  /-- An older plugin without any lock never locks. -/
  | lockless (a : Legacy.Adapter) (hb : p.backend = .legacy a) : Offered p processes [] .temporary
  | locked (a : Legacy.Adapter) (hb : p.backend = .legacy a) (r : Int32) :
      Offered p processes [⟨.plugin p.who .tryLock, r⟩] (lockCode r)
  | lockedAmong (a : Legacy.Adapter) (hb : p.backend = .legacy a) (r : Int32) :
      Offered p processes
        [⟨.plugin p.who (.tryLockAmong (Legacy.Adapter.lockEntries processes)), r⟩] (lockCode r)

/-- Nothing has to be known of the plugin: one that did not pass validation declines for good. -/
theorem offer_cases {processes : List Process} {x : OfferCode × Plugin}
    (h : Yields (p.offer processes) t x) :
    (Offered p processes t x.1 ∨ p.backend = .unresolved ∧ t = [] ∧ x.1 = .permanent) ∧
      x.2 = if x.1 = .ok then { p with active := true } else p := by
  unfold offer at h
  split at h
  · rename_i e hb
    obtain ⟨_, _, code, rfl, h₁, h₂⟩ := yields_bind.1 h
    obtain ⟨rfl, rfl⟩ := yields_done.1 h₂
    obtain ⟨rfl, hperm⟩ := callOr_inv h₁
    refine ⟨.inl ?_, rfl⟩
    have hx : p.exports .offerPositional = e.has .offerPositional := by simp [exports, hb]
    rw [List.append_nil, heard, hx]
    cases he : e.has .offerPositional with
    | true => exact .asked e hb he code
    | false =>
      obtain rfl := hperm (hx.trans he)
      exact .unable e hb he
  · rename_i a hb
    obtain ⟨_, _, code, rfl, h₁, h₂⟩ := yields_bind.1 h
    obtain ⟨rfl, rfl⟩ := yields_done.1 h₂
    refine ⟨.inl ?_, rfl⟩
    rw [List.append_nil]
    unfold Legacy.Adapter.offer at h₁
    -- the lock with the process table first, the plain lock second
    split at h₁
    · obtain ⟨_, _, r, rfl, h₃, h₄⟩ := yields_bind.1 h₁
      obtain ⟨rfl, rfl⟩ := yields_done.1 h₄
      rw [yields_call.1 h₃]
      exact .lockedAmong a hb r
    · split at h₁
      · obtain ⟨_, _, r, rfl, h₃, h₄⟩ := yields_bind.1 h₁
        obtain ⟨rfl, rfl⟩ := yields_done.1 h₄
        rw [yields_call.1 h₃]
        exact .locked a hb r
      · obtain ⟨rfl, rfl⟩ := yields_done.1 h₁
        exact .lockless a hb
  · rename_i hb
    obtain ⟨rfl, rfl⟩ := yields_done.1 h
    exact ⟨.inr ⟨hb, rfl, rfl⟩, rfl⟩

theorem Offered.concerns {processes : List Process} {code : OfferCode}
    (h : Offered p processes t code) : Concerns p.handle t := by
  cases h <;> first | exact concerns_nil | exact concerns_singleton

/-- No frame comes with an offer. -/
theorem Offered.frames {processes : List Process} {code : OfferCode}
    (h : Offered p processes t code) : t.frames = [] := by
  cases h <;> rfl

/-- A plugin that took an offer is sound as a provider. -/
theorem Offered.sound {processes : List Process} {code : OfferCode}
    (h : Offered p processes t code) (hs : p.Sound) (he : p.enabled = true) (hok : code = .ok) :
    Sound { p with active := true } := by
  refine ⟨hs.valid, hs.suits, ?_, fun _ => he, hs.loaded_of_enabled⟩
  intro _ e hb
  cases h with
  | unable _ _ _ => simp [OfferCode.permanent, OfferCode.ok] at hok
  | asked e' hb' he' _ =>
    obtain rfl : e = e' := by simpa [hb'] using hb.symm
    obtain ⟨table, hr⟩ := hs.exists_table hb
    exact EntryPoints.has_positional hr (by decide) (by decide) he'
  | lockless a hb' => simp [hb'] at hb
  | locked a hb' _ => simp [hb'] at hb
  | lockedAmong a hb' _ => simp [hb'] at hb

/-! ## Fetches -/

/-- The call by which a plugin is fetched from. -/
def fetchCall? (p : Plugin) : Option Call :=
  match p.backend with
  | .current e => if e.has .fetchPositional then some .fetchPositional else none
  | .legacy a => if a.primary.hasFetch then some .fetchLegacy else none
  | .unresolved => none

/-- The cases of a fetch. What the plugin was before shows in the outcome only through the frame and
the snapshot that was there. -/
inductive Fetched (p : Plugin) (s : Snapshot) : Transcript → Bool × Plugin × Snapshot → Prop
  /-- A plugin that cannot be fetched from zeroes the snapshot and stops. -/
  | unable (hq : p.fetchCall? = none) : Fetched p s [] (false, p, .zeroed)
  | frame (e : Exchange) (f : Frame) (c : ChangeCache UInt8 × ChangeCache UInt32)
      (hq : p.fetchCall?.map (Query.plugin p.who) = some e.query)
      (hf : e.frame? = some (p.who, f)) (hc : CoherentCaches c) :
      Fetched p s [e] (f.proceed, p.withCaches c, (s.apply f).sanitized)

/-- A way to fetch from a plugin of the current interface or of the older one: whichever it is, the
reply alone decides the frame. -/
theorem fetch_inv {s : Snapshot} {x : Bool × Plugin × Snapshot} (hs : p.Sound)
    (h : Yields (p.fetch s) t x) : Fetched p s t x := by
  have hzero : Snapshot.zeroed.sanitized = .zeroed :=
    Snapshot.sanitized_of_isFinite Snapshot.isFinite_zeroed
  unfold fetch at h
  split at h
  · rename_i e hb
    split at h
    · rename_i hcan
      obtain ⟨_, _, r, rfl, h₁, h₂⟩ := yields_bind.1 h
      obtain ⟨rfl, rfl⟩ := yields_done.1 h₂
      rw [yields_call.1 h₁, List.append_nil]
      have hp := withCaches_of_current (c := (.empty, .empty)) hb
      have hfr : Fetched p s [⟨.plugin p.who .fetchPositional, r⟩] ((frameOf r).proceed,
          p.withCaches (.empty, .empty), (s.apply (frameOf r)).sanitized) :=
        .frame _ _ _ (by simp [fetchCall?, hb, hcan]) rfl coherentCaches_empty
      rwa [hp] at hfr
    · rename_i hcan
      obtain ⟨rfl, rfl⟩ := yields_done.1 h
      rw [hzero]
      exact .unable (by simp [fetchCall?, hb, hcan])
  · rename_i a hb
    obtain ⟨_, _, ⟨proceed, a', s'⟩, rfl, h₁, h₂⟩ := yields_bind.1 h
    obtain ⟨rfl, rfl⟩ := yields_done.1 h₂
    rw [List.append_nil]
    unfold Legacy.Adapter.fetch at h₁
    split at h₁
    · rename_i hcan
      obtain ⟨rfl, heq⟩ := yields_done.1 h₁
      obtain ⟨rfl, rfl, rfl⟩ : proceed = false ∧ a' = a ∧ s' = .zeroed := by simpa using heq
      have hp : { p with backend := .legacy a' } = p := by rw [← hb]
      simp only [hp, hzero]
      exact .unable (by simpa [fetchCall?, hb] using hcan)
    · rename_i hcan
      obtain ⟨_, _, r, rfl, h₃, h₄⟩ := yields_bind.1 h₁
      obtain ⟨rfl, heq⟩ := yields_done.1 h₄
      rw [yields_call.1 h₃, List.append_nil]
      simp only [Prod.mk.injEq] at heq
      obtain ⟨rfl, rfl, rfl⟩ := heq
      -- the texts of coherent caches are those of the buffers that came with the reply
      obtain ⟨hctx, hid⟩ : a.Coherent := by
        have := hs.suits
        cases hg : p.generation with
        | current => simp [hb, hg, Backend.Suits] at this
        | legacy => simpa [hb, hg, Backend.Suits] using this
      rw [hctx.text_refresh, hid.text_refresh, ← withCaches_of_legacy (c := (_, _)) hb]
      exact .frame ⟨.plugin p.who .fetchLegacy, r⟩ (Legacy.Adapter.frameOf r) _
        (by simpa [fetchCall?, hb] using hcan) rfl
        ⟨hctx.refresh _, hid.refresh _⟩
  · rename_i hb
    have := hs.suits
    simp [hb, Backend.Suits] at this

/-! ## Events and audio -/

/-- At most one call, of an event that the plugin exports a function for. -/
inductive Forwarded (p : Plugin) : Transcript → Prop
  | unheard : Forwarded p []
  | heard (e : EntryPoint) (c : Call) (r : c.Reply) (he : p.exports e = true)
      (hc : c.isEvent = true) : Forwarded p [⟨.plugin p.who c, r⟩]

/-- An event is passed on to a plugin that has a function for it. -/
theorem forwarded_heard {e : EntryPoint} {c : Call} {r : c.Reply} (hc : c.isEvent = true) :
    Forwarded p (p.heard e c r) := by
  unfold Plugin.heard
  split
  · rename_i he
    exact .heard e c r he hc
  · exact .unheard

theorem Forwarded.concerns (h : Forwarded p t) : Concerns p.handle t := by
  cases h <;> first | exact concerns_nil | exact concerns_singleton

theorem Forwarded.frames (h : Forwarded p t) : t.frames = [] := by
  cases h with
  | unheard => rfl
  | heard e c r he hc => cases c <;> first | rfl | simp [Call.isEvent] at hc

/-- From here on, one lemma for each hook: it passes on one call at most. -/
theorem notifyOf_inv {n : Notification} {u : Unit} (h : Yields (p.notifyOf n) t u) :
    Forwarded p t := by
  rcases notify_inv h with ⟨-, rfl⟩ | ⟨he, r, rfl⟩
  · exact .unheard
  · exact .heard _ _ r he (by cases n <;> rfl)

theorem receive_inv {m : Message} {b : Bool} (h : Yields (p.receive m) t b) : Forwarded p t := by
  unfold receive at h
  split at h
  · rw [(yields_done.1 h).1]
    exact .unheard
  · rw [(callOr_inv h).1]
    exact forwarded_heard rfl

theorem audioInput_inv {samples : List Int16} {channels : UInt16} {speech : Bool}
    {x : Bool × List Int16} (h : Yields (p.audioInput samples channels speech) t x) :
    Forwarded p t := by
  unfold audioInput at h
  split at h
  · rw [(yields_done.1 h).1]
    exact .unheard
  · obtain ⟨_, _, r, rfl, h₁, h₂⟩ := yields_bind.1 h
    rw [(callOr_inv h₁).1, (yields_done.1 h₂).1, List.append_nil]
    exact forwarded_heard rfl

theorem audioStage_inv {stage : AudioStage} {samples : List Binary32} {channels : UInt16}
    {x : Bool × List Binary32} (h : Yields (p.audioStage stage samples channels) t x) :
    Forwarded p t := by
  unfold audioStage at h
  split at h
  · rw [(yields_done.1 h).1]
    exact .unheard
  · -- the hooks differ in the call and in nothing else
    cases stage <;>
    · obtain ⟨_, _, r, rfl, h₁, h₂⟩ := yields_bind.1 h
      rw [(callOr_inv h₁).1, (yields_done.1 h₂).1, List.append_nil]
      exact forwarded_heard rfl

end Plugin

end PluginHost
