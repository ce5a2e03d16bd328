import PluginHost.Proofs.Plugin.Creation

/-!
# Steps of one plugin

The smallest changes that a registered plugin goes through while the role of the provider stays
where it is and nothing is fetched. Every operation of the registry is a sequence of such steps, of
changes of the role, of fetches, and of plugins that come and go; what one step keeps is proved
here.

* **`Plugin.Step`**: the steps, with their guards and transcripts.
* **`Step.sound`**: a step keeps soundness, the handle and whether the plugin is active.
* **`Plugin.newborn`**: the plugin as it was created. No step changes it.
-/

namespace PluginHost

namespace Plugin

open Interaction Transcript

variable {p p' : Plugin} {t : Transcript}

/-- One step of a registered plugin. -/
inductive Step (p : Plugin) : Transcript → Plugin → Prop
  | described (t : Transcript) (ht : Descriptive p.handle t) : Step p t p
  /-- Events and audio buffers go to loaded plugins. -/
  | forwarded (t : Transcript) (hl : p.loaded = true) (ht : p.Forwarded t) : Step p t p
  | declined (processes : List Process) (t : Transcript) (code : OfferCode) (hl : p.loaded = true)
      (ha : p.active = false) (ht : p.Offered processes t code) (hc : code ≠ .ok) : Step p t p
  | permitted (hl : p.loaded = true) : Step p [] { p with enabled := true }
  | forbidden (ha : p.active = false) : Step p [] { p with enabled := false }
  | started (hl : p.loaded = false) (status : Status) (hs : status.isOk = true) :
      Step p (p.activation status) { p with loaded := true }
  /-- A plugin that does not say that it started is shut down at once. -/
  | refused (hl : p.loaded = false) (status : Status) (hs : status.isOk = false)
      (he : p.exports .init = true) :
      Step p (p.activation status ++ p.heard .shutdown .shutdown ()) p
  | closed (hl : p.loaded = true) (ha : p.active = false) :
      Step p (p.heard .shutdown .shutdown ()) p.asleep

namespace Step

theorem who_eq (h : p.Step t p') : p'.who = p.who := by
  cases h <;> rfl

theorem handle_eq (h : p.Step t p') : p'.handle = p.handle := congrArg Occupant.handle h.who_eq

theorem active_eq (h : p.Step t p') : p'.active = p.active := by
  cases h with
  | closed hl ha => exact ha.symm
  | _ => rfl

/-- A step leaves a sound plugin sound. -/
theorem sound (h : p.Step t p') (hs : p.Sound) : p'.Sound := by
  cases h with
  | permitted hl => exact hs.allowed hl
  | forbidden ha => exact ⟨hs.valid, hs.suits, hs.stoppable, by simp [ha], by simp⟩
  | started hl status hst => exact hs.started
  | closed hl ha => exact hs.asleep
  | _ => exact hs

theorem concerns (h : p.Step t p') : Concerns p.handle t := by
  cases h with
  | described t ht => exact ht.concerns
  | forwarded t hl ht => exact ht.concerns
  | declined processes t code hl ha ht hc => exact ht.concerns
  | permitted hl => exact concerns_nil
  | forbidden ha => exact concerns_nil
  | started hl status hst => exact concerns_activation
  | refused hl status hst he => exact concerns_activation.append concerns_heard
  | closed hl ha => exact concerns_heard

/-- Only a fetch brings a frame. -/
theorem frames (h : p.Step t p') : t.frames = [] := by
  cases h with
  | described t ht => exact ht.restful.frames
  | forwarded t hl ht => exact ht.frames
  | declined processes t code hl ha ht hc => exact ht.frames
  | permitted hl => rfl
  | forbidden ha => rfl
  | started hl status hst => exact restful_activation.frames
  | refused hl status hst he => exact (restful_activation.append (restful_heard rfl)).frames
  | closed hl ha => exact (restful_heard (c := .shutdown) rfl).frames

end Step

/-! ## The plugin as it was created -/

/-- The plugin without what happened to it since its creation: its flags are down and its caches are
empty. -/
def newborn (p : Plugin) : Plugin := p.asleep.withCaches (.empty, .empty)

@[simp] theorem who_newborn : p.newborn.who = p.who := by simp [newborn, asleep]

@[simp] theorem handle_newborn : p.newborn.handle = p.handle := by simp [handle]

@[simp] theorem id_newborn : p.newborn.id = p.id := by simp [newborn, asleep]

@[simp] theorem newborn_withCaches {c : ChangeCache UInt8 × ChangeCache UInt32} :
    (p.withCaches c).newborn = p.newborn := by
  unfold newborn asleep withCaches
  cases hb : p.backend <;> simp [hb]

@[simp] theorem exports_newborn {e : EntryPoint} : p.newborn.exports e = p.exports e := by
  unfold newborn
  rw [exports_withCaches]
  rfl

@[simp] theorem heard_newborn {e : EntryPoint} {c : Call} {r : c.Reply} :
    p.newborn.heard e c r = p.heard e c r := by
  unfold heard
  rw [exports_newborn, who_newborn]

@[simp] theorem activation_newborn {status : Status} :
    p.newborn.activation status = p.activation status := by
  unfold activation opening
  rw [id_newborn]
  simp only [heard_newborn]

@[simp] theorem parting_newborn : p.newborn.parting = p.parting := by
  unfold parting
  rw [heard_newborn, who_newborn]
  unfold newborn asleep withCaches
  cases hb : p.backend <;> simp

/-- A plugin is the same as when it was born as long as nothing happened to it. -/
theorem Born.newborn_eq (h : p.Born t) : p.newborn = p := by
  obtain ⟨table, u, -, -, hr⟩ := h.read
  unfold newborn
  rw [h.sound.asleep_eq h.unloaded]
  generalize hb : p.backend = b at hr
  cases hr with
  | current entries hres => exact withCaches_of_current hb
  | legacy a u hu hp hc =>
    rw [withCaches_of_legacy hb, ← hc.1, ← hc.2, ← hb]

theorem Step.newborn_eq (h : p.Step t p') : p'.newborn = p.newborn := by
  cases h <;> rfl

end Plugin

end PluginHost
