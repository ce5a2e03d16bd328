import PluginHost.Plugin.Event
import PluginHost.Plugin.Info
import PluginHost.Proofs.Transcript

/-!
# The life of one plugin

What each operation on a plugin asks of it and what it leaves behind, for every answer the plugin
may give. Later modules cite these inversions and do not open the operations again.

* **`Plugin.Sound`**: what holds of a plugin that passed validation, at every moment between two
  operations: active implies enabled, enabled implies loaded, and it can be told to stop.
* **`stopPositional_inv`**, **`enable_true_inv`**, **`enable_false_inv`**, **`shutdown_inv`**,
  **`drop_inv`**, **`init_inv`**: one inversion for each operation. The transcript of an operation
  with fixed answers is a definition of its own (`farewell`, `closing`).
-/

namespace PluginHost

namespace Plugin

open Interaction Transcript

variable {p p' : Plugin} {t : Transcript}

/-! ## Calls to functions that may be missing -/

/-- The exchange with a function of the current interface: none if the plugin does not export it. -/
def heard (p : Plugin) (e : EntryPoint) (c : Call) (r : c.Reply) : Transcript :=
  if p.exports e then [⟨.plugin p.who c, r⟩] else []

theorem concerns_heard {e : EntryPoint} {c : Call} {r : c.Reply} :
    Concerns p.handle (p.heard e c r) := by
  unfold heard
  split
  · exact concerns_singleton
  · exact concerns_nil

theorem restful_heard {e : EntryPoint} {c : Call} {r : c.Reply} (h : c.isService = false) :
    Restful (p.heard e c r) := by
  unfold heard
  split
  · exact restful_singleton h
  · exact restful_nil

/-- A function that the plugin exports is called once, and its reply is the result; otherwise the
result is the default. -/
theorem callOr_inv {e : EntryPoint} {c : Call} {d r : c.Reply} (h : Yields (p.callOr e c d) t r) :
    t = p.heard e c r ∧ (p.exports e = false → r = d) := by
  unfold callOr at h
  unfold heard
  split at h
  · rename_i he
    exact ⟨by rw [if_pos he]; exact yields_call.1 h, fun h' => by simp [h'] at he⟩
  · rename_i he
    obtain ⟨rfl, rfl⟩ := yields_done.1 h
    exact ⟨by rw [if_neg he], fun _ => rfl⟩

/-- A notification asks at most one thing, and only of a plugin that exports the function. -/
theorem notify_inv {e : EntryPoint} {c : Call} {u : Unit} (h : Yields (p.notify e c) t u) :
    (p.exports e = false ∧ t = []) ∨ (p.exports e = true ∧ ∃ r, t = [⟨.plugin p.who c, r⟩]) := by
  unfold notify at h
  split at h
  · rename_i he
    obtain ⟨_, _, r, rfl, h₁, h₂⟩ := yields_bind.1 h
    obtain ⟨rfl, -⟩ := yields_done.1 h₂
    exact .inr ⟨he, r, by rw [yields_call.1 h₁, List.append_nil]⟩
  · rename_i he
    exact .inl ⟨by simpa using he, (yields_done.1 h).1⟩

/-- Where there is only one answer the transcript of a notification is known. -/
theorem notify_eq_heard {e : EntryPoint} {c : Call} {u : Unit} [Subsingleton c.Reply] (r : c.Reply)
    (h : Yields (p.notify e c) t u) : t = p.heard e c r := by
  unfold heard
  rcases notify_inv h with ⟨he, rfl⟩ | ⟨he, r', rfl⟩
  · simp [he]
  · rw [if_pos he, Subsingleton.elim r' r]

/-! ## Soundness -/

end Plugin

/-- The text of each cache belongs to its buffer. -/
def Legacy.Adapter.Coherent (a : Legacy.Adapter) : Prop :=
  a.contextCache.Coherent Utf8.decode ∧ a.identityCache.Coherent Wide.decode

/-- The way to drive a plugin is one that validation gives a plugin of the generation. -/
def Backend.Suits : Backend → Generation → Prop
  | .current entries, .current => ∃ table, EntryPoints.resolve table = .ok entries
  | .legacy adapter, .legacy => adapter.Coherent
  | _, _ => False

namespace EntryPoints

/-- Resolving a table gives the functions that it exports. -/
theorem eq_ofTable_of_resolve {table : SymbolTable} {e : EntryPoints}
    (h : resolve table = .ok e) : e = ofTable table := by
  unfold resolve at h
  split at h
  · simp at h
  · simpa using h.symm

/-- A plugin of the current interface has all mandatory functions. -/
theorem has_of_mem_mandatory {table : SymbolTable} {e : EntryPoints} {p : EntryPoint}
    (h : resolve table = .ok e) (hp : p ∈ EntryPoint.mandatory) : e.has p = true := by
  rw [eq_ofTable_of_resolve h, has_ofTable]
  unfold resolve at h
  split at h
  · simp at h
  · rename_i hm
    -- none of the mandatory symbols is missing
    have hx : table.exports p.symbol = true := by
      have := List.find?_eq_none.1 hm p hp
      simpa using this
    have hpos : p ∉ EntryPoint.positional := by
      revert hp
      cases p <;> decide
    simp [hx, hpos]

/-- The functions for positional data come all three or not at all. -/
theorem has_positional {table : SymbolTable} {e : EntryPoints} {p q : EntryPoint}
    (h : resolve table = .ok e) (hp : p ∈ EntryPoint.positional) (hq : q ∈ EntryPoint.positional)
    (hhas : e.has p = true) : e.has q = true := by
  rw [eq_ofTable_of_resolve h, has_ofTable] at hhas ⊢
  -- the one that is there is there because all three are
  have hall : exportsPositional table = true := by
    simp only [Bool.and_eq_true, Bool.or_eq_true] at hhas
    simpa [hp] using hhas.2
  have hqx : table.exports q.symbol = true := by
    have := List.all_eq_true.1 hall q hq
    simpa using this
  simp [hqx, hall]

end EntryPoints

namespace Plugin

/-- What holds of a plugin that passed validation, between two operations. -/
structure Sound (p : Plugin) : Prop where
  valid : p.valid = true
  suits : p.backend.Suits p.generation
  /-- A provider of the current interface can be told to stop. -/
  stoppable : p.active = true → ∀ e, p.backend = .current e → e.has .stopPositional = true
  enabled_of_active : p.active = true → p.enabled = true
  loaded_of_enabled : p.enabled = true → p.loaded = true

open Interaction Transcript

variable {p p' : Plugin} {t : Transcript}

namespace Sound

theorem loaded_of_active (h : p.Sound) (ha : p.active = true) : p.loaded = true :=
  h.loaded_of_enabled (h.enabled_of_active ha)

/-- A plugin that is not loaded has no other flag either. -/
theorem flags_of_unloaded (h : p.Sound) (hl : p.loaded = false) :
    p.enabled = false ∧ p.active = false := by
  have he : p.enabled = false := by
    cases he : p.enabled with
    | false => rfl
    | true => simp [h.loaded_of_enabled he] at hl
  refine ⟨he, ?_⟩
  cases ha : p.active with
  | false => rfl
  | true => simp [h.enabled_of_active ha] at he

/-- An older plugin has no functions of the current interface. -/
theorem not_exports (h : p.Sound) (hg : p.generation = .legacy) (e : EntryPoint) :
    p.exports e = false := by
  have hs := h.suits
  unfold exports
  split
  · rename_i entries hb
    simp [hb, hg, Backend.Suits] at hs
  · rfl

/-- A plugin of the current interface was resolved from a table. -/
theorem exists_table (h : p.Sound) {e : EntryPoints} (hb : p.backend = .current e) :
    ∃ table, EntryPoints.resolve table = .ok e := by
  have hs := h.suits
  cases hg : p.generation with
  | legacy => simp [hb, hg, Backend.Suits] at hs
  | current => simpa [hb, hg, Backend.Suits] using hs

/-- A sound plugin of the current interface has all mandatory functions. -/
theorem exports_mandatory (h : p.Sound) (hg : p.generation = .current) (e : EntryPoint)
    (he : e ∈ EntryPoint.mandatory) : p.exports e = true := by
  cases hb : p.backend with
  | current entries =>
    obtain ⟨table, hr⟩ := h.exists_table hb
    simpa [exports, hb] using EntryPoints.has_of_mem_mandatory hr he
  | legacy a => simpa [hb, hg, Backend.Suits] using h.suits
  | unresolved => simpa [hb, hg, Backend.Suits] using h.suits

/-- Who can be offered the role of the provider can be told to stop. -/
theorem exports_stop (h : p.Sound) (he : p.exports .offerPositional = true) :
    p.exports .stopPositional = true := by
  unfold exports at he ⊢
  cases hb : p.backend with
  | current entries =>
    obtain ⟨table, hr⟩ := h.exists_table hb
    rw [hb] at he
    exact EntryPoints.has_positional hr (by decide) (by decide) he
  | legacy a => simp [hb] at he
  | unresolved => simp [hb] at he

theorem deactivated (h : p.Sound) : Sound { p with active := false } :=
  ⟨h.valid, h.suits, by simp, by simp, h.loaded_of_enabled⟩

theorem allowed (h : p.Sound) (hl : p.loaded = true) : Sound { p with enabled := true } :=
  ⟨h.valid, h.suits, h.stoppable, by simp, fun _ => hl⟩

theorem started (h : p.Sound) : Sound { p with loaded := true } :=
  ⟨h.valid, h.suits, h.stoppable, h.enabled_of_active, by simp⟩

end Sound

/-! ## Stopping -/

/-- What ends the session of a provider. -/
def parting (p : Plugin) : Transcript :=
  match p.backend with
  | .current _ => p.heard .stopPositional .stopPositional ()
  | .legacy a => if a.primary.hasUnlock then [⟨.plugin p.who .unlock, ()⟩] else []
  | .unresolved => []

/-- What a plugin hears when it is told to stop: nothing without a session. -/
def farewell (p : Plugin) : Transcript := if p.active then p.parting else []

theorem farewell_of_active (h : p.active = true) : p.farewell = p.parting := if_pos h

theorem farewell_of_inactive (h : p.active = false) : p.farewell = [] := by
  simp [farewell, h]

theorem concerns_farewell : Concerns p.handle p.farewell := by
  unfold farewell parting
  repeat' split
  all_goals first | exact concerns_heard | exact concerns_singleton | exact concerns_nil

theorem restful_farewell : Restful p.farewell := by
  unfold farewell parting
  repeat' split
  all_goals first | exact restful_heard rfl | exact restful_singleton rfl | exact restful_nil

/-- Telling a plugin to stop asks for nothing unless it is active, and it is not active
afterwards. -/
theorem stopPositional_inv (h : Yields p.stopPositional t p') :
    t = p.farewell ∧ p' = { p with active := false } := by
  unfold stopPositional at h
  cases ha : p.active with
  | false =>
    have hp : { p with active := false } = p := by rw [← ha]
    rw [ha] at h
    obtain ⟨rfl, rfl⟩ := yields_done.1 h
    exact ⟨(farewell_of_inactive ha).symm, hp.symm⟩
  | true =>
    simp only [ha, Bool.not_true, Bool.false_eq_true, if_false] at h
    rw [farewell_of_active ha]
    unfold parting
    cases hb : p.backend with
    | current e =>
      -- the current interface has a function for it
      rw [hb] at h
      obtain ⟨_, _, _, rfl, h₁, h₂⟩ := yields_bind.1 h
      obtain ⟨rfl, rfl⟩ := yields_done.1 h₂
      exact ⟨by rw [notify_eq_heard () h₁, List.append_nil], rfl⟩
    | legacy a =>
      -- an older plugin may have no callback for it
      rw [hb] at h
      obtain ⟨_, _, _, rfl, h₁, h₂⟩ := yields_bind.1 h
      obtain ⟨rfl, rfl⟩ := yields_done.1 h₂
      refine ⟨?_, rfl⟩
      rw [List.append_nil]
      unfold Legacy.Adapter.stop at h₁
      dsimp only
      split at h₁
      · rename_i hu
        rw [if_pos hu]
        exact yields_call.1 h₁
      · rename_i hu
        rw [if_neg hu]
        exact (yields_done.1 h₁).1
    | unresolved =>
      rw [hb] at h
      obtain ⟨rfl, rfl⟩ := yields_done.1 h
      exact ⟨rfl, rfl⟩

/-! ## Permission -/

/-- The plugin after it was enabled or disabled. -/
def toggled (p : Plugin) (on : Bool) : Plugin :=
  if on then (if p.loaded then { p with enabled := true } else p)
  else { p with enabled := false, active := false }

theorem handle_toggled {on : Bool} : (p.toggled on).handle = p.handle := by
  unfold toggled
  repeat' split
  all_goals rfl

/-- Only a loaded plugin can be permitted. -/
theorem enable_true_inv (h : Yields (p.enable true) t p') :
    t = [] ∧ p' = if p.loaded then { p with enabled := true } else p :=
  yields_done.1 h

/-- A plugin that is not permitted any more is told to stop first. -/
theorem enable_false_inv (h : Yields (p.enable false) t p') :
    t = p.farewell ∧ p' = { p with enabled := false, active := false } :=
  stopPositional_inv (p := { p with enabled := false }) h

/-! ## Shutting down -/

/-- What a plugin hears when it is shut down. -/
def closing (p : Plugin) : Transcript :=
  if p.loaded then p.farewell ++ p.heard .shutdown .shutdown () else []

theorem closing_of_inactive (hl : p.loaded = true) (ha : p.active = false) :
    p.closing = p.heard .shutdown .shutdown () := by
  simp [closing, hl, farewell_of_inactive ha]

/-- The plugin with all its flags down. -/
def asleep (p : Plugin) : Plugin := { p with loaded := false, enabled := false, active := false }

theorem Sound.asleep (h : p.Sound) : p.asleep.Sound :=
  ⟨h.valid, h.suits, by simp [Plugin.asleep], by simp [Plugin.asleep], by simp [Plugin.asleep]⟩

/-- A plugin that is not loaded is asleep already. -/
theorem Sound.asleep_eq (h : p.Sound) (hl : p.loaded = false) : p.asleep = p := by
  obtain ⟨he, ha⟩ := h.flags_of_unloaded hl
  cases p
  simp_all [Plugin.asleep]

/-- Nothing has to be known of the plugin: one that is not loaded is left as it is, also if it is
active. -/
theorem shutdown_cases (h : Yields p.shutdown t p') :
    t = p.closing ∧ p' = if p.loaded then p.asleep else p := by
  unfold shutdown at h
  unfold closing
  cases hl : p.loaded with
  | false =>
    rw [hl] at h
    exact yields_done.1 h
  | true =>
    simp only [hl, Bool.not_true, Bool.false_eq_true, if_false] at h
    -- the session ends first, then the plugin hears that it is shut down
    obtain ⟨_, _, q, rfl, h₁, h₂⟩ := yields_bind.1 h
    obtain ⟨_, _, _, rfl, h₃, h₄⟩ := yields_bind.1 h₂
    obtain ⟨rfl, rfl⟩ := stopPositional_inv h₁
    obtain ⟨rfl, rfl⟩ := yields_done.1 h₄
    exact ⟨by rw [notify_eq_heard () h₃, List.append_nil]; rfl, rfl⟩

/-- A shutdown is a farewell and a call, and leaves the plugin asleep. -/
theorem shutdown_inv (hs : p.Sound) (h : Yields p.shutdown t p') :
    t = p.closing ∧ p' = p.asleep := by
  obtain ⟨ht, rfl⟩ := shutdown_cases h
  refine ⟨ht, ?_⟩
  cases hl : p.loaded with
  | false => exact (hs.asleep_eq hl).symm
  | true => rfl

/-- The code is released whatever the plugin is like. -/
theorem drop_inv {u : Unit} (h : Yields p.drop t u) :
    t = p.closing ++ [⟨.plugin p.who .unload, ()⟩] := by
  obtain ⟨_, _, q, rfl, h₁, h₂⟩ := yields_bind.1 h
  obtain ⟨rfl, rfl⟩ := shutdown_cases h₁
  rw [yields_call.1 h₂]
  cases p.loaded <;> rfl

/-! ## Starting -/

/-- What a plugin hears when it is started, and what it answers to that. -/
def opening (p : Plugin) (status : Status) : Transcript :=
  p.heard .hostInfo (.hostInfo .host .pluginApi .minimumPluginApi) () ++
    p.heard .init .init status ++ p.heard .registerId (.registerId p.id) ()

theorem concerns_opening {status : Status} : Concerns p.handle (p.opening status) :=
  (concerns_heard.append concerns_heard).append concerns_heard

theorem restful_opening {status : Status} : Restful (p.opening status) :=
  ((restful_heard rfl).append (restful_heard rfl)).append (restful_heard rfl)

/-- A plugin that cannot be asked is taken to have started. -/
theorem init_inv {x : Status × Plugin} (hv : p.valid = true) (hl : p.loaded = false)
    (h : Yields p.init t x) :
    ∃ status, t = p.opening status ∧ x = (status, { p with loaded := true }) ∧
      (p.exports .init = false → status = .ok) := by
  unfold init at h
  rw [if_neg (by simp [hv]), if_neg (by simp [hl])] at h
  split at h
  · -- a plugin of the current interface: host information, the start, the identity
    obtain ⟨_, _, _, rfl, h₁, h₂⟩ := yields_bind.1 h
    obtain ⟨_, _, status, rfl, h₃, h₄⟩ := yields_bind.1 h₂
    obtain ⟨_, _, _, rfl, h₅, h₆⟩ := yields_bind.1 h₄
    obtain ⟨rfl, rfl⟩ := yields_done.1 h₆
    obtain ⟨rfl, hst⟩ := callOr_inv h₃
    refine ⟨status, ?_, rfl, hst⟩
    rw [notify_eq_heard () h₁, notify_eq_heard () h₅]
    simp [opening, List.append_assoc]
  · -- any other exports nothing, so it hears nothing and is taken to have started
    rename_i hb
    have hx : ∀ e, p.exports e = false := by
      intro e
      unfold exports
      split
      · rename_i entries hb'
        exact absurd hb' (hb entries)
      · rfl
    obtain ⟨rfl, rfl⟩ := yields_done.1 h
    exact ⟨.ok, by simp [opening, heard, hx], rfl, fun _ => rfl⟩

/-- Starting a plugin raises a flag at most. -/
theorem init_result {t : Transcript} {x : Status × Plugin} (h : Yields p.init t x) :
    x.2 = p ∨ x.2 = { p with loaded := true } := by
  unfold init at h
  split at h
  · exact .inl (congrArg Prod.snd (yields_done.1 h).2)
  · split at h
    · exact .inl (congrArg Prod.snd (yields_done.1 h).2)
    · split at h
      · obtain ⟨_, _, _, rfl, -, h₁⟩ := yields_bind.1 h
        obtain ⟨_, _, _, rfl, -, h₂⟩ := yields_bind.1 h₁
        obtain ⟨_, _, _, rfl, -, h₃⟩ := yields_bind.1 h₂
        exact .inr (congrArg Prod.snd (yields_done.1 h₃).2)
      · exact .inr (congrArg Prod.snd (yields_done.1 h).2)

theorem registerApi_inv {u : Unit} (h : Yields p.registerApi t u) :
    t = p.heard .registerApi .registerApi () := notify_eq_heard () h

end Plugin

end PluginHost
