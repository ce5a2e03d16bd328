import PluginHost.Proofs.Plugin.Standing
import PluginHost.Proofs.Roster.Round

/-!
# Notes on the plugins of a roster

What happened to the plugins that bears on their permissions, and that the flags of every plugin are
what its own events come to.

* **`Note`**: an event of the plugin that has a handle. **`eventsOf`**: the events of one plugin.
* **`Roster.Records`**: every plugin of a roster stands where the notes say.
* **`Records.note`**, **`Records.update`**: one plugin changes, with an event and without.
* **`Records.activate`**, **`Records.settle`**: the notes of an activation and of a round of offers.
-/

namespace PluginHost

open Interaction Transcript PermissionEvent Standing

/-! ## Notes -/

/-- The handle of a plugin and an event of its life. -/
abbrev Note := Nat × PermissionEvent

/-- The events of the plugin that has a handle. -/
def eventsOf (n : Nat) (notes : List Note) : List PermissionEvent :=
  notes.filterMap fun e => if e.1 = n then some e.2 else none

/-- The offers among some notes, with the answers. -/
def offersIn (notes : List Note) : List (Nat × OfferCode) :=
  notes.filterMap fun
    | (n, .offered code) => some (n, code)
    | _ => none

/-- The notes of the answers of a round. -/
def offerNotes (as : List Answer) : List Note := as.map fun a => (a.1.handle, .offered a.2)

/-- The note of an activation. Nothing is noted if the plugin could not be started because there is
no function table for it. -/
def startNotes (n : Nat) (allowed : Bool) : Except PluginError Status → List Note
  | .ok status => [(n, if status.isOk then .started allowed else .failed)]
  | .error _ => []

section

variable {n m : Nat} {notes more : List Note} {e : PermissionEvent} {as bs : List Answer}

@[simp] theorem eventsOf_append :
    eventsOf n (notes ++ more) = eventsOf n notes ++ eventsOf n more :=
  List.filterMap_append

@[simp] theorem eventsOf_self : eventsOf n [(n, e)] = [e] := by simp [eventsOf]

theorem eventsOf_of_ne (h : m ≠ n) : eventsOf n [(m, e)] = [] := by simp [eventsOf, h]

theorem eventsOf_eq_nil (h : ∀ e ∈ notes, e.1 ≠ n) : eventsOf n notes = [] :=
  List.filterMap_eq_nil_iff.2 fun e he => if_neg (h e he)

/-- What is noted of a plugin is among the notes with its handle. -/
theorem mem_eventsOf : e ∈ eventsOf n notes ↔ (n, e) ∈ notes := by
  simp only [eventsOf, List.mem_filterMap, Option.ite_none_right_eq_some, Option.some.injEq]
  constructor
  · rintro ⟨⟨m, e'⟩, hmem, rfl, rfl⟩
    exact hmem
  · exact fun hmem => ⟨(n, e), hmem, rfl, rfl⟩

@[simp] theorem offersIn_append : offersIn (notes ++ more) = offersIn notes ++ offersIn more :=
  List.filterMap_append

/-- The offers of a round are noted, each with its code. -/
theorem offersIn_offerNotes : offersIn (offerNotes as) = as.map fun a => (a.1.handle, a.2) := by
  rw [offersIn, offerNotes, List.filterMap_map, ← List.filterMap_eq_map']
  rfl

theorem mem_offersIn {code : OfferCode} (h : (n, code) ∈ offersIn notes) :
    (n, .offered code) ∈ notes := by
  obtain ⟨⟨m, e⟩, hmem, he⟩ := List.mem_filterMap.1 h
  cases e with
  | offered c =>
    obtain ⟨rfl, rfl⟩ := Prod.mk.inj (Option.some.inj he)
    exact hmem
  | _ => simp at he

@[simp] theorem offerNotes_append : offerNotes (as ++ bs) = offerNotes as ++ offerNotes bs :=
  List.map_append

end

/-! ## The flags of plugins -/

/-- Where a plugin stands by its flags. -/
def Plugin.standing (p : Plugin) : Standing := ⟨p.loaded, p.enabled⟩

namespace Roster

variable {o o' : Roster} {p q : Plugin} {notes : List Note} {e : PermissionEvent} {t : Transcript}

/-- Every plugin stands where the notes say, and everything that was noted fitted the plugin at its
time. -/
structure Records (o : Roster) (notes : List Note) : Prop where
  standing : ∀ p ∈ o.plugins, p.standing = after (eventsOf p.handle notes)
  lawful : ∀ n, Lawful (eventsOf n notes)

namespace Records

/-- Only the plugins of a roster matter for what is noted of them. -/
theorem congr (h : o.Records notes) (hp : o'.plugins = o.plugins) : o'.Records notes :=
  ⟨fun p hmem => h.standing p (hp ▸ hmem), h.lawful⟩

/-- A plugin changes in a way that does not bear on its permission. -/
theorem update (h : o.Records notes) (hp : p ∈ o.plugins) (hh : q.handle = p.handle)
    (hs : q.standing = p.standing) : (o.update q).Records notes := by
  refine ⟨fun x hx => ?_, h.lawful⟩
  rcases mem_update.1 hx with ⟨hmem, -⟩ | ⟨rfl, -⟩
  · exact h.standing x hmem
  · rw [hs, hh]
    exact h.standing p hp

/-- An event occurs to a plugin that it fits, and the plugin stands where the event puts it. -/
theorem note (h : o.Records notes) (hp : p ∈ o.plugins) (hh : q.handle = p.handle)
    (he : e.Fits p.standing) (hs : q.standing = p.standing.next e) :
    (o.update q).Records (notes ++ [(p.handle, e)]) := by
  have hown := h.standing p hp
  refine ⟨fun x hx => ?_, fun n => ?_⟩
  · rcases mem_update.1 hx with ⟨hmem, hne⟩ | ⟨rfl, -⟩
    · -- the notes on the others stay as they are
      have hother : p.handle ≠ x.handle := fun hsame => hne (hsame.symm.trans hh.symm)
      rw [eventsOf_append, eventsOf_of_ne hother, List.append_nil]
      exact h.standing x hmem
    · rw [hh, eventsOf_append, eventsOf_self, after_concat, ← hown]
      exact hs
  · by_cases hn : p.handle = n
    · subst hn
      rw [eventsOf_append, eventsOf_self]
      exact lawful_concat.2 ⟨h.lawful p.handle, hown ▸ he⟩
    · rw [eventsOf_append, eventsOf_of_ne hn, List.append_nil]
      exact h.lawful n

/-- Activating a plugin that is loaded is no event. -/
theorem activate {allowed : Bool} {x : Except PluginError Status × Plugin} (h : o.Records notes)
    (hp : p ∈ o.plugins) (hs : p.Sound) (hx : p.Activated allowed t x) :
    (o.update x.2).Records
      (notes ++ if p.loaded then [] else startNotes p.handle allowed x.1) := by
  cases hx with
  | already hl =>
    rw [if_pos hl, List.append_nil]
    exact h.update hp rfl rfl
  | unsupported hl v hv =>
    rw [if_neg (by simp [hl]), startNotes, List.append_nil]
    exact h.update hp rfl rfl
  | refused hl v status hok he =>
    obtain ⟨henabled, -⟩ := hs.flags_of_unloaded hl
    rw [if_neg (by simp [hl]), startNotes, hok]
    refine h.note hp rfl hl ?_
    rw [Plugin.standing, hl, henabled]
    rfl
  | started hl v status hok =>
    rw [if_neg (by simp [hl]), startNotes, hok]
    exact h.note hp rfl hl rfl

/-- The answer of a plugin to an offer. -/
theorem heed {a : Answer} (h : o.Records notes) (ha : a.1 ∈ o.plugins)
    (he : isEligible a.1 = true) : (o.heed a).Records (notes ++ [(a.1.handle, .offered a.2)]) := by
  obtain ⟨hl, hen⟩ : a.1.loaded = true ∧ a.1.enabled = true := by
    simpa [isEligible] using he
  have hstanding : a.1.standing = ⟨true, true⟩ := by rw [Plugin.standing, hl, hen]
  have hhandle : (a.1.heeding a.2).handle = a.1.handle := Plugin.handle_heeding
  refine (h.note (e := .offered a.2) ha hhandle hstanding ?_).congr rfl
  rw [Plugin.standing, Plugin.loaded_heeding, Plugin.enabled_heeding, hl, hen, hstanding, next,
    says?]
  by_cases hperm : a.2 = .permanent <;> simp [hperm, loads?]

/-- The answers of a round. -/
theorem settle {as : List Answer} (h : o.Records notes) (hf : o.Fits as)
    (he : ∀ a ∈ as, isEligible a.1 = true) : (o.settle as).Records (notes ++ offerNotes as) := by
  induction as generalizing o notes with
  | nil => simpa [offerNotes] using h
  | cons a as ih =>
    obtain ⟨hmem, hmem'⟩ := List.forall_mem_cons.1 hf.mem
    obtain ⟨helig, helig'⟩ := List.forall_mem_cons.1 he
    obtain ⟨hfresh, hnodup⟩ := List.nodup_cons.1 hf.nodup
    -- who has not answered yet is still in the roster as it was
    have hf' : (o.heed a).Fits as := by
      refine ⟨fun b hb => mem_update.2 (.inl ⟨hmem' b hb, ?_⟩), hnodup⟩
      rw [Plugin.handle_heeding]
      exact fun hsame => hfresh (List.mem_map.2 ⟨b, hb, hsame⟩)
    have hrest := ih (h.heed hmem helig) hf' helig'
    rwa [List.append_assoc] at hrest

end Records

end Roster

end PluginHost
