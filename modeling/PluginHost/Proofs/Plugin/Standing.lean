import Mathlib.Data.List.Induction
import PluginHost.Status

/-!
# Where a plugin stands

Whether a plugin is loaded and whether it may be offered positional data, as far as the events of
its life tell.

* **`PermissionEvent`**: what bears on the permission of a plugin. Not every event says something
  about it: an offer that was not refused for good does not, and a plugin that is not loaded is not
  allowed anything by being enabled.
* **`Standing.after`**: where a plugin stands after some events.
* **`LastSays`**, **`lastSays_iff`**: the permission is what the last event says that says
  something.
* **`Lawful`**: nothing is offered to a plugin that is not loaded or has no permission, and only a
  plugin that is not loaded is started.
* **`Lawful.asked_again`**, **`Lawful.never_offered`**: what follows for a plugin that refused for
  good, and for one that was never allowed anything.
-/

namespace PluginHost

/-- What bears on whether a plugin may be offered positional data. -/
inductive PermissionEvent where
  /-- The plugin was activated and started, with a permission by default. -/
  | started (allowed : Bool)
  /-- The plugin was activated and did not start. -/
  | failed
  | unloaded
  | toggled (on : Bool)
  /-- The plugin was offered positional data, and this is its answer. -/
  | offered (code : OfferCode)
deriving DecidableEq, Repr

/-- What is known of a plugin. -/
structure Standing where
  loaded : Bool
  permitted : Bool
deriving DecidableEq, Repr

namespace PermissionEvent

/-- What an event says about whether the plugin is loaded. -/
def loads? : PermissionEvent → Option Bool
  | started _ => some true
  | failed => some false
  | unloaded => some false
  | toggled _ => none
  | offered _ => none

/-- What an event says about the permission of a plugin that is loaded or not. -/
def says? (loaded : Bool) : PermissionEvent → Option Bool
  | started allowed => some allowed
  | failed => some false
  | unloaded => some false
  | toggled true => if loaded then some true else none
  | toggled false => some false
  | offered code => if code = .permanent then some false else none

/-- To which plugin an event can occur. -/
def Fits (s : Standing) : PermissionEvent → Prop
  | started _ => s.loaded = false
  | failed => s.loaded = false
  | unloaded => True
  | toggled _ => True
  | offered _ => s = ⟨true, true⟩

end PermissionEvent

namespace Standing

/-- Where a plugin stands after one more event. -/
def next (s : Standing) (e : PermissionEvent) : Standing :=
  ⟨e.loads?.getD s.loaded, (e.says? s.loaded).getD s.permitted⟩

/-- Where a plugin stands after some events. At first it is not loaded and not permitted. -/
def after (es : List PermissionEvent) : Standing := es.foldl next ⟨false, false⟩

end Standing

open PermissionEvent Standing

variable {es a b c d : List PermissionEvent} {e : PermissionEvent} {v : Bool} {code : OfferCode}

@[simp] theorem after_nil : after [] = ⟨false, false⟩ := rfl

@[simp] theorem after_concat : after (es ++ [e]) = (after es).next e := by simp [after]

/-- An answer that is no refusal for good changes nothing. -/
theorem after_offered (h : code ≠ .permanent) : after (es ++ [offered code]) = after es := by
  rw [after_concat, next, says?, if_neg h]
  rfl

/-- What holds at every place of a list that is one longer. -/
theorem forall_split_concat {P : List PermissionEvent → PermissionEvent → Prop} :
    (∀ a e' b, es ++ [e] = a ++ e' :: b → P a e') ↔
      (∀ a e' b, es = a ++ e' :: b → P a e') ∧ P es e := by
  constructor
  · intro h
    exact ⟨fun a e' b hsplit => h a e' (b ++ [e]) (by rw [hsplit]; simp), h es e [] rfl⟩
  · rintro ⟨h, hlast⟩ a e' b hsplit
    -- the place in question is the last one, or an earlier one
    rcases List.eq_nil_or_concat b with rfl | ⟨b, e'', rfl⟩
    · obtain ⟨rfl, hsame⟩ := List.append_inj' hsplit rfl
      obtain rfl := (List.cons.inj hsame).1
      exact hlast
    · have hearlier : es ++ [e] = (a ++ e' :: b) ++ [e''] := by simpa using hsplit
      exact h a e' b (List.append_inj' hearlier rfl).1

/-! ## The last event that says something -/

/-- After the events `a` none of the events `b` says anything about the permission. -/
def Silent (a b : List PermissionEvent) : Prop :=
  ∀ c e d, b = c ++ e :: d → e.says? (after (a ++ c)).loaded = none

/-- The last event that says something about the permission says `v`. As long as none does there is
no permission. -/
def LastSays (es : List PermissionEvent) (v : Bool) : Prop :=
  (∃ a e b, es = (a ++ [e]) ++ b ∧ e.says? (after a).loaded = some v ∧ Silent (a ++ [e]) b) ∨
    (Silent [] es ∧ v = false)

theorem silent_nil : Silent a [] := by
  intro c e d h
  simp at h

theorem silent_concat :
    Silent a (b ++ [e]) ↔ Silent a b ∧ e.says? (after (a ++ b)).loaded = none :=
  forall_split_concat (P := fun c e => e.says? (after (a ++ c)).loaded = none)

theorem Silent.permitted_eq (h : Silent a b) :
    (after (a ++ b)).permitted = (after a).permitted := by
  induction b using List.reverseRecOn with
  | nil => rw [List.append_nil]
  | append_singleton b e ih =>
    obtain ⟨hbefore, hnone⟩ := silent_concat.1 h
    rw [← List.append_assoc, after_concat, next, hnone, Option.getD_none]
    exact ih hbefore

/-- The permission is what the last event that says something of it says. -/
theorem lastSays_iff : LastSays es v ↔ (after es).permitted = v := by
  constructor
  · rintro (⟨a, e, b, rfl, hsays, hsilent⟩ | ⟨hsilent, rfl⟩)
    · rw [hsilent.permitted_eq, after_concat, next, hsays]
      rfl
    · exact hsilent.permitted_eq (a := [])
  · rintro rfl
    induction es using List.reverseRecOn with
    | nil => exact .inr ⟨silent_nil, rfl⟩
    | append_singleton es e ih =>
      cases hsays : e.says? (after es).loaded with
      | some w => exact .inl ⟨es, e, [], by simp, by simp [next, hsays], silent_nil⟩
      | none =>
        -- what was said last before is still what was said last
        have hsame : (after (es ++ [e])).permitted = (after es).permitted := by simp [next, hsays]
        rw [hsame]
        rcases ih with ⟨a, e', b, hes, hsaid, hsilent⟩ | ⟨hsilent, hfalse⟩
        · refine .inl ⟨a, e', b ++ [e], by rw [hes]; simp, hsaid, silent_concat.2 ⟨hsilent, ?_⟩⟩
          rw [← hes]
          exact hsays
        · exact .inr ⟨silent_concat.2 ⟨hsilent, hsays⟩, hfalse⟩

/-! ## Lawful lives -/

/-- Every event of a life fits the plugin as it stands. -/
def Lawful (es : List PermissionEvent) : Prop := ∀ a e b, es = a ++ e :: b → e.Fits (after a)

theorem lawful_nil : Lawful [] := by
  intro a e b h
  simp at h

theorem lawful_concat : Lawful (es ++ [e]) ↔ Lawful es ∧ e.Fits (after es) :=
  forall_split_concat (P := fun a e => e.Fits (after a))

theorem Lawful.before (h : Lawful (a ++ b)) : Lawful a := by
  intro c e d hc
  exact h c e (d ++ b) (by rw [hc]; simp)

/-- A plugin that was neither started with a permission nor enabled has none. -/
theorem permitted_eq_false (hs : started true ∉ es) (ht : toggled true ∉ es) :
    (after es).permitted = false := by
  induction es using List.reverseRecOn with
  | nil => rfl
  | append_singleton es e ih =>
    simp only [List.mem_append, List.mem_singleton, not_or] at hs ht
    have hbefore := ih hs.1 ht.1
    rw [after_concat, next]
    cases e with
    | started allowed =>
      cases allowed with
      | true => exact absurd rfl hs.2
      | false => rfl
    | toggled on =>
      cases on with
      | true => exact absurd rfl ht.2
      | false => rfl
    | offered code =>
      rw [says?, hbefore]
      split <;> rfl
    | failed => rfl
    | unloaded => rfl

/-- Nothing is offered to a plugin that was neither started with a permission nor enabled. -/
theorem Lawful.never_offered (h : Lawful es) (hs : started true ∉ es) (ht : toggled true ∉ es)
    (code : OfferCode) : offered code ∉ es := by
  intro hmem
  obtain ⟨a, b, rfl⟩ := List.append_of_mem hmem
  have hfits : after a = ⟨true, true⟩ := h a _ b rfl
  have hfalse : (after a).permitted = false :=
    permitted_eq_false (fun hin => hs (by simp [hin])) (fun hin => ht (by simp [hin]))
  rw [hfits] at hfalse
  exact absurd hfalse (by decide)

/-- What is known of a plugin that is loaded and has no permission, some events later, if it was not
enabled: it has a permission only from being started once more, and it was unloaded before that. -/
theorem Lawful.restarted (h : Lawful (a ++ b)) (ha : after a = ⟨true, false⟩)
    (ht : toggled true ∉ b) :
    ((after (a ++ b)).loaded = false → unloaded ∈ b) ∧
      ((after (a ++ b)).permitted = true → ∃ c d, b = c ++ unloaded :: d ∧ started true ∈ d) := by
  induction b using List.reverseRecOn with
  | nil => simp [ha]
  | append_singleton b e ih =>
    rw [← List.append_assoc] at h ⊢
    obtain ⟨hbefore, hfits⟩ := lawful_concat.1 h
    simp only [List.mem_append, List.mem_singleton, not_or] at ht
    obtain ⟨hunloaded, hallowed⟩ := ih hbefore ht.1
    have hlonger : (∃ c d, b = c ++ unloaded :: d ∧ started true ∈ d) →
        ∃ c d, b ++ [e] = c ++ unloaded :: d ∧ started true ∈ d := by
      rintro ⟨c, d, rfl, hin⟩
      exact ⟨c, d ++ [e], by simp, by simp [hin]⟩
    rw [after_concat, next]
    cases e with
    | started allowed =>
      refine ⟨fun hl => absurd hl (by simp [loads?]), fun hp => ?_⟩
      obtain rfl : allowed = true := hp
      -- only a plugin that is not loaded is started
      obtain ⟨c, d, rfl⟩ := List.append_of_mem (hunloaded hfits)
      exact ⟨c, d ++ [started true], by simp, by simp⟩
    | failed =>
      exact ⟨fun _ => List.mem_append_left _ (hunloaded hfits),
        fun hp => absurd hp (by simp [says?])⟩
    | unloaded => exact ⟨fun _ => by simp, fun hp => absurd hp (by simp [says?])⟩
    | toggled on =>
      cases on with
      | true => exact absurd rfl ht.2
      | false =>
        exact ⟨fun hl => List.mem_append_left _ (hunloaded hl),
          fun hp => absurd hp (by simp [says?])⟩
    | offered code =>
      refine ⟨fun hl => List.mem_append_left _ (hunloaded hl), fun hp => ?_⟩
      rw [says?] at hp
      split at hp
      · exact absurd hp (by simp)
      · exact hlonger (hallowed hp)

/-- Who refused for good is asked again only after it was enabled, or unloaded and started again. -/
theorem Lawful.asked_again (h : Lawful (a ++ offered .permanent :: (b ++ offered code :: c))) :
    toggled true ∈ b ∨ ∃ b₁ b₂, b = b₁ ++ unloaded :: b₂ ∧ started true ∈ b₂ := by
  have hrefused : after a = ⟨true, true⟩ := h a _ _ rfl
  have hsilenced : after (a ++ [offered .permanent]) = ⟨true, false⟩ := by
    rw [after_concat, hrefused]
    rfl
  have hasked : after ((a ++ [offered .permanent]) ++ b) = ⟨true, true⟩ :=
    h ((a ++ [offered .permanent]) ++ b) (offered code) c (by simp)
  have hbetween : Lawful ((a ++ [offered .permanent]) ++ b) := by
    refine Lawful.before (b := offered code :: c) ?_
    simpa using h
  by_cases ht : toggled true ∈ b
  · exact .inl ht
  · exact .inr ((hbetween.restarted hsilenced ht).2 (by rw [hasked]))

end PluginHost
