import PluginHost.Vector3

/-!
# Positional snapshots

The pose of the avatar and the camera together with the two texts that identify the game session
and the local player.

* `Frame` is what a plugin writes in one fetch: each vector or none, both texts.
* `Snapshot.apply` writes a frame into a snapshot, `Snapshot.sanitized` makes it finite.
-/

namespace PluginHost

/-- The six vectors of a pose. -/
structure Pose (α : Type) where
  avatarPosition : α
  avatarFront : α
  avatarTop : α
  cameraPosition : α
  cameraFront : α
  cameraTop : α
deriving DecidableEq, Repr, Inhabited

namespace Pose

variable {α β γ : Type}

def map (f : α → β) (p : Pose α) : Pose β :=
  ⟨f p.avatarPosition, f p.avatarFront, f p.avatarTop,
   f p.cameraPosition, f p.cameraFront, f p.cameraTop⟩

def zipWith (f : α → β → γ) (p : Pose α) (q : Pose β) : Pose γ :=
  ⟨f p.avatarPosition q.avatarPosition, f p.avatarFront q.avatarFront,
   f p.avatarTop q.avatarTop, f p.cameraPosition q.cameraPosition,
   f p.cameraFront q.cameraFront, f p.cameraTop q.cameraTop⟩

/-- The vectors in the order in which plugins receive them. -/
def toList (p : Pose α) : List α :=
  [p.avatarPosition, p.avatarFront, p.avatarTop, p.cameraPosition, p.cameraFront, p.cameraTop]

/-- The pose with the same entry in all six places. -/
def replicate (a : α) : Pose α := ⟨a, a, a, a, a, a⟩

@[simp] theorem toList_map (f : α → β) (p : Pose α) : (p.map f).toList = p.toList.map f := rfl

end Pose

/-- What a plugin leaves behind in one fetch: the vectors it wrote (the others keep their old
values), the texts, and whether it wants to be asked again. -/
structure Frame where
  vectors : Pose (Option Vector3)
  context : String
  identity : String
  proceed : Bool
deriving DecidableEq, Repr, Inhabited

structure Snapshot where
  pose : Pose Vector3
  context : String
  identity : String
deriving DecidableEq, Repr, Inhabited

namespace Snapshot

/-- All vectors zero, both texts empty. -/
def zeroed : Snapshot := ⟨.replicate .zero, "", ""⟩

/-- Numerical equality of the vectors and equality of the texts. -/
def same (a b : Snapshot) : Bool :=
  (a.pose.zipWith Vector3.eq b.pose).toList.all id && a.context == b.context &&
    a.identity == b.identity

def isZeroed (s : Snapshot) : Bool := s.same zeroed

def withAvatar (s : Snapshot) (position front top : Vector3) : Snapshot :=
  { s with pose := { s.pose with
      avatarPosition := position, avatarFront := front, avatarTop := top } }

def withCamera (s : Snapshot) (position front top : Vector3) : Snapshot :=
  { s with pose := { s.pose with
      cameraPosition := position, cameraFront := front, cameraTop := top } }

/-- Replaces every vector that is not finite by zero. -/
def sanitized (s : Snapshot) : Snapshot := { s with pose := s.pose.map Vector3.sanitized }

/-- Writes a frame: vectors that the frame has replace the old ones, both texts are replaced. -/
def apply (s : Snapshot) (f : Frame) : Snapshot :=
  ⟨f.vectors.zipWith Option.getD s.pose, f.context, f.identity⟩

def toJson (s : Snapshot) : Json := .object [
  ("avatar_position", s.pose.avatarPosition.toJson),
  ("avatar_front", s.pose.avatarFront.toJson),
  ("avatar_top", s.pose.avatarTop.toJson),
  ("camera_position", s.pose.cameraPosition.toJson),
  ("camera_front", s.pose.cameraFront.toJson),
  ("camera_top", s.pose.cameraTop.toJson),
  ("context", .string s.context),
  ("identity", .string s.identity)]

/-- No component of any vector is infinite or not a number. -/
def IsFinite (s : Snapshot) : Prop := ∀ v ∈ s.pose.toList, v.isFinite = true

/-! ## Laws -/

theorem isZeroed_zeroed : zeroed.isZeroed = true := by decide

/-- The zeroed snapshot is finite. -/
theorem isFinite_zeroed : zeroed.IsFinite := by
  intro v hv
  simp only [zeroed, Pose.replicate, Pose.toList, List.mem_cons, List.not_mem_nil, or_false,
    or_self] at hv
  exact hv ▸ Vector3.isFinite_zero

/-- Sanitizing makes a snapshot finite. -/
theorem isFinite_sanitized (s : Snapshot) : s.sanitized.IsFinite := by
  intro v hv
  simp only [sanitized, Pose.toList_map, List.mem_map] at hv
  obtain ⟨u, _, rfl⟩ := hv
  exact u.isFinite_sanitized

/-- A finite snapshot is kept. -/
theorem sanitized_of_isFinite {s : Snapshot} (h : s.IsFinite) : s.sanitized = s := by
  obtain ⟨⟨a, b, c, d, e, f⟩, x, y⟩ := s
  simp only [IsFinite, Pose.toList, List.forall_mem_cons] at h
  simp [sanitized, Pose.map, Vector3.sanitized_of_isFinite, h]

end Snapshot

end PluginHost
