import PluginHost.Binary32.Decimal
import PluginHost.Json.Basic

/-!
# Three-component vectors

Positions and directions in the game's coordinate system, in metres. Every operation evaluates its
terms from left to right and rounds after each step.
-/

namespace PluginHost

structure Vector3 where
  x : Binary32
  y : Binary32
  z : Binary32
deriving DecidableEq, Repr

namespace Vector3

def zero : Vector3 := ⟨.zero, .zero, .zero⟩

instance : Inhabited Vector3 := ⟨zero⟩

def map (f : Binary32 → Binary32) (a : Vector3) : Vector3 := ⟨f a.x, f a.y, f a.z⟩

def zipWith (f : Binary32 → Binary32 → Binary32) (a b : Vector3) : Vector3 :=
  ⟨f a.x b.x, f a.y b.y, f a.z b.z⟩

def add (a b : Vector3) : Vector3 := zipWith .add a b
def sub (a b : Vector3) : Vector3 := zipWith .sub a b
def neg (a : Vector3) : Vector3 := map .neg a
def scale (a : Vector3) (k : Binary32) : Vector3 := map (Binary32.mul · k) a

def dot (a b : Vector3) : Binary32 :=
  ((a.x.mul b.x).add (a.y.mul b.y)).add (a.z.mul b.z)

def cross (a b : Vector3) : Vector3 :=
  ⟨(a.y.mul b.z).sub (a.z.mul b.y),
   (a.z.mul b.x).sub (a.x.mul b.z),
   (a.x.mul b.y).sub (a.y.mul b.x)⟩

def normSquared (a : Vector3) : Binary32 := a.dot a

def norm (a : Vector3) : Binary32 := a.normSquared.sqrt

/-- The unit vector in the same direction; a vector no longer than the spacing of numbers at one
counts as zero. A length that is not a number is above every bound. -/
def normalized (a : Vector3) : Vector3 :=
  if a.norm.le .epsilon then zero else a.scale (Binary32.one.div a.norm)

/-- The components differ by at most `tolerance`. -/
def approxEq (a b : Vector3) (tolerance : Binary32) : Bool :=
  (a.x.sub b.x).abs.le tolerance && (a.y.sub b.y).abs.le tolerance &&
    (a.z.sub b.z).abs.le tolerance

def isZero (a : Vector3) (tolerance : Binary32) : Bool := a.approxEq zero tolerance

/-- No component is infinite or not a number. -/
def isFinite (a : Vector3) : Bool := a.x.isFinite && a.y.isFinite && a.z.isFinite

/-- Numerical equality of the components: signs of zeros do not matter. -/
def eq (a b : Vector3) : Bool := a.x.eq b.x && a.y.eq b.y && a.z.eq b.z

/-- The vector itself if it is finite, else the zero vector. -/
def sanitized (a : Vector3) : Vector3 := if a.isFinite then a else zero

/-- A component by its shortest text, or null if it is not finite. -/
def componentJson (c : Binary32) : Json := if c.isFinite then .decimal c.shortest else .null

def toJson (a : Vector3) : Json :=
  .object [("x", componentJson a.x), ("y", componentJson a.y), ("z", componentJson a.z)]

/-! ## Laws -/

theorem isFinite_zero : zero.isFinite = true := by decide

/-- Sanitizing makes a vector finite. -/
theorem isFinite_sanitized (a : Vector3) : a.sanitized.isFinite = true := by
  unfold sanitized
  split
  · assumption
  · exact isFinite_zero

theorem sanitized_of_isFinite {a : Vector3} (h : a.isFinite = true) : a.sanitized = a := by
  simp [sanitized, h]

theorem sanitized_of_not_isFinite {a : Vector3} (h : a.isFinite = false) :
    a.sanitized = zero := by
  simp [sanitized, h]

/-- A finite vector equals itself numerically. -/
theorem eq_self_of_isFinite {a : Vector3} (h : a.isFinite = true) : a.eq a = true := by
  simp only [isFinite, Bool.and_eq_true] at h
  simp [eq, Binary32.eq_self_of_not_isNaN, Binary32.isNaN_of_isFinite, h]

end Vector3

end PluginHost
