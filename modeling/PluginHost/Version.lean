/-!
# Versions

Version triples exchanged between the host and its plugins, their order and their text.
Two versions are on the same feature level when they agree in everything but the patch number.
-/

namespace PluginHost

/-- A version triple. Components are signed 32-bit words. -/
structure Version where
  major : Int32
  minor : Int32
  patch : Int32
deriving DecidableEq, Repr, Inhabited

namespace Version

/-- The version reported for something that does not state one. -/
def unknown : Version := ⟨-1, -1, -1⟩

def zero : Version := ⟨0, 0, 0⟩

/-- The plugin interface that this host speaks. -/
def pluginApi : Version := ⟨1, 0, 0⟩

/-- The oldest plugin interface that this host accepts. -/
def minimumPluginApi : Version := ⟨1, 0, 0⟩

/-- The host's own version, as told to plugins. -/
def host : Version := ⟨0, 1, 0⟩

def sameFeatureLevel (a b : Version) : Bool :=
  a.major == b.major && a.minor == b.minor

/-- Versions are ordered by major, then minor, then patch number. -/
def order (a b : Version) : Ordering :=
  (compare a.major.toInt b.major.toInt).then
    ((compare a.minor.toInt b.minor.toInt).then (compare a.patch.toInt b.patch.toInt))

/-- The three numbers in decimal, joined by points. -/
def text (v : Version) : String :=
  toString v.major.toInt ++ "." ++ toString v.minor.toInt ++ "." ++ toString v.patch.toInt

/-! ## Laws -/

theorem sameFeatureLevel_refl (a : Version) : a.sameFeatureLevel a = true := by
  simp [sameFeatureLevel]

/-- Versions of one feature level agree in their first two numbers. -/
theorem sameFeatureLevel_iff {a b : Version} :
    a.sameFeatureLevel b = true ↔ a.major = b.major ∧ a.minor = b.minor := by
  simp [sameFeatureLevel]

end Version

end PluginHost
