/-!
# Feature sets

A plugin describes what it can do by a 32-bit mask. Two bits have names; the others are carried
along unread and printed in hexadecimal.
-/

namespace PluginHost

/-- The mask of features that a plugin announces. -/
structure FeatureSet where
  bits : UInt32
deriving DecidableEq, Repr, Inhabited

namespace FeatureSet

def none : FeatureSet := ⟨0⟩

/-- The plugin can report positional data. -/
def positional : FeatureSet := ⟨1⟩

/-- The plugin touches audio. -/
def audio : FeatureSet := ⟨2⟩

def union (a b : FeatureSet) : FeatureSet := ⟨a.bits ||| b.bits⟩

def inter (a b : FeatureSet) : FeatureSet := ⟨a.bits &&& b.bits⟩

/-- All of `b`'s features are in `a`. -/
def contains (a b : FeatureSet) : Bool := a.bits &&& b.bits == b.bits

def isEmpty (a : FeatureSet) : Bool := a.bits == 0

/-- Lower-case hexadecimal digits of `n`, without leading zeros. -/
def hexDigits (n : Nat) : String := String.ofList (Nat.toDigits 16 n)

/-- The bits of `a` that have no name. -/
def unnamed (a : FeatureSet) : UInt32 := a.bits &&& ~~~(3 : UInt32)

/-- The names of the set's features joined by plus signs, the unnamed bits last as one hexadecimal
number; an empty set is called `none`. -/
def text (a : FeatureSet) : String :=
  if a.isEmpty then "none"
  else
    let named := (if a.contains positional then ["positional"] else []) ++
      (if a.contains audio then ["audio"] else [])
    let rest := if a.unnamed == 0 then [] else ["0x" ++ hexDigits a.unnamed.toNat]
    "+".intercalate (named ++ rest)

/-! ## Laws -/

/-- A set contains its own members. -/
theorem contains_self (a : FeatureSet) : a.contains a = true := by
  simp [contains]

theorem contains_none (a : FeatureSet) : a.contains none = true := by
  simp [contains, none]

end FeatureSet

end PluginHost
