/-!
# Binary32

Single precision floating point as bit patterns with exact arithmetic on integers.

* A finite number is a whole number of *units* of `2^-149`, the spacing of the smallest ones;
  `magnitude` is that whole number without its sign.
* An operation computes its exact result as a ratio of two natural numbers of units and rounds
  once (`ofRatio`), to the nearest representable number and on a tie to the even one.
* All not-a-numbers are one value for equality of results: `nan`.
-/

namespace PluginHost

/-- A single precision number, given by its bits: sign, eight exponent bits, 23 fraction bits. -/
structure Binary32 where
  bits : UInt32
deriving DecidableEq, Repr

namespace Binary32

def zero : Binary32 := ⟨0⟩
def one : Binary32 := ⟨0x3f800000⟩
def half : Binary32 := ⟨0x3f000000⟩
def nan : Binary32 := ⟨0x7fc00000⟩

/-- The spacing of numbers at one, `2^-23`. -/
def epsilon : Binary32 := ⟨0x34000000⟩

instance : Inhabited Binary32 := ⟨zero⟩

/-- How many units of `2^-149` make up one. -/
def unitsOfOne : Nat := Nat.pow 2 149

/-! ## Reading the bits -/

def isNegative (a : Binary32) : Bool := 0x80000000 ≤ a.bits.toNat

/-- The bits without the sign. -/
def unsignedBits (a : Binary32) : Nat := a.bits.toNat % 0x80000000

def isFinite (a : Binary32) : Bool := a.unsignedBits < 0x7f800000

def isNaN (a : Binary32) : Bool := 0x7f800000 < a.unsignedBits

def isInfinite (a : Binary32) : Bool := a.unsignedBits == 0x7f800000

/-- The number's distance from zero in units of `2^-149`; meant for finite numbers. -/
def magnitude (a : Binary32) : Nat :=
  let exponent := a.unsignedBits / 0x800000
  let fraction := a.unsignedBits % 0x800000
  if exponent = 0 then fraction else (0x800000 + fraction) * Nat.pow 2 (exponent - 1)

/-- The finite number as a signed count of units of `2^-149`. -/
def units (a : Binary32) : Int :=
  if a.isNegative then -(a.magnitude : Int) else a.magnitude

/-! ## Rounding -/

/-- Puts a sign on a pattern without one. -/
def withSign (negative : Bool) (unsigned : Nat) : Binary32 :=
  ⟨UInt32.ofNat (if negative then 0x80000000 + unsigned else unsigned)⟩

def infinity (negative : Bool) : Binary32 := withSign negative 0x7f800000

/-- The natural number nearest to `num / den`; of two equally near ones the even one. -/
def roundQuotient (num den : Nat) : Nat :=
  let q := num / den
  let twice := 2 * (num % den)
  if twice < den then q
  else if den < twice then q + 1
  else if q % 2 = 0 then q else q + 1

/-- Digits that a number of `n` units has beyond the 24 significant ones. -/
def excess (n : Nat) : Nat := n.log2 - 23

/-- The nearest binary32 to `num / den` units of `2^-149`, ties to even, beyond the largest
finite number infinity. The rounded significand may carry into the next exponent; adding it to the
exponent field does that by itself. -/
def ofRatio (negative : Bool) (num den : Nat) : Binary32 :=
  let shift := excess (num / den)
  let unsigned := roundQuotient num (den * Nat.pow 2 shift) + shift * 0x800000
  if unsigned < 0x7f800000 then withSign negative unsigned else infinity negative

/-- The nearest binary32 to a signed whole number of units; zero gets the given sign. -/
def ofUnits (zeroIsNegative : Bool) (n : Int) : Binary32 :=
  ofRatio (if n = 0 then zeroIsNegative else n < 0) n.natAbs 1

/-! ## Arithmetic -/

def neg (a : Binary32) : Binary32 :=
  if a.isNaN then a else withSign (!a.isNegative) a.unsignedBits

def abs (a : Binary32) : Binary32 := withSign false a.unsignedBits

/-- A sum that is exactly zero is positive unless both terms are negative. -/
def add (a b : Binary32) : Binary32 :=
  if a.isNaN || b.isNaN then nan
  else if a.isInfinite then
    if b.isInfinite && a.isNegative != b.isNegative then nan else a
  else if b.isInfinite then b
  else ofUnits (a.isNegative && b.isNegative) (a.units + b.units)

def sub (a b : Binary32) : Binary32 :=
  if b.isNaN then nan else a.add b.neg

/-- The product of the magnitudes counts units of `2^-298`. -/
def mul (a b : Binary32) : Binary32 :=
  let negative := a.isNegative != b.isNegative
  if a.isNaN || b.isNaN then nan
  else if a.isInfinite || b.isInfinite then
    if (a.isFinite && a.magnitude == 0) || (b.isFinite && b.magnitude == 0) then nan
    else infinity negative
  else ofRatio negative (a.magnitude * b.magnitude) unitsOfOne

def div (a b : Binary32) : Binary32 :=
  let negative := a.isNegative != b.isNegative
  if a.isNaN || b.isNaN then nan
  else if a.isInfinite then if b.isInfinite then nan else infinity negative
  else if b.isInfinite then withSign negative 0
  else if b.magnitude = 0 then if a.magnitude = 0 then nan else infinity negative
  else ofRatio negative (a.magnitude * unitsOfOne) b.magnitude

/-- The bits of the integer square root of `n` from position `i - 1` down, on top of `root`. -/
def integerRootFrom (n : Nat) : Nat → Nat → Nat
  | 0, root => root
  | i + 1, root =>
    let next := root + Nat.pow 2 i
    integerRootFrom n i (if next * next ≤ n then next else root)

/-- The largest natural number whose square is at most `n`. -/
def integerRoot (n : Nat) : Nat := integerRootFrom n (n.log2 / 2 + 1) 0

/-- The square of the root counts units of `2^-149` when scaled by `2^149`. The integer root of
that has far more than 24 digits, so one further digit that tells whether it is exact decides the
rounding. -/
def sqrt (a : Binary32) : Binary32 :=
  if a.isNaN then nan
  else if a.unsignedBits = 0 then a
  else if a.isNegative then nan
  else if a.isInfinite then a
  else
    let square := a.magnitude * unitsOfOne
    let root := integerRoot square
    ofRatio false (2 * root + (if root * root = square then 0 else 1)) 2

/-! ## Comparison -/

/-- Numerical equality: both zeros are equal, a not-a-number equals nothing. -/
def eq (a b : Binary32) : Bool :=
  !a.isNaN && !b.isNaN &&
    (a.bits == b.bits || (a.unsignedBits == 0 && b.unsignedBits == 0))

/-- The bits of a number that is not a not-a-number, mapped to integers in numerical order. -/
def rank (a : Binary32) : Int :=
  if a.isNegative then -(a.unsignedBits : Int) else a.unsignedBits

/-- Numerical order; a not-a-number is not below anything. -/
def le (a b : Binary32) : Bool := !a.isNaN && !b.isNaN && a.rank ≤ b.rank

/-! ## Laws -/

theorem isFinite_zero : zero.isFinite = true := by decide

/-- A number is equal to itself. -/
theorem eq_self_of_not_isNaN {a : Binary32} (h : a.isNaN = false) : a.eq a = true := by
  simp [eq, h]

theorem eq_nan (a : Binary32) : a.eq nan = false := by
  have h : nan.isNaN = true := by decide
  simp [eq, h]

/-- A finite number is neither. -/
theorem isFinite_iff {a : Binary32} :
    a.isFinite = true ↔ a.isNaN = false ∧ a.isInfinite = false := by
  simp only [isFinite, isNaN, isInfinite, decide_eq_true_eq, decide_eq_false_iff_not,
    beq_eq_false_iff_ne]
  omega

/-- A finite number is not a not-a-number. -/
theorem isNaN_of_isFinite {a : Binary32} (h : a.isFinite = true) : a.isNaN = false :=
  (isFinite_iff.1 h).1

end Binary32

end PluginHost
