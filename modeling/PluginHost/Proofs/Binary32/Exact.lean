import Mathlib.Algebra.Field.Rat
import PluginHost.Binary32.Basic

/-!
# Results that need no rounding

A finite number stands for a rational one. An operation whose exact result has no more than 24
binary digits gives that result.

* **`value`**: the rational number. **`Counts`**: the sign of a finite number and its units.
* **`Fields`**: a significand and an exponent as they stand in the bits. **`exists_fields`**: every
  count of units with few enough digits has them.
* **`ofRatio_exact`**: what is rounded has few enough digits, so nothing is lost.
* **`ofUnits_exact`**, **`Counts.mul`**: the same for a whole number of units and for a product.
-/

namespace PluginHost
namespace Binary32

variable {a b : Binary32} {negative negative' : Bool} {m e u q r den : Nat}

/-- The rational number that a finite number stands for. -/
def value (a : Binary32) : ℚ := a.units / unitsOfOne

/-- A finite number with a sign and so many units. -/
structure Counts (a : Binary32) (negative : Bool) (q : Nat) : Prop where
  isFinite : a.isFinite = true
  isNegative : a.isNegative = negative
  magnitude : a.magnitude = q

theorem Counts.value_eq (h : a.Counts false q) : a.value = q / unitsOfOne := by
  rw [value, units, h.isNegative, h.magnitude]
  simp

/-! ## The bits -/

/-- A significand and an exponent as they stand in the bits of a finite number: the leading digit is
only missing at the smallest exponent. -/
structure Fields (m e : Nat) : Prop where
  lt : m < 0x1000000
  norm : 0x800000 ≤ m ∨ e = 0
  le : e ≤ 253

theorem Fields.bits_lt (h : Fields m e) : m + e * 0x800000 < 0x7f800000 := by
  have hm := h.lt
  have he := h.le
  omega

/-- There is room for the sign. -/
theorem Fields.unsigned (h : Fields m e) : m + e * 0x800000 < 0x80000000 :=
  Nat.lt_trans h.bits_lt (by decide)

theorem toNat_withSign (hu : u < 0x80000000) :
    (withSign negative u).bits.toNat = if negative then 0x80000000 + u else u := by
  show (UInt32.ofNat _).toNat = _
  rw [UInt32.toNat_ofNat']
  apply Nat.mod_eq_of_lt
  split <;> omega

theorem isNegative_withSign (hu : u < 0x80000000) :
    (withSign negative u).isNegative = negative := by
  rw [isNegative, toNat_withSign hu]
  cases negative <;> simp [hu]

theorem unsignedBits_withSign (hu : u < 0x80000000) : (withSign negative u).unsignedBits = u := by
  rw [unsignedBits, toNat_withSign hu]
  split <;> omega

/-- A number that is put together from its fields counts that many units. -/
theorem Fields.counts (h : Fields m e) :
    (withSign negative (m + e * 0x800000)).Counts negative (m * 2 ^ e) where
  isFinite := by
    rw [Binary32.isFinite, unsignedBits_withSign h.unsigned]
    exact decide_eq_true h.bits_lt
  isNegative := isNegative_withSign h.unsigned
  magnitude := by
    have hm := h.lt
    rw [Binary32.magnitude, unsignedBits_withSign h.unsigned]
    rcases Nat.lt_or_ge m 0x800000 with hsmall | hlarge
    · -- no leading digit, so the exponent is the smallest one
      obtain rfl : e = 0 := h.norm.resolve_left (by omega)
      have hexponent : (m + 0 * 0x800000) / 0x800000 = 0 := by omega
      have hfraction : (m + 0 * 0x800000) % 0x800000 = m := by omega
      simp only [hexponent, hfraction, if_true, Nat.pow_zero, Nat.mul_one]
    · have hexponent : (m + e * 0x800000) / 0x800000 = e + 1 := by omega
      have hfraction : 0x800000 + (m + e * 0x800000) % 0x800000 = m := by omega
      simp only [hexponent, hfraction, Nat.add_one_ne_zero, if_false, Nat.add_sub_cancel,
        Nat.pow_eq]

/-- The digits that the rounding would take away are as many as the exponent says. -/
theorem Fields.excess_eq (h : Fields m e) : excess (m * 2 ^ e) = e := by
  have hm := h.lt
  rcases Nat.lt_or_ge m 0x800000 with hsmall | hlarge
  · obtain rfl : e = 0 := h.norm.resolve_left (by omega)
    rw [Nat.pow_zero, Nat.mul_one, excess]
    rcases Nat.eq_zero_or_pos m with rfl | hpos
    · rfl
    · have hlog : m.log2 < 24 := (Nat.log2_lt (by omega)).2 hm
      omega
  · have hlow : 2 ^ (23 + e) ≤ m * 2 ^ e := by
      rw [Nat.pow_add]
      exact Nat.mul_le_mul_right _ hlarge
    have hhigh : m * 2 ^ e < 2 ^ (23 + e + 1) := by
      rw [show 23 + e + 1 = 24 + e by omega, Nat.pow_add]
      exact Nat.mul_lt_mul_of_pos_right hm (Nat.two_pow_pos e)
    have hlog : (m * 2 ^ e).log2 = 23 + e :=
      (Nat.log2_eq_iff (by have := Nat.two_pow_pos (23 + e); omega)).2 ⟨hlow, hhigh⟩
    rw [excess, hlog]
    omega

/-! ## Rounding what needs none -/

/-- So many units have no more than 24 significant digits, and are not beyond the largest
exponent. -/
def Short (q : Nat) : Prop := ∃ m e, m < 0x1000000 ∧ e ≤ 253 ∧ q = m * 2 ^ e

/-- Every count of units with few enough digits has the fields of a number. -/
theorem exists_fields (hq : Short q) : ∃ m e, Fields m e ∧ q = m * 2 ^ e := by
  obtain ⟨m, e, hm, he, rfl⟩ := hq
  induction e generalizing m with
  | zero => exact ⟨m, 0, ⟨hm, .inr rfl, he⟩, rfl⟩
  | succ e ih =>
    rcases Nat.lt_or_ge m 0x800000 with hsmall | hlarge
    · -- one digit more in the significand, one less in the exponent
      obtain ⟨m', e', h, heq⟩ := ih (m * 2) (by omega) (by omega)
      refine ⟨m', e', h, ?_⟩
      rw [← heq, Nat.pow_succ, Nat.mul_assoc, Nat.mul_comm 2]
    · exact ⟨m, e + 1, ⟨hm, .inl hlarge, he⟩, rfl⟩

theorem roundQuotient_mul (hden : 0 < den) : roundQuotient (q * den) den = q := by
  rw [roundQuotient, Nat.mul_div_cancel _ hden, Nat.mul_mod_left]
  exact if_pos hden

/-- Rounding a ratio that is a short number of units leaves it as it is. -/
theorem ofRatio_exact (hq : Short q) (hden : 0 < den) :
    (ofRatio negative (q * den) den).Counts negative q := by
  obtain ⟨m, e, h, rfl⟩ := exists_fields hq
  have hround : roundQuotient (m * 2 ^ e * den) (den * Nat.pow 2 e) = m := by
    rw [Nat.pow_eq, Nat.mul_assoc, Nat.mul_comm (2 ^ e)]
    exact roundQuotient_mul (Nat.mul_pos hden (Nat.two_pow_pos e))
  have hbits : ofRatio negative (m * 2 ^ e * den) den = withSign negative (m + e * 0x800000) := by
    simp only [ofRatio, Nat.mul_div_cancel _ hden, h.excess_eq, hround]
    exact if_pos h.bits_lt
  rw [hbits]
  exact h.counts

/-- The number that is nearest to a short number of units is that number. -/
theorem ofUnits_exact (hq : Short q) : (ofUnits false q).Counts false q := by
  have hsign : (if (q : Int) = 0 then false else decide ((q : Int) < 0)) = false := by
    split
    · rfl
    · exact decide_eq_false (by omega)
  rw [ofUnits, hsign, Int.natAbs_natCast]
  have hround : (ofRatio false (q * 1) 1).Counts false q := ofRatio_exact hq Nat.one_pos
  rwa [Nat.mul_one] at hround

theorem Counts.isNaN (h : a.Counts negative q) : a.isNaN = false := (isFinite_iff.1 h.isFinite).1

theorem Counts.isInfinite (h : a.Counts negative q) : a.isInfinite = false :=
  (isFinite_iff.1 h.isFinite).2

/-- A product that is a short number of units is that product. Multiplying the counts gives so many
units of `2^-298`. -/
theorem Counts.mul (ha : a.Counts negative u) (hb : b.Counts negative' r) (hq : Short q)
    (h : u * r = q * unitsOfOne) : (a.mul b).Counts (negative != negative') q := by
  have hproduct : a.mul b = ofRatio (negative != negative') (q * unitsOfOne) unitsOfOne := by
    simp [Binary32.mul, ha.isNaN, hb.isNaN, ha.isInfinite, hb.isInfinite, ha.isNegative,
      hb.isNegative, ha.magnitude, hb.magnitude, h]
  rw [hproduct]
  exact ofRatio_exact hq (Nat.two_pow_pos 149)

end Binary32
end PluginHost
