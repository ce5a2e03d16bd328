/-!
# Caches that detect change

A copy of a buffer that a plugin owns, with its text. The text is decoded again only when the buffer
differs from the copy; `replacements` counts how often that was.
-/

namespace PluginHost

structure ChangeCache (α : Type) where
  units : List α
  text : String
  replacements : Nat
deriving DecidableEq, Repr

namespace ChangeCache

variable {α : Type}

/-- The cache before anything was read: an empty buffer and its text. -/
def empty : ChangeCache α := ⟨[], "", 0⟩

/-- Takes in a buffer. -/
def refresh [DecidableEq α] (decode : List α → String) (c : ChangeCache α) (incoming : List α) :
    ChangeCache α :=
  if c.units = incoming then c else ⟨incoming, decode incoming, c.replacements + 1⟩

/-- The text belongs to the units. -/
def Coherent (decode : List α → String) (c : ChangeCache α) : Prop := c.text = decode c.units

/-! ## Laws -/

/-- A cache holds the last units that it has seen. -/
@[simp] theorem units_refresh [DecidableEq α] (decode : List α → String) (c : ChangeCache α)
    (us : List α) : (c.refresh decode us).units = us := by
  unfold refresh
  split <;> simp_all

/-- An empty cache is coherent if nothing is decoded to the empty text. -/
theorem coherent_empty {decode : List α → String} (h : decode [] = "") :
    (empty : ChangeCache α).Coherent decode := h.symm

/-- A refreshed cache holds the decoding of its units. -/
theorem Coherent.refresh [DecidableEq α] {decode : List α → String} {c : ChangeCache α}
    (h : c.Coherent decode) (us : List α) : (c.refresh decode us).Coherent decode := by
  unfold ChangeCache.refresh
  split
  · exact h
  · rfl

/-- The text after taking in a buffer is the buffer's own, whatever was there before. -/
theorem Coherent.text_refresh [DecidableEq α] {decode : List α → String} {c : ChangeCache α}
    (h : c.Coherent decode) (us : List α) : (c.refresh decode us).text = decode us := by
  have := h.refresh us
  unfold Coherent at this
  rw [this, units_refresh]

/-- Only other units replace those that are held. -/
theorem replacements_refresh [DecidableEq α] (decode : List α → String) (c : ChangeCache α)
    (us : List α) :
    (c.refresh decode us).replacements = c.replacements + if c.units = us then 0 else 1 := by
  unfold refresh
  split <;> simp

end ChangeCache

end PluginHost
