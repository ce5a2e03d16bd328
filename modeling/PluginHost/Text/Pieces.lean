/-!
# Pieces

A text falls into the pieces that stand between its separators. There is always one, and an empty
one stands between two separators and at an end with a separator.
-/

namespace PluginHost
namespace Pieces

/-- The pieces between separators. -/
def split (separator : Char) (cs : List Char) : List (List Char) :=
  match cs with
  | [] => [[]]
  | c :: rest =>
    match split separator rest with
    | p :: ps => if c = separator then [] :: p :: ps else (c :: p) :: ps
    | [] => [[c]]

/-! ## Laws -/

variable {separator : Char} {cs ds p : List Char} {ps : List (List Char)}

theorem split_ne_nil (separator : Char) (cs : List Char) : split separator cs ≠ [] := by
  cases cs with
  | nil => simp [split]
  | cons c cs =>
    unfold split
    split
    · split <;> simp
    · simp

/-- A character in front either separates or belongs to the first piece. -/
theorem split_cons (h : split separator cs = p :: ps) (c : Char) :
    split separator (c :: cs) = if c = separator then [] :: p :: ps else (c :: p) :: ps := by
  rw [split, h]

/-- A text is split where two texts were put together with a separator. -/
theorem split_append (separator : Char) (cs ds : List Char) :
    split separator (cs ++ separator :: ds) = split separator cs ++ split separator ds := by
  induction cs with
  | nil =>
    obtain ⟨p, ps, hp⟩ := List.exists_cons_of_ne_nil (split_ne_nil separator ds)
    rw [List.nil_append, split_cons hp, hp]
    simp [split]
  | cons c cs ih =>
    obtain ⟨p, ps, hp⟩ := List.exists_cons_of_ne_nil (split_ne_nil separator cs)
    rw [hp, List.cons_append] at ih
    rw [List.cons_append, split_cons ih, split_cons hp]
    split <;> rfl

/-- Without a separator the text is one piece. -/
theorem split_of_not_mem (h : separator ∉ cs) : split separator cs = [cs] := by
  induction cs with
  | nil => rfl
  | cons c cs ih =>
    obtain ⟨hc, hcs⟩ : separator ≠ c ∧ separator ∉ cs := by simpa using h
    rw [split_cons (ih hcs), if_neg hc.symm]

/-- No piece has a separator. -/
theorem not_mem_of_mem_split (h : ds ∈ split separator cs) : separator ∉ ds := by
  induction cs generalizing ds with
  | nil =>
    rw [List.mem_singleton.1 h]
    simp
  | cons c cs ih =>
    obtain ⟨p, ps, hp⟩ := List.exists_cons_of_ne_nil (split_ne_nil separator cs)
    rw [hp] at ih
    rw [split_cons hp] at h
    split at h
    · rcases List.mem_cons.1 h with rfl | h
      · simp
      · exact ih h
    · rename_i hc
      rcases List.mem_cons.1 h with rfl | h
      · have hp : separator ∉ p := ih (List.mem_cons_self ..)
        simpa [hp] using Ne.symm hc
      · exact ih (List.mem_cons_of_mem _ h)

/-- The pieces with separators between them are the text. -/
theorem intercalate_split (separator : Char) (cs : List Char) :
    [separator].intercalate (split separator cs) = cs := by
  induction cs with
  | nil => rfl
  | cons c cs ih =>
    obtain ⟨p, ps, hp⟩ := List.exists_cons_of_ne_nil (split_ne_nil separator cs)
    rw [hp] at ih
    rw [split_cons hp]
    split
    · rename_i hc
      rw [hc, ← ih]
      simp [List.intercalate]
    · rw [← ih]
      cases ps <;> simp [List.intercalate]

end Pieces
end PluginHost
