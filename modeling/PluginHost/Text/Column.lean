/-!
# Columns

Text of a least width, counted in characters. A text that is wider stays as it is.
-/

namespace PluginHost
namespace Column

def blanks (n : Nat) : String := String.ofList (List.replicate n ' ')

/-- The text at the left of a column. -/
def left (width : Nat) (s : String) : String := s ++ blanks (width - s.length)

/-- The text at the right of a column. -/
def right (width : Nat) (s : String) : String := blanks (width - s.length) ++ s

@[simp] theorem length_blanks (n : Nat) : (blanks n).length = n := by
  simp [blanks]

theorem length_left (width : Nat) (s : String) : (left width s).length = max width s.length := by
  simp only [left, String.length_append, length_blanks]
  omega

theorem length_right (width : Nat) (s : String) : (right width s).length = max width s.length := by
  simp only [right, String.length_append, length_blanks]
  omega

end Column
end PluginHost
