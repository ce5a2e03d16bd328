import PluginHost.Text.Utf8

/-!
# Wide strings

Text of the older plugin interface: 32-bit units ended by a zero unit, one unit for each code
point. Reading stops at the first zero and in any case after `limit` units, so that a buffer
without an end is not read for ever.
-/

namespace PluginHost
namespace Wide

/-- The largest count of units that is read from a plugin. -/
def limit : Nat := 65536

/-- One unit for each character and a zero at the end. -/
def encode (s : String) : List UInt32 := s.toList.map (·.val) ++ [0]

/-- The character of a unit; a unit that is no scalar value is replaced. -/
def charOfUnit (u : UInt32) : Char :=
  if h : u.isValidChar then ⟨u, h⟩ else Utf8.replacement

/-- One character for each unit. -/
def decode (units : List UInt32) : String := String.ofList (units.map charOfUnit)

/-- Scans memory for the units before the first zero, reading at most `fuel` units. -/
def scan : Nat → List UInt32 → List UInt32
  | 0, _ => []
  | _ + 1, [] => []
  | fuel + 1, u :: rest => if u = 0 then [] else u :: scan fuel rest

/-- The units of a terminated wide string, without the zero. -/
def terminated (memory : List UInt32) : List UInt32 := scan limit memory

/-- Reads a terminated wide string as text. -/
def read (memory : List UInt32) : String := decode (terminated memory)

/-! ## Laws -/

/-- A scan reads the units up to a zero, and no more than it may. -/
theorem scan_eq (fuel : Nat) (memory : List UInt32) :
    scan fuel memory = (memory.take fuel).takeWhile (· != 0) := by
  induction fuel generalizing memory with
  | zero => simp [scan]
  | succ n ih =>
    cases memory with
    | nil => simp [scan]
    | cons u rest =>
      by_cases h : u = 0
      · simp [scan, h]
      · simp [scan, h, ih]

/-- A unit that is a code point stands for its character. -/
@[simp] theorem charOfUnit_val (c : Char) : charOfUnit c.val = c := by
  have h : c.val.isValidChar := c.valid
  simp [charOfUnit, h]

end Wide
end PluginHost
