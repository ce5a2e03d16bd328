/-!
# Bytes and text

Text crosses the plugin boundary as bytes. `Utf8.decode` reads any bytes: each maximal piece that
begins a character but cannot be completed becomes one replacement character, so well formed
text is read as it stands.
-/

namespace PluginHost
namespace Utf8

/-- U+FFFD, which stands for bytes or units that form no character. -/
def replacement : Char := '\uFFFD'

/-- The UTF-8 bytes of a character. -/
def encodeChar (c : Char) : List UInt8 :=
  let n := c.toNat
  let tail (k : Nat) : UInt8 := UInt8.ofNat (0x80 + n / Nat.pow 64 k % 64)
  if n < 0x80 then [UInt8.ofNat n]
  else if n < 0x800 then [UInt8.ofNat (0xC0 + n / 64), tail 0]
  else if n < 0x10000 then [UInt8.ofNat (0xE0 + n / 4096), tail 1, tail 0]
  else [UInt8.ofNat (0xF0 + n / 262144), tail 2, tail 1, tail 0]

def encode (s : String) : List UInt8 := s.toList.flatMap encodeChar

/-- The range of the second byte and the count of bytes after the first, for a first byte that
opens a character of several bytes. The ranges leave out surrogates, overlong forms and code
points beyond the last. -/
def opening (b : Nat) : Option (Nat × Nat × Nat) :=
  if 0xC2 ≤ b && b ≤ 0xDF then some (0x80, 0xBF, 1)
  else if b = 0xE0 then some (0xA0, 0xBF, 2)
  else if b = 0xED then some (0x80, 0x9F, 2)
  else if 0xE1 ≤ b && b ≤ 0xEF then some (0x80, 0xBF, 2)
  else if b = 0xF0 then some (0x90, 0xBF, 3)
  else if 0xF1 ≤ b && b ≤ 0xF3 then some (0x80, 0xBF, 3)
  else if b = 0xF4 then some (0x80, 0x8F, 3)
  else none

/-- The bits that the first byte of a character of `extra + 1` bytes contributes. -/
def openingBits (b extra : Nat) : Nat := b % Nat.pow 2 (6 - extra)

/-- Reads up to `extra` further bytes of a character, the first of them in the given range.
Returns the character (or the replacement, if a byte is missing or out of range) and the rest. -/
def continueChar (code low high : Nat) : Nat → List UInt8 → Char × List UInt8
  | 0, rest => (Char.ofNat code, rest)
  | _ + 1, [] => (replacement, [])
  | extra + 1, b :: rest =>
    if low ≤ b.toNat && b.toNat ≤ high then
      continueChar (code * 64 + b.toNat % 64) 0x80 0xBF extra rest
    else (replacement, b :: rest)

/-- The first character of `b :: rest` and what follows it. -/
def nextChar (b : UInt8) (rest : List UInt8) : Char × List UInt8 :=
  if b.toNat < 0x80 then (Char.ofNat b.toNat, rest)
  else match opening b.toNat with
    | none => (replacement, rest)
    | some (low, high, extra) => continueChar (openingBits b.toNat extra) low high extra rest

/-- Reading the rest of a character leaves no more bytes than there were. -/
theorem length_continueChar (code low high extra : Nat) (bs : List UInt8) :
    (continueChar code low high extra bs).2.length ≤ bs.length := by
  induction extra generalizing code low high bs with
  | zero => simp [continueChar]
  | succ n ih =>
    cases bs with
    | nil => simp [continueChar]
    | cons b rest =>
      simp only [continueChar]
      split
      · exact Nat.le_succ_of_le (ih ..)
      · simp

/-- So does reading a character, and that is why decoding comes to an end. -/
theorem length_nextChar (b : UInt8) (rest : List UInt8) :
    (nextChar b rest).2.length ≤ rest.length := by
  unfold nextChar
  split
  · simp
  · split
    · simp
    · exact length_continueChar ..

/-- The characters of any bytes. -/
def decodeChars : List UInt8 → List Char
  | [] => []
  | b :: rest => (nextChar b rest).1 :: decodeChars (nextChar b rest).2
termination_by bs => bs.length
decreasing_by
  exact Nat.lt_succ_of_le (length_nextChar b rest)

/-- Reads bytes as text, with a replacement for what is not well formed. -/
def decode (bs : List UInt8) : String := String.ofList (decodeChars bs)

/-- The bytes before the first zero byte. -/
def untilNul (bs : List UInt8) : List UInt8 := bs.takeWhile (· != 0)

/-- Reads a zero-terminated byte string. -/
def decodeTerminated (bs : List UInt8) : String := decode (untilNul bs)

/-- The text can be handed over as a zero-terminated byte string. -/
def hasNul (s : String) : Bool := s.toList.contains '\x00'

end Utf8
end PluginHost
