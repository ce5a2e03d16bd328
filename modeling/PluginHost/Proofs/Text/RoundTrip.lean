import PluginHost.Text.Utf8
import PluginHost.Text.Wide

/-!
# Text that is read as it was written

Reading is total: whatever bytes or units a plugin leaves, there is a text. What is written by the
rules of the encoding is read back without a change.

* **`Terminated`**: memory that holds some units and after them a zero or nothing.
* **`Utf8.nextChar_encodeChar`**: the bytes of one character, whatever follows them.
* **`Utf8.decode_encode`**: the bytes of a text.
* **`Utf8.decodeTerminated_encode`**: the bytes of a text in memory that may go on after a zero
  byte.
* **`Wide.read_encode`**: the units of a text that is not longer than what is read.
-/

namespace PluginHost

/-! ## Memory -/

section
variable {α : Type} [OfNat α 0] {units memory : List α}

/-- The memory holds the units. It ends after them or goes on with a zero. -/
def Terminated (units memory : List α) : Prop :=
  ∃ rest, memory = units ++ rest ∧ ∀ u ∈ rest.head?, u = 0

/-- Units before the terminator are read, and no more. -/
theorem Terminated.takeWhile [BEq α] [LawfulBEq α] (h : Terminated units memory)
    (hunits : 0 ∉ units) : memory.takeWhile (· != 0) = units := by
  obtain ⟨rest, rfl, hrest⟩ := h
  have hend : rest.takeWhile (· != 0) = [] := by
    cases rest with
    | nil => rfl
    | cons u rest =>
      obtain rfl := hrest u rfl
      exact List.takeWhile_cons_of_neg (by simp)
  rw [List.takeWhile_append_of_pos, hend, List.append_nil]
  intro u hu
  exact bne_iff_ne.2 fun h => hunits (h ▸ hu)

/-- Reading stops early at a count that is not smaller. -/
theorem Terminated.take {n : Nat} (h : Terminated units memory) (hn : units.length ≤ n) :
    Terminated units (memory.take n) := by
  obtain ⟨rest, rfl, hrest⟩ := h
  refine ⟨rest.take (n - units.length), ?_, fun u hu => ?_⟩
  · rw [List.take_append, List.take_of_length_le hn]
  · rw [List.head?_take] at hu
    split at hu
    · simp at hu
    · exact hrest u hu

end

namespace Utf8

/-! ## One character -/

variable {n low high extra : Nat} {rest : List UInt8}

theorem toNat_ofNat (hn : n < 256) : (UInt8.ofNat n).toNat = n := by
  rw [UInt8.toNat_ofNat']
  exact Nat.mod_eq_of_lt hn

theorem nextChar_ascii (hn : n < 0x80) :
    nextChar (UInt8.ofNat n) rest = (Char.ofNat n, rest) := by
  rw [nextChar, toNat_ofNat (by omega), if_pos hn]

/-- The opening byte decides how many bytes there are and where the second may lie. -/
theorem nextChar_opening (hascii : 0x80 ≤ n) (hn : n < 256)
    (h : opening n = some (low, high, extra)) :
    nextChar (UInt8.ofNat n) rest = continueChar (openingBits n extra) low high extra rest := by
  rw [nextChar, toNat_ofNat hn, if_neg (by omega), h]

/-- A further byte in its range adds its six bits. -/
theorem continueChar_cons {code : Nat} (hn : n < 256) (hlow : low ≤ n) (hhigh : n ≤ high) :
    continueChar code low high (extra + 1) (UInt8.ofNat n :: rest) =
      continueChar (code * 64 + n % 64) 0x80 0xBF extra rest := by
  rw [continueChar, toNat_ofNat hn]
  simp [hlow, hhigh]

/-- The first byte of two tells how many follow. -/
theorem opening_two (hlow : 0x80 ≤ n) (hhigh : n < 0x800) :
    opening (0xC0 + n / 64) = some (0x80, 0xBF, 1) := by
  have h : 0xC2 ≤ 0xC0 + n / 64 ∧ 0xC0 + n / 64 ≤ 0xDF := by omega
  simp [opening, h]

/-- The second of three bytes lies in its range: the ranges leave out overlong forms, which would be
less than `0x800`, and surrogates. -/
theorem opening_three (hlow : 0x800 ≤ n) (hhigh : n < 0x10000) (hn : n.isValidChar) :
    ∃ a b, opening (0xE0 + n / 4096) = some (a, b, 2) ∧
      a ≤ 0x80 + n / 64 % 64 ∧ 0x80 + n / 64 % 64 ≤ b := by
  have hscalar : n < 0xD800 ∨ 0xDFFF < n := by
    rcases hn with h | h
    · exact .inl h
    · exact .inr h.1
  by_cases hzero : n / 4096 = 0
  · exact ⟨0xA0, 0xBF, by simp [opening, hzero], by omega, by omega⟩
  · by_cases hd : n / 4096 = 13
    · exact ⟨0x80, 0x9F, by simp [opening, hd], by omega, by omega⟩
    · refine ⟨0x80, 0xBF, ?_, by omega, by omega⟩
      have h : 0xE1 ≤ 0xE0 + n / 4096 ∧ 0xE0 + n / 4096 ≤ 0xEF := by omega
      unfold opening
      rw [if_neg (by simp only [Bool.and_eq_true, decide_eq_true_eq]; omega), if_neg (by omega),
        if_neg (by omega), if_pos (by simp only [Bool.and_eq_true, decide_eq_true_eq]; omega)]

/-- The same for four bytes: no overlong forms, and nothing past the last code point. -/
theorem opening_four (hlow : 0x10000 ≤ n) (hn : n.isValidChar) :
    ∃ a b, opening (0xF0 + n / 262144) = some (a, b, 3) ∧
      a ≤ 0x80 + n / 4096 % 64 ∧ 0x80 + n / 4096 % 64 ≤ b := by
  have hlast : n < 0x110000 := by
    rcases hn with h | h <;> omega
  have hfive : n / 262144 = 0 ∨ n / 262144 = 1 ∨ n / 262144 = 2 ∨ n / 262144 = 3 ∨
      n / 262144 = 4 := by omega
  rcases hfive with h | h | h | h | h
  · exact ⟨0x90, 0xBF, by simp [opening, h], by omega, by omega⟩
  · exact ⟨0x80, 0xBF, by simp [opening, h], by omega, by omega⟩
  · exact ⟨0x80, 0xBF, by simp [opening, h], by omega, by omega⟩
  · exact ⟨0x80, 0xBF, by simp [opening, h], by omega, by omega⟩
  · exact ⟨0x80, 0x8F, by simp [opening, h], by omega, by omega⟩

/-- From here on, a code point is read back from its bytes, by how many they are. -/
theorem nextChar_two (hlow : 0x80 ≤ n) (hhigh : n < 0x800) :
    nextChar (UInt8.ofNat (0xC0 + n / 64)) (UInt8.ofNat (0x80 + n % 64) :: rest) =
      (Char.ofNat n, rest) := by
  have hcode : openingBits (0xC0 + n / 64) 1 * 64 + (0x80 + n % 64) % 64 = n := by
    simp only [openingBits, Nat.pow_eq]
    omega
  rw [nextChar_opening (by omega) (by omega) (opening_two hlow hhigh),
    continueChar_cons (by omega) (by omega) (by omega), continueChar, hcode]

theorem nextChar_three (hlow : 0x800 ≤ n) (hhigh : n < 0x10000) (hn : n.isValidChar) :
    nextChar (UInt8.ofNat (0xE0 + n / 4096))
        (UInt8.ofNat (0x80 + n / 64 % 64) :: UInt8.ofNat (0x80 + n % 64) :: rest) =
      (Char.ofNat n, rest) := by
  obtain ⟨a, b, hopen, ha, hb⟩ := opening_three hlow hhigh hn
  have hcode : (openingBits (0xE0 + n / 4096) 2 * 64 + (0x80 + n / 64 % 64) % 64) * 64 +
      (0x80 + n % 64) % 64 = n := by
    simp only [openingBits, Nat.pow_eq]
    omega
  rw [nextChar_opening (by omega) (by omega) hopen, continueChar_cons (by omega) ha hb,
    continueChar_cons (by omega) (by omega) (by omega), continueChar, hcode]

theorem nextChar_four (hlow : 0x10000 ≤ n) (hn : n.isValidChar) :
    nextChar (UInt8.ofNat (0xF0 + n / 262144))
        (UInt8.ofNat (0x80 + n / 4096 % 64) :: UInt8.ofNat (0x80 + n / 64 % 64) ::
          UInt8.ofNat (0x80 + n % 64) :: rest) =
      (Char.ofNat n, rest) := by
  obtain ⟨a, b, hopen, ha, hb⟩ := opening_four hlow hn
  have hlast : n < 0x110000 := by
    rcases hn with h | h <;> omega
  have hcode : ((openingBits (0xF0 + n / 262144) 3 * 64 + (0x80 + n / 4096 % 64) % 64) * 64 +
      (0x80 + n / 64 % 64) % 64) * 64 + (0x80 + n % 64) % 64 = n := by
    simp only [openingBits, Nat.pow_eq]
    omega
  rw [nextChar_opening (by omega) (by omega) hopen, continueChar_cons (by omega) ha hb,
    continueChar_cons (by omega) (by omega) (by omega),
    continueChar_cons (by omega) (by omega) (by omega), continueChar, hcode]

/-- The bytes of a character are read as the character, whatever follows. -/
theorem nextChar_encodeChar (c : Char) (rest : List UInt8) :
    ∃ b bs, encodeChar c = b :: bs ∧ nextChar b (bs ++ rest) = (c, rest) := by
  have hvalid : c.toNat.isValidChar := c.valid
  have hc : Char.ofNat c.toNat = c := Char.ofNat_toNat c
  simp only [encodeChar, Nat.pow_eq, Nat.pow_zero, Nat.pow_one, Nat.div_one]
  split
  case isTrue h => exact ⟨_, _, rfl, by rw [List.nil_append, nextChar_ascii h, hc]⟩
  case isFalse hascii =>
    split
    case isTrue h => exact ⟨_, _, rfl, (nextChar_two (by omega) h).trans (by rw [hc]; rfl)⟩
    case isFalse htwo =>
      split
      case isTrue h =>
        exact ⟨_, _, rfl, (nextChar_three (by omega) h hvalid).trans (by rw [hc]; rfl)⟩
      case isFalse hthree =>
        exact ⟨_, _, rfl, (nextChar_four (by omega) hvalid).trans (by rw [hc]; rfl)⟩

/-- Only the zero character has a zero byte. -/
theorem zero_not_mem_encodeChar {c : Char} (hc : c ≠ '\x00') : 0 ∉ encodeChar c := by
  have hpos : c.toNat ≠ 0 := fun h => hc (by rw [← Char.ofNat_toNat c, h])
  have hlast : c.toNat < 0x110000 := by
    rcases c.valid with h | h
    · exact Nat.lt_trans h (by decide)
    · exact h.2
  have hbyte {n : Nat} (h0 : 0 < n) (hn : n < 256) : (0 : UInt8) ≠ UInt8.ofNat n := by
    intro h
    have := congrArg UInt8.toNat h
    rw [toNat_ofNat hn] at this
    exact absurd this.symm (Nat.ne_of_gt h0)
  simp only [encodeChar, Nat.pow_eq, Nat.pow_zero, Nat.pow_one, Nat.div_one]
  repeat' split
  all_goals
    simp only [List.mem_cons, List.not_mem_nil, or_false, not_or]
    and_intros <;> exact hbyte (by omega) (by omega)

/-! ## Texts -/

/-- Characters are read back one by one, whatever follows them. -/
theorem decodeChars_flatMap (cs : List Char) (bs : List UInt8) :
    decodeChars (cs.flatMap encodeChar ++ bs) = cs ++ decodeChars bs := by
  induction cs with
  | nil => rfl
  | cons c cs ih =>
    obtain ⟨b, tail, hb, hnext⟩ := nextChar_encodeChar c (cs.flatMap encodeChar ++ bs)
    rw [List.flatMap_cons, hb, List.append_assoc, List.cons_append, decodeChars, hnext, ih,
      List.cons_append]

/-- A text is read back from its bytes. -/
theorem decode_encode (s : String) : decode (encode s) = s := by
  have h := decodeChars_flatMap s.toList []
  rw [List.append_nil, decodeChars, List.append_nil] at h
  rw [decode, encode, h, String.ofList_toList]

/-- Only the zero character is written with a zero byte. -/
theorem zero_not_mem_encode {s : String} (hs : '\x00' ∉ s.toList) : 0 ∉ encode s := by
  intro h
  obtain ⟨c, hc, hb⟩ := List.mem_flatMap.1 h
  exact zero_not_mem_encodeChar (fun e => hs (e ▸ hc)) hb

theorem hasNul_eq (s : String) : hasNul s = decide ('\x00' ∈ s.toList) := by
  rw [hasNul, List.contains_eq_mem]

/-- A text without a zero character is read back from memory that holds its bytes. -/
theorem decodeTerminated_encode {s : String} {memory : List UInt8} (hs : '\x00' ∉ s.toList)
    (h : Terminated (encode s) memory) : decodeTerminated memory = s := by
  rw [decodeTerminated, untilNul, h.takeWhile (zero_not_mem_encode hs), decode_encode]

end Utf8

namespace Wide

/-- Characters are read back from their code points. -/
theorem decode_map_val (cs : List Char) : decode (cs.map (·.val)) = String.ofList cs := by
  rw [decode, List.map_map]
  congr 1
  exact (List.map_congr_left fun c _ => charOfUnit_val c).trans (List.map_id _)

/-- A text without a zero character that is not longer than what is read. -/
theorem read_encode {s : String} {memory : List UInt32} (hs : '\x00' ∉ s.toList)
    (hlen : s.toList.length ≤ limit) (h : Terminated (s.toList.map (·.val)) memory) :
    read memory = s := by
  have hzero : 0 ∉ s.toList.map (·.val) := by
    intro hmem
    obtain ⟨c, hc, hval⟩ := List.mem_map.1 hmem
    rw [show c = '\x00' from Char.ext hval] at hc
    exact hs hc
  rw [read, terminated, scan_eq, (h.take (by simpa using hlen)).takeWhile hzero, decode_map_val,
    String.ofList_toList]

end Wide
end PluginHost
