import Mathlib.Data.List.Forall2
import Mathlib.Data.List.GetD
import Mathlib.Data.List.TakeWhile
import PluginHost.Proofs.Text.RoundTrip

/-!
# What wide strings keep

A text is written with one unit for each character and read back up to its first zero character, at
most `limit` characters of it. Any units are read one by one; those that are no scalar value become
the replacement, and nothing moves because of them.

* **`scanBy`**: the scan of memory that is asked for one unit after the other.
  **`scanBy_recorded`**: it finds what `scan` finds and asks for no unit behind the first zero or
  the last that is read. **`scan_congr`**: what `scan` finds depends on these units only.
* **`read_encode_eq`**: what becomes of any text.
* **`StandsFor`**, **`forall₂_decode`**: what becomes of each unit. **`encode_decode_iff`**: when
  nothing is lost.
* **`round_trip`**: both directions together.
-/

namespace PluginHost
namespace Wide

/-! ## What is looked at -/

/-- The scan of memory whose units are asked for one after the other, from an offset on. -/
def scanBy {m : Type → Type} [Monad m] (unit : Nat → m UInt32) : Nat → Nat → m (List UInt32)
  | 0, _ => pure []
  | fuel + 1, i => do
    let u ← unit i
    if u = 0 then pure [] else return u :: (← scanBy unit fuel (i + 1))

/-- Memory with a zero at its end that keeps a record of the offsets it is asked for. -/
def recorded (memory : List UInt32) (i : Nat) : StateM (List Nat) UInt32 := do
  modify (· ++ [i])
  return memory.getD i 0

variable {memory units : List UInt32}

/-- A scan looks at one unit at a time. -/
theorem scan_succ (fuel i : Nat) : scan (fuel + 1) (memory.drop i) =
    if memory.getD i 0 = 0 then [] else memory.getD i 0 :: scan fuel (memory.drop (i + 1)) := by
  rcases Nat.lt_or_ge i memory.length with hi | hi
  · rw [List.drop_eq_getElem_cons hi, List.getD_eq_getElem _ _ hi, scan]
  · rw [List.drop_of_length_le hi, List.getD_eq_default _ _ hi, if_pos rfl, scan]

/-- So does a scan that records where it looks. -/
theorem scanBy_succ (fuel i : Nat) (asked : List Nat) :
    (scanBy (recorded memory) (fuel + 1) i).run asked =
      if memory.getD i 0 = 0 then ([], asked ++ [i])
      else
        let more := (scanBy (recorded memory) fuel (i + 1)).run (asked ++ [i])
        (memory.getD i 0 :: more.1, more.2) := by
  show (if memory.getD i 0 = 0 then pure []
    else do return memory.getD i 0 :: (← scanBy (recorded memory) fuel (i + 1)) :
      StateM (List Nat) (List UInt32)).run (asked ++ [i]) = _
  split
  · rfl
  · rfl

/-- From an offset on the scan finds the units that stand there, and asks for these and the one
behind them, but for no more than it may. -/
theorem scanBy_recorded (memory : List UInt32) (fuel i : Nat) (asked : List Nat) :
    (scanBy (recorded memory) fuel i).run asked =
      (scan fuel (memory.drop i),
        asked ++ List.range' i (min fuel ((scan fuel (memory.drop i)).length + 1))) := by
  induction fuel generalizing i asked with
  | zero =>
    show ([], asked) = _
    simp [scan]
  | succ fuel ih =>
    rw [scanBy_succ, scan_succ]
    split
    · simp
    · rw [ih, List.length_cons, Nat.add_min_add_right, List.range'_succ, List.append_assoc]
      rfl

/-- What is scanned is what the memory begins with. -/
theorem isPrefix_scan (fuel : Nat) (memory : List UInt32) : scan fuel memory <+: memory := by
  rw [scan_eq]
  exact (List.takeWhile_prefix _).trans (List.take_prefix _ _)

/-- A scan stops at a zero. -/
theorem zero_not_mem_scan (fuel : Nat) (memory : List UInt32) : 0 ∉ scan fuel memory := by
  intro hmem
  rw [scan_eq] at hmem
  simpa using List.mem_takeWhile_imp hmem

/-- How many units a scan looks at: those that it finds and the one behind them, as far as it
may. -/
def examined (memory : List UInt32) : Nat := min limit ((terminated memory).length + 1)

/-- A scan asks for the units from the first one on, in their order. -/
theorem scanBy_examined (memory : List UInt32) :
    (scanBy (recorded memory) limit 0).run [] =
      (terminated memory, List.range (examined memory)) := by
  rw [scanBy_recorded, List.drop_zero, List.nil_append, ← List.range_eq_range']
  rfl

/-- There is no zero before the last unit that is looked at. -/
theorem zero_not_mem_examined (memory : List UInt32) :
    0 ∉ memory.take (examined memory - 1) := by
  intro hmem
  have hfound := List.prefix_iff_eq_take.1 (isPrefix_scan limit memory)
  have hlast : examined memory - 1 ≤ (scan limit memory).length := by
    rw [examined, terminated]
    omega
  refine zero_not_mem_scan limit memory ?_
  rw [hfound]
  exact (List.take_prefix_take_left hlast).subset hmem

/-- What is not looked at may be anything. -/
theorem scan_congr {memory' : List UInt32} {fuel i : Nat}
    (h : ∀ j < min fuel ((scan fuel (memory.drop i)).length + 1),
      memory'.getD (i + j) 0 = memory.getD (i + j) 0) :
    scan fuel (memory'.drop i) = scan fuel (memory.drop i) := by
  induction fuel generalizing i with
  | zero => rfl
  | succ fuel ih =>
    have hfirst : memory'.getD i 0 = memory.getD i 0 := h 0 (by omega)
    rw [scan_succ] at h
    rw [scan_succ, scan_succ, hfirst]
    split
    case isTrue => rfl
    case isFalse hne =>
      rw [if_neg hne, List.length_cons] at h
      congr 1
      refine ih fun j hj => ?_
      have hnext := h (j + 1) (by omega)
      rwa [show i + (j + 1) = i + 1 + j by omega] at hnext

/-! ## Texts -/

/-- The units before the first zero are those of the characters before the first zero character. -/
theorem takeWhile_encode (s : String) :
    (encode s).takeWhile (· != 0) = (s.toList.takeWhile (· ≠ '\x00')).map (·.val) := by
  rw [encode]
  induction s.toList with
  | nil => rfl
  | cons c cs ih =>
    by_cases hc : c = '\x00'
    · subst hc
      rfl
    · have hval : c.val ≠ 0 := fun h => hc (Char.ext h)
      rw [List.map_cons, List.cons_append, List.takeWhile_cons_of_pos (by simpa using hval), ih,
        List.takeWhile_cons_of_pos (by simpa using hc), List.map_cons]

/-- A text is read back up to its first zero character, but no more of it than may be read. -/
theorem read_encode_eq (s : String) :
    read (encode s) = String.ofList ((s.toList.takeWhile (· ≠ '\x00')).take limit) := by
  rw [read, terminated, scan_eq, ← List.take_takeWhile, takeWhile_encode, ← List.map_take,
    decode_map_val]

/-- An encoded text ends with a zero. -/
theorem terminated_encode (s : String) : Terminated (s.toList.map (·.val)) (encode s) :=
  ⟨[0], rfl, by simp⟩

/-! ## Units -/

/-- The character that stands for a unit: the same number, if a character can have it. -/
structure StandsFor (c : Char) (u : UInt32) : Prop where
  scalar : u.isValidChar → c.val = u
  other : ¬u.isValidChar → c = '\uFFFD'

/-- A decoded character stands for its unit. -/
theorem standsFor_charOfUnit (u : UInt32) : StandsFor (charOfUnit u) u where
  scalar h := by rw [charOfUnit, dif_pos h]
  other h := by rw [charOfUnit, dif_neg h]; rfl

/-- A unit that is a code point is kept. -/
theorem val_charOfUnit_iff {u : UInt32} : (charOfUnit u).val = u ↔ u.isValidChar :=
  ⟨fun h => h ▸ (charOfUnit u).valid, (standsFor_charOfUnit u).scalar⟩

/-- Decoding replaces unit by unit. -/
theorem toList_decode (units : List UInt32) : (decode units).toList = units.map charOfUnit := by
  rw [decode, String.toList_ofList]

theorem forall₂_decode (units : List UInt32) :
    List.Forall₂ StandsFor (decode units).toList units := by
  rw [toList_decode, List.forall₂_map_left_iff, List.forall₂_same]
  exact fun u _ => standsFor_charOfUnit u

/-- The units are written again as they were iff each of them can be a character's. -/
theorem encode_decode_iff : encode (decode units) = units ++ [0] ↔ ∀ u ∈ units, u.isValidChar := by
  have hmap : encode (decode units) = units.map (fun u => (charOfUnit u).val) ++ [0] := by
    rw [encode, toList_decode, List.map_map]
    rfl
  calc encode (decode units) = units ++ [0]
      ↔ units.map (fun u => (charOfUnit u).val) = units.map id := by
        rw [hmap, List.append_left_inj, List.map_id]
    _ ↔ ∀ u ∈ units, (charOfUnit u).val = u := List.map_eq_map_iff
    _ ↔ ∀ u ∈ units, u.isValidChar := by simp only [val_charOfUnit_iff]

/-- Units without a zero are read as they are decoded, whatever comes after the zero behind them. -/
theorem read_units (hzero : 0 ∉ units) (hlen : units.length ≤ limit) (rest : List UInt32) :
    read (units ++ 0 :: rest) = decode units := by
  have hend : Terminated units (units ++ 0 :: rest) := ⟨0 :: rest, rfl, by simp⟩
  rw [read, terminated, scan_eq, (hend.take hlen).takeWhile hzero]

/-! ## Both directions -/

/-- A text is read back up to its first zero character and at most 65536 characters of it, so one
that has no zero character and is not longer is read as it is. Units are decoded one by one: each is
the number of its character or is replaced, and they are written again as they were iff none is
replaced; without a zero and up to 65536 of them they are what is read of memory that holds them. A
scan asks for the units from the first one on, for no more than 65536 and for none behind the first
zero, and what it finds does not depend on any other. -/
theorem round_trip :
    (∀ s, read (encode s) = String.ofList ((s.toList.takeWhile (· ≠ '\x00')).take 65536)) ∧
    (∀ s, '\x00' ∉ s.toList → s.toList.length ≤ 65536 → read (encode s) = s) ∧
    (∀ units, (decode units).toList.length = units.length ∧
      List.Forall₂ StandsFor (decode units).toList units ∧
      (encode (decode units) = units ++ [0] ↔ ∀ u ∈ units, u.isValidChar)) ∧
    (∀ units rest, 0 ∉ units → units.length ≤ 65536 → read (units ++ 0 :: rest) = decode units) ∧
    ∀ memory,
      (scanBy (recorded memory) limit 0).run [] =
        (terminated memory, List.range (examined memory)) ∧
      examined memory ≤ 65536 ∧ 0 ∉ memory.take (examined memory - 1) ∧
      ∀ memory' : List UInt32,
        (∀ i < examined memory, memory'.getD i 0 = memory.getD i 0) →
        terminated memory' = terminated memory := by
  refine ⟨read_encode_eq, fun s hs hlen => read_encode hs hlen (terminated_encode s),
    fun units => ⟨?_, forall₂_decode units, encode_decode_iff⟩,
    fun units rest hzero hlen => read_units hzero hlen rest,
    fun memory => ⟨scanBy_examined memory, Nat.min_le_left _ _, zero_not_mem_examined memory,
      fun memory' hsame => ?_⟩⟩
  · rw [toList_decode, List.length_map]
  · exact scan_congr (i := 0) fun j hj => by rw [Nat.zero_add]; exact hsame j hj

/-- A text without a zero; units of which two are no character's, in memory that goes on behind the
zero after them; and memory that ends with that zero. -/
theorem round_trip_lone :
    ('\x00' ∉ "Lyre".toList ∧ "Lyre".toList.length ≤ 65536 ∧ read (encode "Lyre") = "Lyre") ∧
    (0 ∉ [0x4c, 0xd800, 0x110000] ∧ [0x4c, 0xd800, 0x110000].length ≤ 65536 ∧
      read ([0x4c, 0xd800, 0x110000] ++ 0 :: [0x79]) = decode [0x4c, 0xd800, 0x110000]) ∧
    decode [0x4c, 0xd800, 0x110000] = "L\uFFFD\uFFFD" ∧
    (∀ i < examined [0x4c, 0, 0x79], [0x4c, 0].getD i (0 : UInt32) = [0x4c, 0, 0x79].getD i 0) ∧
    terminated [0x4c, 0] = terminated [0x4c, 0, 0x79] := by
  have hsame : ∀ i < examined [0x4c, 0, 0x79],
      [0x4c, 0].getD i (0 : UInt32) = [0x4c, 0, 0x79].getD i 0 := by decide
  obtain ⟨-, htext, -, hunits, hscan⟩ := round_trip
  exact ⟨⟨by decide, by decide, htext _ (by decide) (by decide)⟩,
    ⟨by decide, by decide, hunits _ _ (by decide) (by decide)⟩, by decide, hsame,
    (hscan _).2.2.2 _ hsame⟩

end Wide
end PluginHost
