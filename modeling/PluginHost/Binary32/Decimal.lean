import PluginHost.Binary32.Basic

/-!
# Decimal text of binary32

Two renderings of a finite number.

* `shortest` writes the fewest digits that read back as the same number and, of those, the ones
  nearest to it. `Layout` says where positional notation ends.
* `fixed` writes a given count of decimals of the exact value, a half going to the even neighbour.

All comparisons are made exactly: a number of `m` units of `2^-149` and a decimal `d * 10^p` are
compared as natural numbers after both are brought to a common denominator.
-/

namespace PluginHost
namespace Binary32

/-- A decimal `digits * 10^exponent`. -/
structure Decimal where
  digits : Nat
  exponent : Int
deriving DecidableEq, Repr

/-! ## The interval that rounds to a number

Four times the magnitude and its bounds keep all three whole. -/

/-- The numbers that round to a given one, in quarter units: its centre, its lower and its upper
end, and whether the ends belong to it. -/
structure Interval where
  centre : Nat
  lower : Nat
  upper : Nat
  closed : Bool

/-- The ends are half way to the neighbours. The lower neighbour of a power of two is only half
as far away, except at the smallest exponent. Ends round to the number iff its last bit is zero. -/
def Interval.of (a : Binary32) : Interval :=
  let exponent := a.unsignedBits / 0x800000
  let fraction := a.unsignedBits % 0x800000
  let gap := Nat.pow 2 (exponent - 1)
  let below := if fraction = 0 && 1 < exponent then gap else 2 * gap
  let centre := 4 * a.magnitude
  ⟨centre, centre - below, centre + 2 * gap, fraction % 2 = 0⟩

/-- A candidate decimal `n / scale`, both in quarter units, lies in the interval. -/
def Interval.holds (i : Interval) (n scale : Nat) : Bool :=
  if i.closed then i.lower * scale ≤ n && n ≤ i.upper * scale
  else i.lower * scale < n && n < i.upper * scale

/-! ## The shortest digits -/

/-- The decimal grid of spacing `10^p`: one grid step is `step / scale` quarter units. -/
def gridStep (p : Int) : Nat × Nat :=
  if 0 ≤ p then (4 * unitsOfOne * Nat.pow 10 p.toNat, 1)
  else (4 * unitsOfOne, Nat.pow 10 (-p).toNat)

/-- The point of the grid of spacing `10^p` inside the interval that is nearest to its centre, if
there is one. Only the two neighbours of the centre can be it. -/
def Interval.onGrid (i : Interval) (p : Int) : Option Nat :=
  let (step, scale) := gridStep p
  let target := i.centre * scale
  let low := target / step
  let high := low + 1
  let lowIn := 0 < low && i.holds (low * step) scale
  let highIn := i.holds (high * step) scale
  let toLow := target - low * step
  let toHigh := high * step - target
  if lowIn && highIn then
    some (if toLow < toHigh || (toLow == toHigh && low % 2 == 0) then low else high)
  else if lowIn then some low
  else if highIn then some high
  else none

/-- The first grid with a point in the interval, from spacing `10^p` downwards. -/
def Interval.search (i : Interval) : Nat → Int → Decimal
  | 0, p => ⟨i.centre / 4, p⟩
  | fuel + 1, p =>
    match i.onGrid p with
    | some d => ⟨d, p⟩
    | none => i.search fuel (p - 1)

/-- Drops zeros at the end, moving the exponent. -/
def Decimal.strip (d : Decimal) : Nat → Decimal
  | 0 => d
  | fuel + 1 =>
    if d.digits ≠ 0 ∧ d.digits % 10 = 0 then
      Decimal.strip ⟨d.digits / 10, d.exponent + 1⟩ fuel
    else d

/-- The fewest digits that read back as the finite number `a`, which is not zero. The search
starts above the largest power of ten that any number reaches (`10^39`) and ends at the smallest
(`10^-54` is below the half of the smallest number to nine digits). -/
def shortestDecimal (a : Binary32) : Decimal :=
  ((Interval.of a).search 100 39).strip 40

/-! ## Layout -/

/-- Decimal digits of a natural number. -/
def decimalDigits (n : Nat) : List Char := Nat.toDigits 10 n

def zeros (n : Nat) : List Char := List.replicate n '0'

/-- Where the layout of shortest digits changes: numbers from `10^-smallest` up to
`10^largest` are written positionally, all others with an exponent. -/
structure Layout where
  smallest : Nat
  largest : Nat

/-- Positional below `10^13` and from `10^-5` on. -/
def Layout.standard : Layout := ⟨5, 13⟩

/-- Writes a decimal. Positional numbers always show a point with a digit on both sides; an
exponent follows `e` with its sign and no padding. -/
def Layout.write (l : Layout) (d : Decimal) : String :=
  let ds := decimalDigits d.digits
  let point : Int := ds.length + d.exponent
  if 0 ≤ d.exponent ∧ point ≤ l.largest then
    String.ofList (ds ++ zeros d.exponent.toNat ++ ['.', '0'])
  else if 0 < point ∧ point ≤ l.largest then
    String.ofList (ds.take point.toNat ++ '.' :: ds.drop point.toNat)
  else if -(l.smallest : Int) ≤ point ∧ point ≤ 0 then
    String.ofList ('0' :: '.' :: zeros (-point).toNat ++ ds)
  else
    let mantissa := match ds with
      | [c] => [c]
      | c :: rest => c :: '.' :: rest
      | [] => []
    let exponent := point - 1
    String.ofList (mantissa ++ ['e', if exponent < 0 then '-' else '+']) ++
      toString exponent.natAbs

/-- The shortest text of a finite number that reads back as it. -/
def shortest (a : Binary32) : String :=
  let sign := if a.isNegative then "-" else ""
  if a.unsignedBits = 0 then sign ++ "0.0"
  else sign ++ Layout.standard.write (shortestDecimal a)

/-! ## Fixed decimals -/

/-- The finite number with exactly `places` digits after the point. The sign of zero and of a
number that rounds to zero is kept. -/
def fixed (places : Nat) (a : Binary32) : String :=
  let sign := if a.isNegative then "-" else ""
  let scaled := roundQuotient (a.magnitude * Nat.pow 10 places) unitsOfOne
  let ds := decimalDigits scaled
  let padded := zeros (places + 1 - ds.length) ++ ds
  let whole := padded.take (padded.length - places)
  let decimals := padded.drop (padded.length - places)
  sign ++ String.ofList (if places = 0 then whole else whole ++ '.' :: decimals)

end Binary32
end PluginHost
