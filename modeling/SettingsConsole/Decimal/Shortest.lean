/-!
# The shortest decimal of a double

A finite double stands for every real number that rounds to it.  Among the decimals in that
interval this file picks one with the fewest digits, and of those the one nearest to the double; of
two equally near the larger.  All comparisons are made on natural numbers.
-/

namespace SettingsConsole

namespace Decimal

/-- `digits * 10 ^ exponent`. -/
structure Scaled where
  digits : Nat
  exponent : Int
  deriving DecidableEq, Repr

/-- The number of decimal digits of a natural number, 0 for 0. -/
def digitCount (n : Nat) : Nat := if n = 0 then 0 else (toString n).length

/-- A positive double and the interval of reals that round to it, over one denominator. -/
structure Interval where
  lower : Nat
  value : Nat
  upper : Nat
  denominator : Nat
  /-- Whether the two ends belong to the interval. -/
  closed : Bool
  deriving Repr

/-- The mantissa and the power of two of the double with the given bits, its sign left out. -/
def mantissaExponent (bits : UInt64) : Nat × Int :=
  let exponent := ((bits >>> 52) &&& 0x7FF).toNat
  let fraction := (bits &&& 0xFFFFFFFFFFFFF).toNat
  if exponent = 0 then (fraction, -1074) else (fraction + Nat.pow 2 52, (exponent : Int) - 1075)

/-- The interval of `m * 2 ^ q`, in quarters of the last place: half a place to each side, or a
quarter below a power of two, where the doubles lie closer together. -/
def interval (m : Nat) (q : Int) : Interval :=
  let below := if m = Nat.pow 2 52 ∧ -1074 < q then 1 else 2
  let scale := Nat.pow 2 (q - 2).toNat
  { lower := (4 * m - below) * scale
    value := 4 * m * scale
    upper := (4 * m + 2) * scale
    denominator := Nat.pow 2 (2 - q).toNat
    closed := m % 2 = 0 }

namespace Interval

/-- The position of the first digit of the value: `d` when it lies in `[10 ^ (d - 1), 10 ^ d)`. -/
def magnitude (i : Interval) : Int :=
  if i.denominator ≤ i.value then digitCount (i.value / i.denominator)
  else 1 - (digitCount ((i.denominator - 1) / i.value) : Int)

/-- Whether `digits * 10 ^ exponent` lies in the interval. -/
def holds (i : Interval) (d : Scaled) : Bool :=
  let candidate := d.digits * Nat.pow 10 d.exponent.toNat * i.denominator
  let factor := Nat.pow 10 (-d.exponent).toNat
  if i.closed then i.lower * factor ≤ candidate && candidate ≤ i.upper * factor
  else i.lower * factor < candidate && candidate < i.upper * factor

/-- The largest multiple of `10 ^ exponent` that is not above the value. -/
def floorAt (i : Interval) (exponent : Int) : Scaled :=
  ⟨i.value * Nat.pow 10 (-exponent).toNat / (i.denominator * Nat.pow 10 exponent.toNat), exponent⟩

/-- Whether the neighbour above is at least as near to the value as the one below. -/
def nearerAbove (i : Interval) (exponent : Int) : Bool :=
  let unit := i.denominator * Nat.pow 10 exponent.toNat
  unit ≤ 2 * (i.value * Nat.pow 10 (-exponent).toNat % unit)

/-- The nearest of the value's two neighbours among the multiples of `10 ^ exponent`, if one of
them lies in the interval. -/
def hit? (i : Interval) (exponent : Int) : Option Scaled :=
  let below := i.floorAt exponent
  let above := { below with digits := below.digits + 1 }
  match i.holds below, i.holds above with
  | true, true => some (if i.nearerAbove exponent then above else below)
  | true, false => some below
  | false, true => some above
  | false, false => none

/-- The shortest decimal of the interval: 17 digits always suffice. -/
def shortest (i : Interval) : Scaled :=
  let grids := (List.range 17).map fun n : Nat => i.magnitude - 1 - (n : Int)
  (grids.findSome? i.hit?).getD (i.floorAt (i.magnitude - 17))

end Interval

/-- Moves the trailing zeros of the digits into the exponent, at most `fuel` of them. -/
def dropZeros : Nat → Scaled → Scaled
  | 0, d => d
  | fuel + 1, d =>
    if d.digits ≠ 0 ∧ d.digits % 10 = 0 then dropZeros fuel ⟨d.digits / 10, d.exponent + 1⟩ else d

/-- The shortest decimal of the double with the given bits, without its sign. -/
def shortest (bits : UInt64) : Scaled :=
  let (m, q) := mantissaExponent bits
  if m = 0 then ⟨0, 0⟩ else dropZeros 17 (interval m q).shortest

end Decimal

end SettingsConsole
