import InputMap.Decimal

/-! # The shortest decimal that reads back

A binary floating-point number stands for all the real numbers that round to it.  Its shortest
decimal is the one with the fewest digits among them, and of those the nearest to the number
itself; a tie goes up.

The search runs through the decimal grids `10 ^ k` from coarse to fine.  If a point of a grid lies
in the interval, so does one of the two neighbours of the number on that grid, so two candidates
are enough for each grid. -/

namespace InputMap.Decimal

open Float.Model (Format)

/-- The real numbers that round to one binary number, as fractions with a common denominator. -/
structure Neighbourhood where
  lower : Nat
  value : Nat
  upper : Nat
  denominator : Nat
  /-- Whether the two ends round to the number as well. -/
  closed : Bool

namespace Neighbourhood

/-- The neighbourhood of `mantissa · 2 ^ exponent`, written with the mantissa and exponent of
    `format`.  It reaches half way to the next number on each side; below a power of two the next
    number is only half as far.  The ends belong to it when the mantissa is even. -/
def of (format : Format) (mantissa : Nat) (exponent : Int) : Neighbourhood :=
  let scale := Nat.pow 2 (exponent - 2).toNat
  let narrow := mantissa = Nat.pow 2 format.mantissaBitsWithoutImplicit ∧ format.minExponent < exponent
  { lower := (4 * mantissa - if narrow then 1 else 2) * scale
    value := 4 * mantissa * scale
    upper := (4 * mantissa + 2) * scale
    denominator := Nat.pow 2 (2 - exponent).toNat
    closed := mantissa % 2 = 0 }

/-- Whether the point `c` of the grid `10 ^ k` is in the neighbourhood. -/
def contains (n : Neighbourhood) (c : Nat) (k : Int) : Bool :=
  let point := c * n.denominator * Nat.pow 10 k.toNat
  let lower := n.lower * Nat.pow 10 (-k).toNat
  let upper := n.upper * Nat.pow 10 (-k).toNat
  (lower < point && point < upper) || (n.closed && (point = lower || point = upper))

/-- The point of the grid `10 ^ k` next to the number that is in the neighbourhood, if there is
    one; of two the nearer, and the upper one if they are equally near. -/
def onGrid? (n : Neighbourhood) (k : Int) : Option Nat :=
  let value := n.value * Nat.pow 10 (-k).toNat
  let unit := n.denominator * Nat.pow 10 k.toNat
  let c := value / unit
  match n.contains c k, n.contains (c + 1) k with
  | true, true => some (if 2 * (value - c * unit) < unit then c else c + 1)
  | true, false => some c
  | false, true => some (c + 1)
  | false, false => none

/-- The first grid from `10 ^ k` downwards with a point in the neighbourhood, tried on `fuel`
    grids. -/
def search (n : Neighbourhood) : Nat → Int → Decimal
  | 0, k => ⟨n.value * Nat.pow 10 (-k).toNat / (n.denominator * Nat.pow 10 k.toNat), k⟩
  | fuel + 1, k =>
    match n.onGrid? k with
    | some c => ⟨c, k⟩
    | none => n.search fuel (k - 1)

/-- A power of ten above the number: the difference of the lengths of numerator and denominator. -/
def startExponent (n : Neighbourhood) : Int :=
  ((Nat.toDigits 10 n.value).length : Int) - (Nat.toDigits 10 n.denominator).length + 1

end Neighbourhood

/-- The shortest decimal of the positive number `mantissa · 2 ^ exponent` of `format`.  No number
    of at most 53 bits needs more than 17 digits, and the search starts at most two grids above
    the leading one. -/
def shortest (format : Format) (mantissa : Nat) (exponent : Int) : Decimal :=
  let n := Neighbourhood.of format mantissa exponent
  n.search 20 n.startExponent

example : shortest .binary32 13421773 (-27) = ⟨1, -1⟩ := by decide +kernel
example : shortest .binary64 1 (-1074) = ⟨5, -324⟩ := by decide +kernel
example : shortest .binary32 8388608 (-23) = ⟨1, 0⟩ := by decide +kernel
example : shortest .binary32 16777215 104 = ⟨34028235, 31⟩ := by decide +kernel

end InputMap.Decimal
