/-!
# Binary floating-point numbers

Finite numbers with a 53-bit mantissa, as exact data: no operation here rounds except
`roundRatio`, which takes a ratio to the nearest number and a tie to the even mantissa.

- `Binary64` is a sign, a mantissa and a power of two.
- `Binary64.roundRatio` rounds a positive ratio, and fails above the largest number.
- `Binary64.scale` multiplies by a power of ten in the steps of a decimal reader: one rounding for
  the power, one for the product.
-/

namespace Messaging

/-- A finite number `± mantissa * 2 ^ exponent`. -/
structure Binary64 where
  /-- The sign; zero has one too. -/
  negative : Bool
  /-- The mantissa, below `2 ^ 53`. -/
  mantissa : Nat
  /-- The power of two, at least `-1074`. -/
  exponent : Int
deriving DecidableEq, Repr

namespace Binary64

/-- The least power of two of a number. -/
def minExponent : Int := -1074

/-- The largest power of two of a number. -/
def maxExponent : Int := 971

/-- The least mantissa of a number above the least exponent: the value of the leading bit. -/
def leadingBit : Nat := 4503599627370496

/-- The number zero with a sign. -/
def zero (negative : Bool) : Binary64 := ⟨negative, 0, minExponent⟩

/-- Whether a number is zero, of either sign. -/
def isZero (x : Binary64) : Bool := x.mantissa == 0

/-- The quotient of two naturals, to nearest, ties to even. -/
def divideNearest (num den : Nat) : Nat :=
  let q := num / den
  let r := num % den
  if 2 * r < den then q
  else if 2 * r = den then (if q % 2 = 0 then q else q + 1)
  else q + 1

/-- The largest `k` with `2 ^ k ≤ num / den`. -/
def floorLog2 (num den : Nat) : Int :=
  let k : Int := (num.log2 : Int) - (den.log2 : Int)
  let reached := if 0 ≤ k then den * Nat.pow 2 k.toNat ≤ num else den ≤ num * Nat.pow 2 (-k).toNat
  if reached then k else k - 1

/-- The magnitude nearest to a positive ratio as mantissa and exponent, unless it is too large. -/
def roundRatio (num den : Nat) : Option (Nat × Int) :=
  if num = 0 then some (0, minExponent)
  else
    let e := max (floorLog2 num den - 52) minExponent
    let m :=
      if 0 ≤ e then divideNearest num (den * Nat.pow 2 e.toNat)
      else divideNearest (num * Nat.pow 2 (-e).toNat) den
    let (m, e) := if m = 2 * leadingBit then (leadingBit, e + 1) else (m, e)
    if e > maxExponent then none else some (m, e)

/-- A magnitude as a ratio. -/
def ratio (mantissa : Nat) (exponent : Int) : Nat × Nat :=
  if 0 ≤ exponent then (mantissa * Nat.pow 2 exponent.toNat, 1)
  else (mantissa, Nat.pow 2 (-exponent).toNat)

/-- The product of two magnitudes, rounded. -/
def multiply (x y : Nat × Int) : Option (Nat × Int) :=
  let (a, b) := ratio x.1 x.2
  let (c, d) := ratio y.1 y.2
  roundRatio (a * c) (b * d)

/-- The quotient of two magnitudes, rounded; `y` is not zero. -/
def divide (x y : Nat × Int) : Option (Nat × Int) :=
  let (a, b) := ratio x.1 x.2
  let (c, d) := ratio y.1 y.2
  roundRatio (a * d) (b * c)

/-- A power of ten, rounded. -/
def tenPower (k : Nat) : Option (Nat × Int) := roundRatio (Nat.pow 10 k) 1

/-- A magnitude divided by `10 ^ k`, in steps of at most `10 ^ 308`. -/
def scaleDown : Nat → Nat → Nat × Int → Option (Nat × Int)
  | 0, _, x => some x
  | fuel + 1, k, x =>
    if k ≤ 308 then do divide x (← tenPower k)
    else if x.1 = 0 then some x
    else do scaleDown fuel (k - 308) (← divide x (← tenPower 308))

/-- The number `significand * 10 ^ exponent` as a decimal reader makes it: the significand is
rounded, then multiplied or divided by a rounded power of ten. -/
def scale (negative : Bool) (significand : Nat) (exponent : Int) : Option Binary64 := do
  let x ← roundRatio significand 1
  let (m, e) ←
    if 0 ≤ exponent then
      if exponent ≤ 308 then multiply x (← tenPower exponent.toNat)
      else if significand = 0 then some x else none
    else scaleDown ((-exponent).toNat / 308 + 1) (-exponent).toNat x
  return ⟨negative, m, e⟩

/-- The number nearest to an integer, unless it is too large. -/
def ofInt (z : Int) : Option Binary64 :=
  (roundRatio z.natAbs 1).map fun (m, e) => ⟨decide (z < 0), m, e⟩

end Binary64

end Messaging
