import Messaging.Binary64.Basic

/-!
# The shortest decimal of a number

The text of a floating-point number has the fewest digits that read back as the same number, and of
those the digits nearest to it.

- `Binary64.shortest` is the digits and the decimal exponent.
- `Binary64.render` writes them, positionally for exponents from `-5` to `15`.
-/

namespace Messaging.Binary64

/-- The largest `p` with `10 ^ p ≤ num / den`, found below `guess`. -/
def floorLog10From (num den : Nat) : Nat → Int → Int
  | 0, guess => guess
  | fuel + 1, guess =>
    let reached :=
      if 0 ≤ guess then den * Nat.pow 10 guess.toNat ≤ num
      else den ≤ num * Nat.pow 10 (-guess).toNat
    if reached then guess else floorLog10From num den fuel (guess - 1)

/-- The largest `p` with `10 ^ p ≤ num / den`. -/
def floorLog10 (num den : Nat) : Int :=
  let k := floorLog2 num den
  -- `k * 0.30103` rounded up is at most two above the answer
  floorLog10From num den 4 (k * 30103 / 100000 + 2)

/-- The candidate of `count` digits: the grid neighbour of `num / den` that lies between the bounds
`low / den` and `high / den`, the nearer one if both do, and the even one on a tie. -/
def candidate? (num den low high : Nat) (closed : Bool) (p : Int) (count : Nat) :
    Option (Nat × Int) :=
  let unit := p - (count - 1 : Nat)
  -- all quantities over the common denominator of the grid
  let (num, low, high, step) :=
    if 0 ≤ unit then (num, low, high, den * Nat.pow 10 unit.toNat)
    else
      let f := Nat.pow 10 (-unit).toNat
      (num * f, low * f, high * f, den)
  let d := num / step
  let inside (n : Nat) : Bool :=
    if closed then low ≤ n * step && n * step ≤ high else low < n * step && n * step < high
  let below := inside d
  let above := inside (d + 1)
  if below && above then
    let r := num % step
    if 2 * r < step || (2 * r == step && d % 2 == 0) then some (d, unit) else some (d + 1, unit)
  else if below then some (d, unit)
  else if above then some (d + 1, unit)
  else none

/-- The first candidate with at least `count` digits. -/
def firstCandidate (num den low high : Nat) (closed : Bool) (p : Int) :
    Nat → Nat → Option (Nat × Int)
  | 0, _ => none
  | fuel + 1, count =>
    (candidate? num den low high closed p count).orElse fun _ =>
      firstCandidate num den low high closed p fuel (count + 1)

/-- A digit string without its trailing zeros; zero keeps one digit. -/
def dropTrailingZeros (digits : List Char) : List Char :=
  match (digits.reverse.dropWhile (· = '0')).reverse with
  | [] => ['0']
  | kept => kept

/-- The digits of a positive magnitude and the decimal exponent of the first digit. -/
def shortest (mantissa : Nat) (exponent : Int) : List Char × Int :=
  let low := if mantissa = leadingBit ∧ minExponent < exponent then 4 * mantissa - 1
    else 4 * mantissa - 2
  let (num, den) := ratio (4 * mantissa) (exponent - 2)
  let (lo, _) := ratio low (exponent - 2)
  let (hi, _) := ratio (4 * mantissa + 2) (exponent - 2)
  let p := floorLog10 num den
  match firstCandidate num den lo hi (mantissa % 2 = 0) p 18 1 with
  | some (d, unit) =>
    let digits := Nat.toDigits 10 d
    (dropTrailingZeros digits, unit + (digits.length - 1 : Nat))
  | none => (['0'], 0)

/-- The layout of digits with a decimal exponent. -/
def layout (digits : List Char) (p : Int) : List Char :=
  if 0 ≤ p ∧ p ≤ 15 then
    let whole := p.toNat + 1
    let front := digits.take whole ++ List.replicate (whole - digits.length) '0'
    let back := digits.drop whole
    front ++ ['.'] ++ (if back.isEmpty then ['0'] else back)
  else if -5 ≤ p ∧ p < 0 then
    ['0', '.'] ++ List.replicate ((-p).toNat - 1) '0' ++ digits
  else
    let lead := digits.take 1
    let tail := digits.drop 1
    lead ++ (if tail.isEmpty then [] else '.' :: tail) ++ ['e'] ++ (if p < 0 then ['-'] else ['+'])
      ++ Nat.toDigits 10 p.natAbs

/-- The text of a number. -/
def render (x : Binary64) : List Char :=
  let body :=
    if x.isZero then ['0', '.', '0']
    else
      let (digits, p) := shortest x.mantissa x.exponent
      layout digits p
  if x.negative then '-' :: body else body

end Messaging.Binary64
