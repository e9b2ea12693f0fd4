import Stencil.Decimal.Binary64

/-!
# Shortest decimal digits

The digits of a binary number that a message shows: as few as read back to the
number, and of those the nearest to it.  They are found on the decimal grids
through the number, the coarsest grid first: on every grid only the two
neighbours of the number can read back to it.
-/

namespace Stencil.Decimal

/-- Digits `d₀ d₁ d₂ …` that stand for `d₀.d₁d₂… * 10 ^ exponent`. -/
structure Scientific where
  digits : List Char
  exponent : Int
  deriving DecidableEq, Repr

namespace Binary64

/-- The ratios between which all numbers round to a number. -/
def interval (x : Binary64) : Ratio × Ratio :=
  let below : Ratio :=
    if x.mantissa = 1 <<< 52 ∧ leastExponent < x.exponent then
      Ratio.scale ⟨4 * x.mantissa - 1, 1⟩ 2 (x.exponent - 2)
    else
      Ratio.scale ⟨2 * x.mantissa - 1, 1⟩ 2 (x.exponent - 1)
  (below, Ratio.scale ⟨2 * x.mantissa + 1, 1⟩ 2 (x.exponent - 1))

/-- Whether a ratio rounds to a number. -/
def reads (x : Binary64) (candidate : Ratio) : Bool :=
  let (below, above) := x.interval
  if x.mantissa % 2 = 0 then
    below.le candidate && candidate.le above
  else
    below.lt candidate && candidate.lt above

/-- The power of ten of the first digit of a number that is not zero. -/
def decimalExponent (x : Binary64) : Int :=
  let estimate := ((Nat.log2 x.mantissa + x.exponent) * 30103) / 100000
  let reaches (power : Int) := (Ratio.scale ⟨1, 1⟩ 10 power).le x.magnitude
  if reaches (estimate + 1) then estimate + 1
  else if reaches estimate then estimate
  else estimate - 1

/-- The point of a decimal grid that reads back to a number and is nearest to
it, as a multiple of the grid's unit. -/
def onGrid? (x : Binary64) (power : Int) : Option Nat :=
  let scaled := x.magnitude.scale 10 (-power)
  let lower := scaled.numerator / scaled.denominator
  let upper := lower + 1
  let point (n : Nat) : Ratio := Ratio.scale ⟨n, 1⟩ 10 power
  match x.reads (point lower), x.reads (point upper) with
  | true, true => some scaled.round
  | true, false => some lower
  | false, true => some upper
  | false, false => none

/-- The shortest digits, looked for on the grids with one digit more each. -/
def shortestFrom (x : Binary64) (exponent : Int) (width : Nat) : Nat → Scientific
  | 0 => ⟨['0'], 0⟩
  | grids + 1 =>
    match x.onGrid? (exponent - width) with
    | some n =>
      let digits := Nat.toDigits 10 n
      let kept := (digits.reverse.dropWhile (· = '0')).reverse
      ⟨kept, exponent - width + digits.length - 1⟩
    | none => shortestFrom x exponent (width + 1) grids

/-- The shortest digits of a number without its sign. -/
def shortest (x : Binary64) : Scientific :=
  if x.mantissa = 0 then ⟨['0'], 0⟩ else shortestFrom x x.decimalExponent 0 18

end Binary64

end Stencil.Decimal
