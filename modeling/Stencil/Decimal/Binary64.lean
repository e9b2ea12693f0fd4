/-!
# Finite binary numbers

The finite numbers of the 64-bit binary format, held as a mantissa and a power
of two, with rounding to nearest from exact ratios.  All arithmetic is on
natural numbers.
-/

namespace Stencil.Decimal

/-- The number `mantissa * 2 ^ exponent`, with a sign that zero has, too. -/
structure Binary64 where
  negative : Bool
  mantissa : Nat
  exponent : Int
  deriving DecidableEq, Repr

/-- A ratio of natural numbers. -/
structure Ratio where
  numerator : Nat
  denominator : Nat

namespace Ratio

def scale (r : Ratio) (base : Nat) : Int → Ratio
  | .ofNat power => ⟨r.numerator * base.pow power, r.denominator⟩
  | .negSucc power => ⟨r.numerator, r.denominator * base.pow (power + 1)⟩

def le (r s : Ratio) : Bool :=
  r.numerator * s.denominator ≤ s.numerator * r.denominator

def lt (r s : Ratio) : Bool :=
  r.numerator * s.denominator < s.numerator * r.denominator

/-- The nearest natural number; of two, the even one. -/
def round (r : Ratio) : Nat :=
  let whole := r.numerator / r.denominator
  let twice := 2 * (r.numerator % r.denominator)
  if twice > r.denominator ∨ (twice = r.denominator ∧ whole % 2 = 1) then whole + 1 else whole

end Ratio

namespace Binary64

/-- The least exponent of the format. -/
def leastExponent : Int := -1074

/-- The value of a number without its sign. -/
def magnitude (x : Binary64) : Ratio :=
  Ratio.scale ⟨x.mantissa, 1⟩ 2 x.exponent

/-- The number nearest to a ratio, without bound on the exponent. -/
def ofRatio (r : Ratio) : Binary64 :=
  if r.numerator = 0 then
    ⟨false, 0, leastExponent⟩
  else
    let estimate : Int := (Nat.log2 r.numerator : Int) - Nat.log2 r.denominator - 53
    let atLeast := max estimate leastExponent
    let scaled := r.scale 2 (-atLeast)
    let exponent :=
      if scaled.numerator / scaled.denominator < 1 <<< 53 then atLeast else atLeast + 1
    let mantissa := (r.scale 2 (-exponent)).round
    if mantissa = 1 <<< 53 then ⟨false, 1 <<< 52, exponent + 1⟩ else ⟨false, mantissa, exponent⟩

/-- Whether a number lies above the greatest one of the format. -/
def overflows (x : Binary64) : Bool :=
  decide (971 < x.exponent)

/-- The number nearest to a natural number. -/
def ofNat (n : Nat) : Binary64 := ofRatio ⟨n, 1⟩

def mul (x y : Binary64) : Binary64 :=
  ofRatio ⟨x.magnitude.numerator * y.magnitude.numerator,
    x.magnitude.denominator * y.magnitude.denominator⟩

def div (x y : Binary64) : Binary64 :=
  ofRatio ⟨x.magnitude.numerator * y.magnitude.denominator,
    x.magnitude.denominator * y.magnitude.numerator⟩

end Binary64

/-- A number times a power of ten, in the steps that a reader of decimal text
takes: one multiplication, or divisions by at most ten to the 308th each.
There is no result above the format's range. -/
def scaleByTen (x : Binary64) (power : Int) : Nat → Option Binary64
  | 0 => some x
  | steps + 1 =>
    if power.natAbs ≤ 308 then
      let ten := Binary64.ofNat (Nat.pow 10 power.natAbs)
      if 0 ≤ power then
        let product := x.mul ten
        if product.overflows then none else some product
      else
        some (x.div ten)
    else if x.mantissa = 0 then
      some x
    else if 0 ≤ power then
      none
    else
      scaleByTen (x.div (Binary64.ofNat (Nat.pow 10 308))) (power + 308) steps

end Stencil.Decimal
