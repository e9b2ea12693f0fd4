import Stencil.Decimal.Shortest

/-!
# Decimal text

How a binary number is written: plainly where the first digit's power of ten
is moderate, and with an exponent elsewhere.  A number always shows that it is
no integer.
-/

namespace Stencil.Decimal

/-- The choices of a decimal notation. -/
structure Layout where
  /-- The least exponent that is written plainly. -/
  leastPlain : Int
  /-- The greatest exponent that is written plainly. -/
  greatestPlain : Int

/-- Numbers from a hundred-thousandth up to sixteen digits before the point are
plain. -/
def Layout.standard : Layout := ⟨-5, 15⟩

/-- Digits with a point after the given number of them, and zeros where digits
are wanting. -/
def plainDigits (digits : List Char) (exponent : Int) : List Char :=
  match exponent with
  | .ofNat power =>
    let before := power + 1
    let whole := digits.take before ++ List.replicate (before - digits.length) '0'
    let fraction := digits.drop before
    whole ++ ['.'] ++ (if fraction.isEmpty then ['0'] else fraction)
  | .negSucc zeros => ['0', '.'] ++ List.replicate zeros '0' ++ digits

/-- Digits with a point after the first, followed by the exponent with its sign. -/
def scientificDigits (digits : List Char) (exponent : Int) : List Char :=
  let mantissa :=
    match digits with
    | first :: second :: more => first :: '.' :: second :: more
    | few => few
  mantissa ++ ['e', if exponent < 0 then '-' else '+'] ++ Nat.toDigits 10 exponent.natAbs

/-- A number as text. -/
def Layout.render (layout : Layout) (x : Binary64) : List Char :=
  let s := x.shortest
  let sign := if x.negative then ['-'] else []
  if layout.leastPlain ≤ s.exponent ∧ s.exponent ≤ layout.greatestPlain then
    sign ++ plainDigits s.digits s.exponent
  else
    sign ++ scientificDigits s.digits s.exponent

end Stencil.Decimal
