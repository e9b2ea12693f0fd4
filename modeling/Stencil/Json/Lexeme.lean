import Stencil.Json.Fault

/-!
# Numbers as they are written

The digits of a number are kept until the number is read; a number that is
skipped may lie outside every range.
-/

namespace Stencil.Json

/-- A number as it is written. -/
structure Lexeme where
  negative : Bool
  /-- The digits before the point. -/
  whole : List Nat
  /-- The digits after the point; there is none exactly if there is no point. -/
  fraction : List Nat
  /-- The exponent: whether it is negative, and its digits. -/
  exponent : Option (Bool × List Nat)
  deriving DecidableEq, Repr

/-- The digits read so far as `significand * 10 ^ power`.  Once another digit does
not fit into 64 bits the significand is full, and later digits only move the
power. -/
structure Significand where
  value : Nat
  power : Int
  full : Bool

/-- Takes a digit before the point. -/
def Significand.takeWhole (s : Significand) (digit : Nat) : Significand :=
  if s.full || decide (UInt64.size ≤ s.value * 10 + digit) then
    ⟨s.value, s.power + 1, true⟩
  else
    ⟨s.value * 10 + digit, s.power, false⟩

/-- Takes a digit after the point. -/
def Significand.takeFraction (s : Significand) (digit : Nat) : Significand :=
  if s.full || decide (UInt64.size ≤ s.value * 10 + digit) then
    ⟨s.value, s.power, true⟩
  else
    ⟨s.value * 10 + digit, s.power - 1, false⟩

/-- The number that digits spell. -/
def digitsValue (digits : List Nat) : Nat :=
  digits.foldl (fun n digit => n * 10 + digit) 0

/-- The greatest exponent that is taken at its value. -/
def exponentLimit : Nat := 0x7fffffff

/-- A binary number with a sign. -/
def signed (negative : Bool) (x : Decimal.Binary64) : Number :=
  .decimal { x with negative }

/-- A significand with its power and the exponent as a binary number.  Four steps
of scaling reach zero from every significand. -/
def Lexeme.binary (l : Lexeme) (s : Significand) : Except Fault Number :=
  let scaled (power : Int) : Except Fault Number :=
    match Decimal.scaleByTen (Decimal.Binary64.ofNat s.value) power 4 with
    | some x => .ok (signed l.negative x)
    | none => .error .numberOutOfRange
  match l.exponent with
  | none => scaled s.power
  | some (negativeExponent, digits) =>
    let exponent := digitsValue digits
    if exponent ≤ exponentLimit then
      scaled (if negativeExponent then s.power - exponent else s.power + exponent)
    else if s.value ≠ 0 ∧ negativeExponent = false then
      .error .numberOutOfRange
    else
      .ok (signed l.negative (Decimal.Binary64.ofNat 0))

/-- The number that is written. -/
def Lexeme.value (l : Lexeme) : Except Fault Number :=
  let whole := l.whole.foldl Significand.takeWhole ⟨0, 0, false⟩
  if whole.full = false ∧ l.fraction = [] ∧ l.exponent = none then
    if l.negative = false then
      .ok (.natural whole.value)
    else if whole.value = 0 ∨ 0x8000000000000000 < whole.value then
      l.binary whole
    else
      .ok (.negative whole.value)
  else
    l.binary (l.fraction.foldl Significand.takeFraction { whole with full := false })

end Stencil.Json
