import Stencil.Digest.Hex
import Stencil.Text.Pieces
import Stencil.Toml.Node

/-!
# Scalars of TOML

Numbers, dates, times and truth values are written without quotes and without
space, except for one space that can stand between a date and a time.  A
scalar is therefore judged as a whole, once its characters are known.
-/

namespace Stencil.Toml.Scalar

/-- Digits of a base with underscores between them, without the underscores. -/
def digits? (value? : Char → Option Nat) (spelling : List Char) : Option (List Nat) :=
  let groups := Text.pieces '_' spelling
  if groups.any List.isEmpty then none else groups.flatten.mapM value?

/-- The value of a digit below a base. -/
def digitBelow? (base : Nat) (c : Char) : Option Nat :=
  (Digest.hexValue? c).filter fun value => decide (value < base)

/-- The number that digits of a base spell. -/
def numberOf (base : Nat) (digits : List Nat) : Nat :=
  digits.foldl (fun n digit => base * n + digit) 0

/-- The sign at the front of a number, and what follows it. -/
def signed : List Char → Bool × List Char
  | '+' :: rest => (false, rest)
  | '-' :: rest => (true, rest)
  | spelling => (false, spelling)

/-- The decimal digits of a whole number; none but zero starts with zero. -/
def wholeDigits? (spelling : List Char) : Option (List Nat) :=
  match digits? (digitBelow? 10) spelling with
  | some [] => none
  | some (first :: rest) => if first = 0 && !rest.isEmpty then none else some (first :: rest)
  | none => none

/-- An integer of 64 bits with a sign. -/
def bounded? (n : Int) : Option Node :=
  if -0x8000000000000000 ≤ n ∧ n < 0x8000000000000000 then some (.integer n) else none

/-- An integer to a base that its spelling names. -/
def based? (base : Nat) (spelling : List Char) : Option Node := do
  let digits ← digits? (digitBelow? base) spelling
  bounded? (numberOf base digits)

def integer? (spelling : List Char) : Option Node :=
  match spelling with
  | '0' :: 'x' :: rest => based? 16 rest
  | '0' :: 'o' :: rest => based? 8 rest
  | '0' :: 'b' :: rest => based? 2 rest
  | _ => do
    let (negative, whole) := signed spelling
    let digits ← wholeDigits? whole
    let n : Int := numberOf 10 digits
    bounded? (if negative then -n else n)

/-- Whether `digits * 10 ^ power` lies above all finite binary numbers.  Only
numbers of a near size are computed. -/
def overflows (digits : List Nat) (power : Int) : Bool :=
  let n := numberOf 10 digits
  let size := (Nat.toDigits 10 n).length + power
  if n = 0 ∨ size ≤ 308 then false
  else if 310 < size then true
  else if 0 ≤ power then decide (1 <<< 1024 - 1 <<< 970 ≤ n * Nat.pow 10 power.toNat)
  else decide ((1 <<< 1024 - 1 <<< 970) * Nat.pow 10 (-power).toNat ≤ n)

/-- The parts of a spelling before and after the first character of a kind. -/
def cut (isCut : Char → Bool) (spelling : List Char) : List Char × Option (List Char) :=
  match spelling.dropWhile fun c => !isCut c with
  | [] => (spelling, none)
  | _ :: after => (spelling.takeWhile fun c => !isCut c, some after)

/-- The exponent of a number, if it has one. -/
def exponent? : Option (List Char) → Option Int
  | none => some 0
  | some spelling => do
    let (negative, digits) := signed spelling
    let n : Int := numberOf 10 (← digits? (digitBelow? 10) digits)
    return if negative then -n else n

/-- The digits after the point of a number, if it has one. -/
def fraction? : Option (List Char) → Option (List Nat)
  | none => some []
  | some spelling => digits? (digitBelow? 10) spelling

/-- A number with a fraction or an exponent.  Numbers that are too large to be
finite are refused if they are positive. -/
def decimal? (spelling : List Char) : Option Node := do
  let (negative, unsigned) := signed spelling
  let (mantissa, scale) := cut (fun c => c = 'e' || c = 'E') unsigned
  let (whole, point) := cut (· = '.') mantissa
  if scale.isNone && point.isNone then none
  let wholeDigits ← wholeDigits? whole
  let fraction ← fraction? point
  let exponent ← exponent? scale
  if !negative && overflows (wholeDigits ++ fraction) (exponent - fraction.length) then none
  return .float (String.ofList spelling)

def special? (spelling : List Char) : Option Node :=
  let unsigned := (signed spelling).2
  if unsigned = ['i', 'n', 'f'] || unsigned = ['n', 'a', 'n'] then
    some (.float (String.ofList spelling))
  else none

/-- A number of a fixed count of digits, within bounds. -/
def field? (count least greatest : Nat) (spelling : List Char) : Option Nat := do
  if spelling.length ≠ count then none
  let n := numberOf 10 (← spelling.mapM (digitBelow? 10))
  if least ≤ n ∧ n ≤ greatest then some n else none

def daysOf (year month : Nat) : Nat :=
  if month = 2 then
    if year % 4 = 0 ∧ (year % 100 ≠ 0 ∨ year % 400 = 0) then 29 else 28
  else if month = 4 ∨ month = 6 ∨ month = 9 ∨ month = 11 then 30
  else 31

def isDate (spelling : List Char) : Bool :=
  match Text.pieces '-' spelling with
  | [year, month, day] =>
    match field? 4 0 9999 year, field? 2 1 12 month with
    | some year, some month => (field? 2 1 (daysOf year month) day).isSome
    | _, _ => false
  | _ => false

def isHourMinute (spelling : List Char) : Bool :=
  match Text.pieces ':' spelling with
  | [hour, minute] => (field? 2 0 23 hour).isSome && (field? 2 0 59 minute).isSome
  | _ => false

def isSecond (spelling : List Char) : Bool :=
  let (whole, fraction) := cut (· = '.') spelling
  (field? 2 0 60 whole).isSome &&
    match fraction with
    | none => true
    | some digits => !digits.isEmpty && digits.all fun c => (digitBelow? 10 c).isSome

def isTime (spelling : List Char) : Bool :=
  match Text.splitLast? ':' spelling with
  | some (hourMinute, second) => isHourMinute hourMinute && isSecond second
  | none => false

/-- Whether a spelling is a time with or without the offset of its zone. -/
def isZonedTime (spelling : List Char) : Bool :=
  let time := spelling.takeWhile fun c => c ≠ '+' && c ≠ '-' && c ≠ 'Z' && c ≠ 'z'
  isTime time &&
    match spelling.drop time.length with
    | [] => true
    | 'Z' :: rest | 'z' :: rest => rest.isEmpty
    | _ :: offset => isHourMinute offset

def moment? (spelling : List Char) : Option Node :=
  let (date, time) := cut (fun c => c = 'T' || c = 't' || c = ' ') spelling
  let holds :=
    match time with
    | some time => isDate date && isZonedTime time
    | none => isDate date || isTime date
  if holds then some (.moment (String.ofList spelling)) else none

def bool? (spelling : List Char) : Option Node :=
  if spelling = ['t', 'r', 'u', 'e'] then some (.bool true)
  else if spelling = ['f', 'a', 'l', 's', 'e'] then some (.bool false)
  else none

/-- The scalar with a spelling. -/
def ofSpelling? (spelling : List Char) : Option Node :=
  bool? spelling <|> integer? spelling <|> decimal? spelling <|> special? spelling <|>
    moment? spelling

/-- Whether a character can stand in a scalar. -/
def isPart (c : Char) : Bool :=
  c.isAlphanum || c = '_' || c = '+' || c = '-' || c = '.' || c = ':'

/-- The characters of a scalar at the front of some characters, and the rest.  A
date goes on after one space if a time can start there. -/
def spelling (chars : List Char) : List Char × List Char :=
  let first := chars.takeWhile isPart
  let rest := chars.dropWhile isPart
  match rest with
  | ' ' :: c :: more =>
    if isDate first && isPart c then
      (first ++ ' ' :: (c :: more).takeWhile isPart, (c :: more).dropWhile isPart)
    else (first, rest)
  | _ => (first, rest)

end Stencil.Toml.Scalar
