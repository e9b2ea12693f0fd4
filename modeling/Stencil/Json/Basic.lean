import Stencil.Decimal.Binary64

/-!
# JSON values

Objects keep the order of their fields and repeated keys, because both can be
seen by what reads them.
-/

namespace Stencil.Json

/-- A number as it is read: integers of 64 bits keep their value, all other
numbers are binary ones. -/
inductive Number where
  /-- The integer `n`. -/
  | natural (n : Nat)
  /-- The integer `-n`. -/
  | negative (n : Nat)
  /-- A binary number. -/
  | decimal (x : Decimal.Binary64)
  deriving DecidableEq, Repr

/-- A JSON value. -/
inductive Value where
  | null
  | bool (b : Bool)
  | number (n : Number)
  | text (s : String)
  | list (items : List Value)
  | object (fields : List (String × Value))
  deriving Repr

namespace Value

/-- An integer as a value. -/
def natural (n : Nat) : Value := .number (.natural n)

def texts (items : List String) : Value := .list (items.map .text)

/-- The value of the last field with a key. -/
def field? (v : Value) (key : String) : Option Value :=
  match v with
  | object fields => (fields.reverse.find? (·.1 = key)).map (·.2)
  | _ => none

end Value

end Stencil.Json
