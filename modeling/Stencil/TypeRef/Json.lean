import Stencil.Json.Reader
import Stencil.TypeRef.Basic

/-!
# Types in JSON

A type is written as a text, as an object with a declared name and arguments,
or as an object with an element type; the objects may also be written as lists
of their fields.  Nothing names the form, so the forms are tried in this
order.  An object that gives a field of a form twice is not of that form.
-/

namespace Stencil.TypeRef

open Json

/-- What a JSON value can be taken for. -/
structure Forms where
  text? : Option String
  type? : Option TypeRef
  types? : Option (List TypeRef)

/-- A value of no use. -/
def Forms.nothing : Forms := ⟨none, none, none⟩

/-- The value of a field that is given once; `some none` if it is not given, and
nothing if it is given repeatedly. -/
def onlyField? (key : String) (fields : List (String × Forms)) : Option (Option Forms) :=
  match fields.filter (·.1 = key) with
  | [] => some none
  | [(_, value)] => some (some value)
  | _ => none

/-- An object as a declared type. -/
def declaredOfFields? (fields : List (String × Forms)) : Option TypeRef := do
  let name ← (← onlyField? "declared" fields).bind Forms.text?
  match ← onlyField? "args" fields with
  | none => return declared name []
  | some value => return declared name (← value.types?)

/-- An object as an array type. -/
def arrayOfFields? (fields : List (String × Forms)) : Option TypeRef := do
  let element ← (← onlyField? "array" fields).bind Forms.type?
  return array element

/-- A list as a declared type. -/
def declaredOfItems? : List Forms → Option TypeRef
  | [name] => do return declared (← name.text?) []
  | [name, arguments] => do return declared (← name.text?) (← arguments.types?)
  | _ => none

/-- A list as an array type. -/
def arrayOfItems? : List Forms → Option TypeRef
  | [element] => do return array (← element.type?)
  | _ => none

mutual

/-- What a value can be taken for. -/
def forms : Value → Forms
  | .text s => ⟨some s, some (plain s), none⟩
  | .list items =>
    let found := formsOfItems items
    ⟨none, declaredOfItems? found <|> arrayOfItems? found, found.mapM Forms.type?⟩
  | .object fields =>
    let found := formsOfFields fields
    ⟨none, declaredOfFields? found <|> arrayOfFields? found, none⟩
  | .null | .bool _ | .number _ => Forms.nothing
termination_by structural value => value

/-- What the items of a list can be taken for. -/
def formsOfItems : List Value → List Forms
  | [] => []
  | item :: rest => forms item :: formsOfItems rest
termination_by structural items => items

/-- What the fields of an object can be taken for. -/
def formsOfFields : List (String × Value) → List (String × Forms)
  | [] => []
  | (key, value) :: rest => (key, forms value) :: formsOfFields rest
termination_by structural fields => fields

end

def ofValue (value : Value) : Except Fault TypeRef :=
  match (forms value).type? with
  | some type => .ok type
  | none => .error (.noMatchingForm "TypeRef")

/-- Reads a type.  The whole value is read before its form is looked for. -/
def reader : Reader TypeRef := fun levels tree => do
  let value ← Reader.value levels tree
  ofValue value

mutual

def toValue : TypeRef → Value
  | .plain name => .text name
  | .declared name arguments =>
    .object [("declared", .text name), ("args", .list (toValues arguments))]
  | .array element => .object [("array", element.toValue)]
termination_by structural type => type

def toValues : List TypeRef → List Value
  | [] => []
  | type :: rest => type.toValue :: toValues rest
termination_by structural types => types

end

end Stencil.TypeRef
