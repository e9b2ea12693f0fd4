import Stencil.Json.Fault

/-!
# Decoding JSON values

A decoder turns a value that is already read into one of some type.  It judges
like a reader of texts, but words a few of its refusals differently, because
it sees the whole value.
-/

namespace Stencil.Json

/-- Turns a value into one of some type. -/
abbrev Decoder (α : Type) := Value → Except Fault α

/-- A value in a message. -/
def Value.found : Value → Found
  | null => .null
  | bool b => .bool b
  | number n => .number n
  | text s => .text s
  | list _ => .list
  | object _ => .object

namespace Decoder

variable {α σ : Type}

def text : Decoder String
  | .text s => .ok s
  | other => .error (.invalidType other.found "a string")

def bool : Decoder Bool
  | .bool b => .ok b
  | other => .error (.invalidType other.found "a boolean")

/-- Decodes a list of values. -/
def list (item : Decoder α) : Decoder (List α)
  | .list items => items.mapM item
  | other => .error (.invalidType other.found "a sequence")

/-- Decodes one of several variants: its name, or an object with its name as the
only key and null as the value. -/
def variant (variants : List (String × α)) : Decoder α := fun value =>
  let named (name : String) : Except Fault α :=
    match variants.find? (·.1 = name) with
    | some (_, chosen) => .ok chosen
    | none => .error (.unknownVariant name (variants.map (·.1)))
  match value with
  | .text name => named name
  | .object [(name, content)] => do
    let chosen ← named name
    match content with
    | .null => return chosen
    | other => .error (.invalidType other.found "unit")
  | .object _ => .error (.invalidValue .object "map with a single key")
  | other => .error (.invalidType other.found "string or map")

/-- A field of a record of settings: decoding it gives the change to the
record. -/
structure Field (σ : Type) where
  key : String
  decode : Decoder (σ → σ)

/-- A field from a decoder of its value and what the value does to the record. -/
def fieldOf (key : String) (decoder : Decoder α) (put : α → σ → σ) : Field σ :=
  ⟨key, fun value => (decoder value).map put⟩

/-- Decodes the entries of an object into a record; entries with other keys do
not count. -/
def entries (fields : List (Field σ)) : List (String × Value) → σ → Except Fault σ
  | [], current => .ok current
  | (key, value) :: rest, current =>
    match fields.find? (·.key = key) with
    | some field => do
      let change ← field.decode value
      entries fields rest (change current)
    | none => entries fields rest current

/-- Decodes the items of a list into the fields of a record, as far as there are
items. -/
def items : List (Field σ) → List Value → σ → Except Fault σ
  | field :: fields, value :: rest, current => do
    let change ← field.decode value
    items fields rest (change current)
  | _, _, current => .ok current

/-- Decodes a record of settings, all of which can be left out. -/
def settings (name : String) (fields : List (Field σ)) (blank : σ) : Decoder σ
  | .object given => entries fields given blank
  | .list given => do
    let record ← items fields given blank
    if given.length ≤ fields.length then
      return record
    else
      .error (.invalidLength given.length "fewer elements in array")
  | other => .error (.invalidType other.found ("struct " ++ name))

end Decoder

end Stencil.Json
