import Stencil.Toml.Node

/-!
# Decoding TOML nodes

A record is written as a table with its fields, or as a list of them in order.
Keys that no field has do not count.  A date is taken for a table without any
fields that could be known.
-/

namespace Stencil.Toml

/-- Turns a node into a value of some type. -/
abbrev Decoder (α : Type) := Node → Option α

namespace Decoder

variable {α σ : Type}

def text : Decoder String
  | .text content => some content
  | _ => none

def bool : Decoder Bool
  | .bool b => some b
  | _ => none

def isVoid : Node → Bool
  | .list items => items.isEmpty
  | .braces entries | .table _ entries => entries.isEmpty
  | .tables items => items.isEmpty
  | _ => false

/-- Decodes one of several variants: its name, or a table with its name as the only
key, of something empty. -/
def variant (variants : List (String × α)) : Decoder α
  | .text name => variants.lookup name
  | .braces [(name, node)] | .table _ [(name, node)] =>
    if isVoid node then variants.lookup name else none
  | _ => none

/-- A field of a record: decoding it gives the change to the record. -/
structure Field (σ : Type) where
  key : String
  required : Bool
  decode : Decoder (σ → σ)

/-- A field from a decoder of its node and what the value does to the record. -/
def fieldOf (key : String) (required : Bool) (decoder : Decoder α) (put : α → σ → σ) :
    Field σ :=
  ⟨key, required, fun node => (decoder node).map put⟩

def known (fields : List (Field σ)) : Entries → σ → Option σ
  | [], current => some current
  | (key, node) :: rest, current =>
    match fields.find? (·.key = key) with
    | some field => do
      let change ← field.decode node
      known fields rest (change current)
    | none => known fields rest current

/-- Decodes the entries of a table. -/
def entries (fields : List (Field σ)) (blank : σ) (given : Entries) : Option σ :=
  if fields.all fun field => !field.required || (given.lookup field.key).isSome then
    known fields given blank
  else none

/-- Decodes the items of a list into the fields of a record, as far as there are
items. -/
def items : List (Field σ) → List Node → σ → Option σ
  | [], _, current => some current
  | field :: fields, node :: rest, current => do
    let change ← field.decode node
    items fields rest (change current)
  | field :: fields, [], current => if field.required then none else items fields [] current

def record (fields : List (Field σ)) (blank : σ) : Decoder σ
  | .braces given | .table _ given => entries fields blank given
  | .moment _ => entries fields blank []
  | .list given => items fields given blank
  | .tables given => items fields (given.map (.table .header)) blank
  | _ => none

end Decoder

end Stencil.Toml
