import Stencil.Json.Tree

/-!
# Readers of JSON texts

A reader turns the tree of a text into a value of some type, from left to
right, and stops at the first thing that it cannot take.  It knows how many
more lists and objects may open within each other.

Records are described by their fields; the same description reads a record
that is written as an object and one that is written as a list of its fields
in order.
-/

namespace Stencil.Json

/-- Reads a tree within which the given number of levels may open. -/
abbrev Reader (α : Type) := Nat → Tree → Except Fault α

/-- How many lists and objects may be open at once. -/
def deepest : Nat := 127

/-- The levels that are left after one opens. -/
def enter : Nat → Except Fault Nat
  | 0 => .error .tooDeep
  | levels + 1 => .ok levels

/-- Reads a whole text. -/
def Reader.run {α : Type} (reader : Reader α) (text : String) : Except Fault α := do
  let (tree, surplus) := Tree.ofText text
  let value ← reader deepest tree
  if surplus then .error .trailingCharacters else .ok value

/-- The fault of finding a tree where something else is expected. -/
def Tree.mismatch (tree : Tree) (expected : String) : Fault :=
  match tree with
  | .null => .invalidType .null expected
  | .bool b => .invalidType (.bool b) expected
  | .number lexeme =>
    match lexeme.value with
    | .ok n => .invalidType (.number n) expected
    | .error fault => fault
  | .text quoted =>
    match quoted.read with
    | .ok content => .invalidType (.text content) expected
    | .error fault => fault
  | .list _ _ => .invalidType .list expected
  | .object _ _ => .invalidType .object expected
  | .broken breakage => breakage.fault

namespace Reader

variable {α σ : Type}

def text (expected : String) : Reader String := fun _ tree =>
  match tree with
  | .text quoted => quoted.read
  | other => .error (other.mismatch expected)

/-- Reads null. -/
def unit : Reader Unit := fun _ tree =>
  match tree with
  | .null => .ok ()
  | other => .error (other.mismatch "unit")

/-- Reads a natural number below a limit; `expected` names it in messages. -/
def naturalBelow (limit : Nat) (expected : String) : Reader Nat := fun _ tree =>
  match tree with
  | .number lexeme =>
    match lexeme.value with
    | .error fault => .error fault
    | .ok (.natural n) =>
      if n < limit then .ok n else .error (.invalidValue (.number (.natural n)) expected)
    | .ok (.negative n) => .error (.invalidValue (.number (.negative n)) expected)
    | .ok (.decimal x) => .error (.invalidType (.number (.decimal x)) expected)
  | other => .error (other.mismatch expected)

/-- Reads a list of values. -/
def list (item : Reader α) : Reader (List α) := fun levels tree =>
  match tree with
  | .list items ending => do
    let inner ← enter levels
    let values ← items.mapM (item inner)
    ending.closesList
    return values
  | other => .error (other.mismatch "a sequence")

/-- Reads an object whose keys are free, as pairs in the order of the text. -/
def fields (value : Reader α) : Reader (List (String × α)) := fun levels tree =>
  match tree with
  | .object entries ending => do
    let inner ← enter levels
    let values ← entries.mapM fun (key, tree) => do
      let name ← key.read
      let value ← value inner tree
      return (name, value)
    ending.closesObject
    return values
  | other => .error (other.mismatch "a map")

/-- The variant with a name. -/
def variant? (variants : List (String × α)) (name : String) : Except Fault α :=
  match variants.find? (·.1 = name) with
  | some (_, value) => .ok value
  | none => .error (.unknownVariant name (variants.map (·.1)))

/-- What follows the one field of a variant that is written as an object. -/
def closesVariant (more : List (Quoted × Tree)) (ending : Ending) : Except Fault Unit :=
  if more.isEmpty then
    match ending with
    | .closed => .ok ()
    | .unfinished => .error .endInObject
    | .stray | .danglingComma | .commaAtEnd | .badKey => .error .expectedValue
  else
    .error .expectedValue

/-- Reads one of several variants: its name, or an object with its name as the
only key and null as the value. -/
def variant (variants : List (String × α)) : Reader α := fun levels tree =>
  match tree with
  | .text quoted => do
    let name ← quoted.read
    variant? variants name
  | .object entries ending => do
    let inner ← enter levels
    match entries with
    | [] =>
      match ending with
      | .unfinished => .error .endInObject
      | .badKey => .error .keyNotText
      | .closed | .stray | .danglingComma | .commaAtEnd => .error .expectedValue
    | (key, value) :: more => do
      let name ← key.read
      let chosen ← variant? variants name
      unit inner value
      closesVariant more ending
      return chosen
  | .broken .endOfText => .error .endInValue
  | .broken .cutColon => .error .endInObject
  | .broken .noColon => .error .expectedColon
  | _ => .error .expectedValue

end Reader

mutual

/-- Reads any value. -/
def Tree.value (levels : Nat) : Tree → Except Fault Value
  | .null => .ok .null
  | .bool b => .ok (.bool b)
  | .number lexeme => do
    let n ← lexeme.value
    return .number n
  | .text quoted => do
    let content ← quoted.read
    return .text content
  | .list items ending => do
    let inner ← enter levels
    let values ← valuesOfItems inner items
    ending.closesList
    return .list values
  | .object fields ending => do
    let inner ← enter levels
    let values ← valuesOfFields inner fields
    ending.closesObject
    return .object values
  | .broken breakage => .error breakage.fault
termination_by structural tree => tree

/-- Reads the items of a list. -/
def valuesOfItems (levels : Nat) : List Tree → Except Fault (List Value)
  | [] => .ok []
  | item :: rest => do
    let value ← item.value levels
    let values ← valuesOfItems levels rest
    return value :: values
termination_by structural items => items

/-- Reads the fields of an object. -/
def valuesOfFields (levels : Nat) :
    List (Quoted × Tree) → Except Fault (List (String × Value))
  | [] => .ok []
  | (key, tree) :: rest => do
    let name ← key.read
    let value ← tree.value levels
    let values ← valuesOfFields levels rest
    return (name, value) :: values
termination_by structural fields => fields

end

/-- Reads any value. -/
def Reader.value : Reader Value := Tree.value

/-- A field of a record: reading it gives the change to the record. -/
structure Field (σ : Type) where
  key : String
  required : Bool
  read : Reader (σ → σ)

/-- The description of a record: its name and fields in order, and the record
before any field is read. -/
structure Record (σ : Type) where
  name : String
  blank : σ
  fields : List (Field σ)

namespace Record

variable {σ : Type}

/-- The record in a message about its length. -/
def phrase (record : Record σ) : String :=
  let count := record.fields.length
  "struct " ++ record.name ++ " with " ++ toString count ++
    (if count = 1 then " element" else " elements")

/-- Reads the entries of an object into a record.  `seen` are the keys read so
far; entries with other keys are skipped. -/
def readEntries (record : Record σ) (levels : Nat) :
    List (Quoted × Tree) → σ → List String → Except Fault (σ × List String)
  | [], current, seen => .ok (current, seen)
  | (key, tree) :: rest, current, seen => do
    let name ← key.read
    match record.fields.find? (·.key = name) with
    | some field =>
      if seen.contains name then
        .error (.duplicateField name)
      else
        let change ← field.read levels tree
        record.readEntries levels rest (change current) (name :: seen)
    | none =>
      tree.skip
      record.readEntries levels rest current seen

/-- The first required field that is not among the keys read. -/
def missing? (record : Record σ) (seen : List String) : Option String :=
  (record.fields.find? fun field => field.required && !seen.contains field.key).map (·.key)

/-- What follows the last field of a record that is written as a list. -/
def closesItems (more : List Tree) (ending : Ending) : Except Fault Unit :=
  if more.isEmpty then
    match ending with
    | .closed => .ok ()
    | .unfinished => .error .endInList
    | .danglingComma => .error .trailingComma
    | .stray | .commaAtEnd | .badKey => .error .trailingCharacters
  else
    .error .trailingCharacters

/-- Reads the items of a list into the fields of a record; `index` counts the
fields before. -/
def readItems (record : Record σ) (levels : Nat) (ending : Ending) :
    List (Field σ) → List Tree → Nat → σ → Except Fault σ
  | [], more, _, current => do
    closesItems more ending
    return current
  | field :: fields, item :: more, index, current => do
    let change ← field.read levels item
    record.readItems levels ending fields more (index + 1) (change current)
  | field :: fields, [], index, current => do
    ending.closesList
    if field.required then
      .error (.invalidLength index record.phrase)
    else
      record.readItems levels ending fields [] (index + 1) current

def reader (record : Record σ) : Reader σ := fun levels tree =>
  match tree with
  | .object entries ending => do
    let inner ← enter levels
    let (read, seen) ← record.readEntries inner entries record.blank []
    ending.closesObject
    match record.missing? seen with
    | some key => .error (.missingField key)
    | none => return read
  | .list items ending => do
    let inner ← enter levels
    record.readItems inner ending record.fields items 0 record.blank
  | other => .error (other.mismatch ("struct " ++ record.name))

end Record

end Stencil.Json
