import Stencil.Toml.Statement

/-!
# TOML documents
-/

namespace Stencil.Toml

/-- A document on its way: its entries, and the path of the table that entries go
to. -/
structure Building where
  entries : Entries := []
  path : List String := []

/-- Changes what the last key of a header stands for. -/
def Building.atHeader? (building : Building) (path : List String)
    (change : String → Entries → Option Entries) : Option Building := do
  let key ← path.getLast?
  let entries ← within? path.dropLast (change key) building.entries
  return ⟨entries, path⟩

/-- Takes a statement in. -/
def Building.take? (building : Building) : Statement → Option Building
  | .table path => building.atHeader? path openTable?
  | .tables path => building.atHeader? path openNext?
  | .entry path node => do
    let entries ← within? building.path (insertDotted? path node) building.entries
    return { building with entries }

/-- The characters after a mark of the octet order. -/
def dropMark : List Char → List Char
  | '\ufeff' :: rest => rest
  | chars => chars

/-- The entries of a document. -/
def parse? (text : String) : Option Entries := do
  let statements ← statements? (dropMark text.toList)
  let building ← statements.foldlM Building.take? {}
  return building.entries

end Stencil.Toml
