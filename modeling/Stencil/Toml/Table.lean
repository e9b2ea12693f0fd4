import Stencil.Toml.Node

/-!
# Building tables

Entries arrive one by one, under keys that may lead through several tables.
No key is given twice, and tables that are complete are not extended: a header
stands for a new table or for one that was only passed, and a dotted key goes
on in tables that dotted keys made.
-/

namespace Stencil.Toml

/-- The entries with another node for a key that they have. -/
def replace (key : String) (node : Node) (entries : Entries) : Entries :=
  entries.map fun entry => if entry.1 = key then (key, node) else entry

/-- Adds an entry with a new key. -/
def addEntry? (key : String) (node : Node) (entries : Entries) : Option Entries :=
  if (entries.lookup key).isSome then none else some (entries ++ [(key, node)])

/-- Changes the last of some tables. -/
def changeLast? (change : Entries → Option Entries) (items : List Entries) :
    Option (List Entries) := do
  let last ← items.getLast?
  let changed ← change last
  return items.dropLast ++ [changed]

/-- Adds an entry under a dotted key. -/
def insertDotted? : List String → Node → Entries → Option Entries
  | [], _, _ => none
  | [key], node, entries => addEntry? key node entries
  | key :: next :: inner, node, entries =>
    match entries.lookup key with
    | none => do
      let made ← insertDotted? (next :: inner) node []
      return entries ++ [(key, .table .dotted made)]
    | some (.table .dotted found) => do
      let changed ← insertDotted? (next :: inner) node found
      return replace key (.table .dotted changed) entries
    | some (.table .passed found) =>
      if inner.isEmpty then none
      else do
        let changed ← insertDotted? (next :: inner) node found
        return replace key (.table .passed changed) entries
    | some (.tables items) =>
      if inner.isEmpty then none
      else do
        let changed ← changeLast? (insertDotted? (next :: inner) node) items
        return replace key (.tables changed) entries
    | some _ => none

/-- Changes the table that a header leads to; of several tables with one header
the last is meant. -/
def within? : List String → (Entries → Option Entries) → Entries → Option Entries
  | [], change, entries => change entries
  | key :: inner, change, entries =>
    match entries.lookup key with
    | none => do
      let made ← within? inner change []
      return entries ++ [(key, .table .passed made)]
    | some (.table origin found) => do
      let changed ← within? inner change found
      return replace key (.table origin changed) entries
    | some (.tables items) => do
      let changed ← changeLast? (within? inner change) items
      return replace key (.tables changed) entries
    | some _ => none

/-- Opens a table by the last key of its header. -/
def openTable? (key : String) (entries : Entries) : Option Entries :=
  match entries.lookup key with
  | none => some (entries ++ [(key, .table .header [])])
  | some (.table .passed found) => some (replace key (.table .header found) entries)
  | some _ => none

/-- Opens another one of several tables by the last key of their header. -/
def openNext? (key : String) (entries : Entries) : Option Entries :=
  match entries.lookup key with
  | none => some (entries ++ [(key, .tables [[]])])
  | some (.tables items) => some (replace key (.tables (items ++ [[]])) entries)
  | some _ => none

mutual

/-- The tables that dotted keys made within braces count as written with
braces. -/
def Node.seal : Node → Node
  | .table _ entries => .braces (sealEntries entries)
  | other => other
termination_by structural node => node

def sealEntries : List (String × Node) → List (String × Node)
  | [] => []
  | (key, node) :: rest => (key, node.seal) :: sealEntries rest
termination_by structural entries => entries

end

/-- The table of some pairs between braces. -/
def ofPairs? (pairs : List (List String × Node)) : Option Node := do
  let entries ← pairs.foldlM (fun entries (path, node) => insertDotted? path node entries) []
  return .braces (sealEntries entries)

end Stencil.Toml
