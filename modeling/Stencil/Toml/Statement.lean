import Stencil.Toml.Quoted
import Stencil.Toml.Scalar
import Stencil.Toml.Table

/-!
# Statements of a TOML document

A document is a sequence of headers and entries, each on lines of its own.
Lists may run over several lines, tables between braces may not.
-/

namespace Stencil.Toml

/-- A line of a document, or several if the node of an entry takes several. -/
inductive Statement where
  /-- The header of a table. -/
  | table (path : List String)
  /-- The header of one of several tables. -/
  | tables (path : List String)
  /-- A node under a dotted key. -/
  | entry (path : List String) (node : Node)
  deriving Repr

/-- The characters after space. -/
def skipSpace (chars : List Char) : List Char := chars.dropWhile isSpace

/-- The characters after space, line breaks and comments.  Nothing is left after a
comment that is not well formed. -/
def skipLines (inComment : Bool) : List Char → List Char
  | [] => []
  | '\n' :: rest => skipLines false rest
  | '\r' :: '\n' :: rest => skipLines false rest
  | c :: rest =>
    if inComment then
      if isPlain c then skipLines true rest else []
    else if c = '#' then skipLines true rest
    else if isSpace c then skipLines false rest
    else c :: rest

/-- The characters of the next line, if the line holds nothing but space and a
comment. -/
def nextLine? (inComment : Bool) : List Char → Option (List Char)
  | [] => some []
  | '\n' :: rest => some rest
  | '\r' :: '\n' :: rest => some rest
  | c :: rest =>
    if inComment then
      if isPlain c then nextLine? true rest else none
    else if c = '#' then nextLine? true rest
    else if isSpace c then nextLine? false rest
    else none

/-- How many levels of lists and tables a node can have, and one more than the
parts that a key can have. -/
def deepest : Nat := 79

def isBare (c : Char) : Bool := c.isAlphanum || c = '_' || c = '-'

/-- A part of a key. -/
def keyPart? (chars : List Char) : Option (String × List Char) :=
  match Quoted.oneLine chars with
  | some (content, rest) => some (String.ofList content, rest)
  | none =>
    let name := chars.takeWhile isBare
    if name.isEmpty then none else some (String.ofList name, chars.dropWhile isBare)

/-- A dotted key of a limited number of parts, with the space around them. -/
def keyWithin? : Nat → List Char → Option (List String × List Char)
  | 0, _ => none
  | parts + 1, chars => do
    let (part, rest) ← keyPart? (skipSpace chars)
    match skipSpace rest with
    | '.' :: more => do
      let (others, rest) ← keyWithin? parts more
      return (part :: others, rest)
    | rest => return ([part], rest)

/-- A dotted key. -/
def key? (chars : List Char) : Option (List String × List Char) := keyWithin? deepest chars

mutual

/-- A node with at most some levels.  `steps` bounds the parts that are read one
after the other. -/
def nodeWithin? : (steps levels : Nat) → List Char → Option (Node × List Char)
  | 0, _, _ => none
  | steps + 1, levels, chars =>
    match chars with
    | '[' :: rest =>
      match levels with
      | 0 => none
      | levels + 1 =>
        (itemsWithin? steps levels rest).map fun (items, rest) => (.list items, rest)
    | '\x7b' :: rest =>
      match levels with
      | 0 => none
      | levels + 1 =>
        match skipSpace rest with
        | '\x7d' :: rest => some (.braces [], rest)
        | rest => do
          let (pairs, rest) ← pairsWithin? steps levels rest
          return (← ofPairs? pairs, rest)
    | '"' :: _ | '\'' :: _ =>
      (Quoted.anyLines chars).map fun (content, rest) => (.text (String.ofList content), rest)
    | _ => do
      let (spelling, rest) := Scalar.spelling chars
      return (← Scalar.ofSpelling? spelling, rest)

/-- The items of a list up to its closing bracket; a comma can follow the last
one. -/
def itemsWithin? : (steps levels : Nat) → List Char → Option (List Node × List Char)
  | 0, _, _ => none
  | steps + 1, levels, chars =>
    match skipLines false chars with
    | ']' :: rest => some ([], rest)
    | chars => do
      let (node, rest) ← nodeWithin? steps levels chars
      match skipLines false rest with
      | ']' :: rest => return ([node], rest)
      | ',' :: rest => do
        let (others, rest) ← itemsWithin? steps levels rest
        return (node :: others, rest)
      | _ => none

/-- The keys and nodes of a table up to its closing brace. -/
def pairsWithin? :
    (steps levels : Nat) → List Char → Option (List (List String × Node) × List Char)
  | 0, _, _ => none
  | steps + 1, levels, chars => do
    let (path, rest) ← key? chars
    match rest with
    | '=' :: rest => do
      let (node, rest) ← nodeWithin? steps levels (skipSpace rest)
      match skipSpace rest with
      | '\x7d' :: rest => return ([(path, node)], rest)
      | ',' :: rest => do
        let (others, rest) ← pairsWithin? steps levels rest
        return ((path, node) :: others, rest)
      | _ => none
    | _ => none

end

/-- A node.  Two steps for every character suffice. -/
def node? (chars : List Char) : Option (Node × List Char) :=
  nodeWithin? (2 * chars.length + 2) deepest chars

/-- A statement at the front of some characters, with the lines after it. -/
def statement? (chars : List Char) : Option (Statement × List Char) :=
  match chars with
  | '[' :: '[' :: rest => do
    let (path, rest) ← key? rest
    match rest with
    | ']' :: ']' :: rest => return (.tables path, ← nextLine? false rest)
    | _ => none
  | '[' :: rest => do
    let (path, rest) ← key? rest
    match rest with
    | ']' :: rest => return (.table path, ← nextLine? false rest)
    | _ => none
  | chars => do
    let (path, rest) ← key? chars
    match rest with
    | '=' :: rest => do
      let (node, rest) ← node? (skipSpace rest)
      return (.entry path node, ← nextLine? false rest)
    | _ => none

/-- The statements of a limited number of lines. -/
def statementsWithin? : (lines : Nat) → List Char → Option (List Statement)
  | _, [] => some []
  | 0, _ => none
  | lines + 1, chars =>
    match nextLine? false chars with
    | some rest => statementsWithin? lines rest
    | none => do
      let (statement, rest) ← statement? (skipSpace chars)
      return statement :: (← statementsWithin? lines rest)

/-- The statements of a document.  Every line has a character. -/
def statements? (chars : List Char) : Option (List Statement) :=
  statementsWithin? chars.length chars

end Stencil.Toml
