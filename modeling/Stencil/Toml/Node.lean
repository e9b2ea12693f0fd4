/-!
# TOML documents as trees

A document is a list of entries.  Tables know how they came to be, because that
decides whether they can be extended by what follows in the document.
-/

namespace Stencil.Toml

/-- How a table came to be. -/
inductive Origin where
  /-- By its own header. -/
  | header
  /-- By the header of a table within it. -/
  | passed
  /-- By a dotted key. -/
  | dotted
  deriving DecidableEq, Repr

/-- What a key can stand for. -/
inductive Node where
  | text (content : String)
  | integer (n : Int)
  /-- A number with a fraction or an exponent, infinity, or no number, as it is
  written. -/
  | float (spelling : String)
  /-- A date, a time, or both, as it is written. -/
  | moment (spelling : String)
  | bool (b : Bool)
  | list (items : List Node)
  /-- A table between braces. -/
  | braces (entries : List (String × Node))
  | table (origin : Origin) (entries : List (String × Node))
  /-- The tables with the same doubly bracketed header. -/
  | tables (items : List (List (String × Node)))
  deriving Repr

/-- The entries of a table, in order. -/
abbrev Entries := List (String × Node)

end Stencil.Toml
