import Stencil.Decimal.Layout
import Stencil.Digest.Hex
import Stencil.Json.Basic

/-!
# JSON as text

The compact form has no space between tokens.  The pretty form puts every item
and field on a line of its own, two spaces further in per level; empty lists
and objects stay in one piece.
-/

namespace Stencil.Json

/-- The written form of a character of a text. -/
def escapedChar (c : Char) : List Char :=
  if c = '"' then ['\\', '"']
  else if c = '\\' then ['\\', '\\']
  else if c = '\x08' then ['\\', 'b']
  else if c = '\t' then ['\\', 't']
  else if c = '\n' then ['\\', 'n']
  else if c = '\x0c' then ['\\', 'f']
  else if c = '\r' then ['\\', 'r']
  else if c.toNat < 0x20 then
    ['\\', 'u', '0', '0', Digest.hexDigit (c.toNat / 16), Digest.hexDigit (c.toNat % 16)]
  else [c]

/-- A text between quotes. -/
def printText (text : String) : List Char :=
  '"' :: text.toList.flatMap escapedChar ++ ['"']

/-- A number as text. -/
def Number.print : Number → List Char
  | natural n => Nat.toDigits 10 n
  | negative n => '-' :: Nat.toDigits 10 n
  | decimal x => Decimal.Layout.standard.render x

mutual

/-- The compact form of a value. -/
def Value.compact : Value → List Char
  | .null => ['n', 'u', 'l', 'l']
  | .bool true => ['t', 'r', 'u', 'e']
  | .bool false => ['f', 'a', 'l', 's', 'e']
  | .number n => n.print
  | .text text => printText text
  | .list [] => ['[', ']']
  | .list (item :: rest) => '[' :: item.compact ++ compactItems rest ++ [']']
  | .object [] => ['\x7b', '\x7d']
  | .object ((key, value) :: rest) =>
    '\x7b' :: printText key ++ [':'] ++ value.compact ++ compactFields rest ++ ['\x7d']
termination_by structural value => value

/-- Items after a first one. -/
def compactItems : List Value → List Char
  | [] => []
  | item :: rest => ',' :: item.compact ++ compactItems rest
termination_by structural items => items

/-- Fields after a first one. -/
def compactFields : List (String × Value) → List Char
  | [] => []
  | (key, value) :: rest =>
    ',' :: printText key ++ [':'] ++ value.compact ++ compactFields rest
termination_by structural fields => fields

end

/-- The start of a line at a level. -/
def lineStart (level : Nat) : List Char := '\n' :: List.replicate (2 * level) ' '

mutual

/-- The pretty form of a value that stands at a level. -/
def Value.prettyAt (level : Nat) : Value → List Char
  | .null => ['n', 'u', 'l', 'l']
  | .bool true => ['t', 'r', 'u', 'e']
  | .bool false => ['f', 'a', 'l', 's', 'e']
  | .number n => n.print
  | .text text => printText text
  | .list [] => ['[', ']']
  | .list (item :: rest) =>
    '[' :: lineStart (level + 1) ++ item.prettyAt (level + 1) ++ prettyItems level rest ++
      lineStart level ++ [']']
  | .object [] => ['\x7b', '\x7d']
  | .object ((key, value) :: rest) =>
    '\x7b' :: lineStart (level + 1) ++ printText key ++ [':', ' '] ++
      value.prettyAt (level + 1) ++ prettyFields level rest ++ lineStart level ++ ['\x7d']
termination_by structural value => value

/-- Items after a first one, of a list that stands at a level. -/
def prettyItems (level : Nat) : List Value → List Char
  | [] => []
  | item :: rest =>
    ',' :: lineStart (level + 1) ++ item.prettyAt (level + 1) ++ prettyItems level rest
termination_by structural items => items

/-- Fields after a first one, of an object that stands at a level. -/
def prettyFields (level : Nat) : List (String × Value) → List Char
  | [] => []
  | (key, value) :: rest =>
    ',' :: lineStart (level + 1) ++ printText key ++ [':', ' '] ++ value.prettyAt (level + 1) ++
      prettyFields level rest
termination_by structural fields => fields

end

/-- The compact text of a value. -/
def Value.toCompact (v : Value) : String := String.ofList v.compact

/-- The pretty text of a value. -/
def Value.toPretty (v : Value) : String := String.ofList (v.prettyAt 0)

end Stencil.Json
