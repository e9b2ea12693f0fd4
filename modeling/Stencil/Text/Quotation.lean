import Stencil.Text.PrintableTable
import Stencil.Text.Ranges

/-!
# Texts quoted in messages

A message that quotes a text makes every character of it visible: quotes and
backslashes are escaped, and a character without a visible form of its own is
written by its code point.
-/

namespace Stencil.Text

/-- The hexadecimal digits of a number, in lower case and without leading
zeros. -/
def hexDigits (n : Nat) : List Char := Nat.toDigits 16 n

/-- Whether a character shows nothing, or nothing of its own. -/
def isHidden (c : Char) : Bool :=
  inRanges attachedRanges c || inRanges fillerRanges c || inRanges unprintableRanges c

/-- How a quotation shows one character. -/
def quotedChar (c : Char) : List Char :=
  if c = '\x00' then ['\\', '0']
  else if c = '\t' then ['\\', 't']
  else if c = '\r' then ['\\', 'r']
  else if c = '\n' then ['\\', 'n']
  else if c = '"' then ['\\', '"']
  else if c = '\\' then ['\\', '\\']
  else if isHidden c then
    ['\\', 'u', '\x7b'] ++ hexDigits c.toNat ++ ['\x7d']
  else [c]

/-- A text between double quotes. -/
def quoted (text : String) : String :=
  String.ofList ('"' :: text.toList.flatMap quotedChar ++ ['"'])

end Stencil.Text
