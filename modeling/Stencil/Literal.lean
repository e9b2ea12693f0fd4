import Stencil.Digest.Hex

/-!
# String literals

Names appear in generated sources between double quotes, either as they are or
with every character escaped that could not stand there.
-/

namespace Stencil.Literal

/-- Whether a character is a control character. -/
def isControl (c : Char) : Bool :=
  c.toNat ≤ 0x1F || (0x7F ≤ c.toNat && c.toNat ≤ 0x9F)

/-- Four hexadecimal digits of a number. -/
def fourDigits (n : Nat) : List Char :=
  [n / 4096 % 16, n / 256 % 16, n / 16 % 16, n % 16].map Digest.hexDigit

/-- The form of a character within a literal. -/
def escapedChar (c : Char) : List Char :=
  if c = '"' then ['\\', '"']
  else if c = '\\' then ['\\', '\\']
  else if c = '\n' then ['\\', 'n']
  else if c = '\r' then ['\\', 'r']
  else if c = '\t' then ['\\', 't']
  else if c = '\x08' then ['\\', 'b']
  else if c = '\x0c' then ['\\', 'f']
  else if isControl c then '\\' :: 'u' :: fourDigits c.toNat
  else [c]

/-- A text escaped for use between double quotes. -/
def escape (text : String) : String :=
  String.ofList (text.toList.flatMap escapedChar)

end Stencil.Literal
