import Stencil.Digest.Hex

/-!
# Quoted text in TOML

Text stands between quotes of two kinds, each of which can be tripled to let
the text run over several lines.  Escapes count only between double quotes.
Readers start after the opening quotes and give the content and the characters
after the closing ones.
-/

namespace Stencil.Toml

/-- Whether a character separates tokens on a line. -/
def isSpace (c : Char) : Bool := c = ' ' || c = '\t'

/-- Whether a character can stand in comments and text as it is. -/
def isPlain (c : Char) : Bool := c = '\t' || (0x20 ≤ c.toNat && c.toNat ≠ 0x7F)

namespace Quoted

/-- The character for a letter after a backslash. -/
def escaped? : Char → Option Char
  | 'b' => some '\x08'
  | 't' => some '\t'
  | 'n' => some '\n'
  | 'f' => some '\x0c'
  | 'r' => some '\r'
  | '"' => some '"'
  | '\\' => some '\\'
  | _ => none

/-- The character with a code point in hexadecimal digits. -/
def codePoint? (digits : List Char) : Option Char := do
  let values ← digits.mapM Digest.hexValue?
  let n := values.foldl (fun n digit => 16 * n + digit) 0
  if n.isValidChar then some (Char.ofNat n) else none

/-- Text after some characters that were read before it. -/
def prepend (before : List Char) :
    Option (List Char × List Char) → Option (List Char × List Char)
  | some (content, rest) => some (before ++ content, rest)
  | none => none

def basic : List Char → Option (List Char × List Char)
  | [] => none
  | '"' :: rest => some ([], rest)
  | '\\' :: 'u' :: a :: b :: c :: d :: rest => do
    let found ← codePoint? [a, b, c, d]
    prepend [found] (basic rest)
  | '\\' :: 'U' :: a :: b :: c :: d :: e :: f :: g :: h :: rest => do
    let found ← codePoint? [a, b, c, d, e, f, g, h]
    prepend [found] (basic rest)
  | '\\' :: c :: rest => do
    let found ← escaped? c
    prepend [found] (basic rest)
  | c :: rest => if isPlain c then prepend [c] (basic rest) else none

def literal : List Char → Option (List Char × List Char)
  | [] => none
  | '\'' :: rest => some ([], rest)
  | c :: rest => if isPlain c then prepend [c] (literal rest) else none

/-- What follows three closing quotes: up to two more quotes belong to the
text. -/
def closing (quote : Char) : List Char → List Char × List Char
  | a :: b :: rest =>
    if a = quote then
      if b = quote then ([a, b], rest) else ([a], b :: rest)
    else ([], a :: b :: rest)
  | [a] => if a = quote then ([a], []) else ([], [a])
  | [] => ([], [])

/-- Whether nothing but space stands before the end of the line, and there is
another line. -/
def endsLine : List Char → Bool
  | '\n' :: _ | '\r' :: '\n' :: _ => true
  | c :: rest => isSpace c && endsLine rest
  | [] => false

/-- Text up to three double quotes.  After a backslash at the end of a line, space
and line breaks are skipped. -/
def basicLines (skipping : Bool) : List Char → Option (List Char × List Char)
  | [] => none
  | '"' :: '"' :: '"' :: rest => some (closing '"' rest)
  | '\n' :: rest => prepend (if skipping then [] else ['\n']) (basicLines skipping rest)
  | '\r' :: '\n' :: rest => prepend (if skipping then [] else ['\n']) (basicLines skipping rest)
  | '\\' :: 'u' :: a :: b :: c :: d :: rest => do
    let found ← codePoint? [a, b, c, d]
    prepend [found] (basicLines false rest)
  | '\\' :: 'U' :: a :: b :: c :: d :: e :: f :: g :: h :: rest => do
    let found ← codePoint? [a, b, c, d, e, f, g, h]
    prepend [found] (basicLines false rest)
  | '\\' :: c :: rest =>
    if endsLine (c :: rest) then basicLines true (c :: rest)
    else do
      let found ← escaped? c
      prepend [found] (basicLines false rest)
  | c :: rest =>
    if skipping && isSpace c then basicLines true rest
    else if isPlain c then prepend [c] (basicLines false rest)
    else none

/-- Text up to three single quotes. -/
def literalLines : List Char → Option (List Char × List Char)
  | [] => none
  | '\'' :: '\'' :: '\'' :: rest => some (closing '\'' rest)
  | '\n' :: rest => prepend ['\n'] (literalLines rest)
  | '\r' :: '\n' :: rest => prepend ['\n'] (literalLines rest)
  | c :: rest => if isPlain c then prepend [c] (literalLines rest) else none

/-- The characters after a line break, if they start with one. -/
def dropBreak : List Char → List Char
  | '\n' :: rest => rest
  | '\r' :: '\n' :: rest => rest
  | chars => chars

def oneLine : List Char → Option (List Char × List Char)
  | '"' :: rest => basic rest
  | '\'' :: rest => literal rest
  | _ => none

/-- Text with its opening quotes.  A line break right after three of them does not
count. -/
def anyLines : List Char → Option (List Char × List Char)
  | '"' :: '"' :: '"' :: rest => basicLines false (dropBreak rest)
  | '\'' :: '\'' :: '\'' :: rest => literalLines (dropBreak rest)
  | chars => oneLine chars

/-- The written form of a character between double quotes. -/
def writtenChar (c : Char) : List Char :=
  if c = '"' then ['\\', '"']
  else if c = '\\' then ['\\', '\\']
  else if c = '\x08' then ['\\', 'b']
  else if c = '\t' then ['\\', 't']
  else if c = '\n' then ['\\', 'n']
  else if c = '\x0c' then ['\\', 'f']
  else if c = '\r' then ['\\', 'r']
  else if isPlain c then [c]
  else
    ['\\', 'u', '0', '0', Digest.hexDigit (c.toNat / 16), Digest.hexDigit (c.toNat % 16)]

def write (text : String) : String :=
  String.ofList ('"' :: text.toList.flatMap writtenChar ++ ['"'])

end Quoted

end Stencil.Toml
