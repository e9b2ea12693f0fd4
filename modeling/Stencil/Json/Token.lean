import Stencil.Json.Lexeme
import Stencil.Json.Quoted

/-!
# Tokens of JSON texts

A text is cut into tokens by a machine that reads one character at a time.
What cannot be a token becomes a token that says so and is the last one;
whether it is a fault of its own or merely out of place depends on what is
expected there, and is decided later.
-/

namespace Stencil.Json

/-- A token of a JSON text. -/
inductive Token where
  | openList
  | closeList
  | openObject
  | closeObject
  | comma
  | colon
  | null
  | bool (b : Bool)
  | number (lexeme : Lexeme)
  | text (quoted : Quoted)
  /-- The text ends within one of the words null, true and false. -/
  | cutWord
  /-- One of these words goes on with a wrong letter. -/
  | misspeltWord
  /-- The text ends within a number. -/
  | cutNumber
  /-- A number goes on with a wrong character. -/
  | malformedNumber
  /-- A character that starts no token. -/
  | stray
  deriving DecidableEq, Repr

/-- Where in a number the machine stands. -/
inductive NumberPart where
  /-- After a sign. -/
  | sign
  /-- After a zero that comes first. -/
  | zero
  /-- Among the digits before the point. -/
  | whole
  /-- After the point. -/
  | point
  /-- Among the digits after the point. -/
  | fraction
  /-- After the exponent's letter. -/
  | mark
  /-- After the exponent's sign. -/
  | exponentSign
  /-- Among the exponent's digits. -/
  | exponent
  deriving DecidableEq, Repr

/-- A number that is being read; digits are kept in reverse. -/
structure NumberDraft where
  part : NumberPart
  negative : Bool
  whole : List Nat
  fraction : List Nat
  exponentNegative : Bool
  exponent : List Nat
  deriving DecidableEq, Repr

/-- Where in a quoted text the machine stands. -/
inductive QuotedPart where
  /-- Between units. -/
  | plain
  /-- After a backslash. -/
  | escape
  /-- Among the characters of a four-digit escape. -/
  | code (taken : List Char)
  deriving DecidableEq, Repr

/-- Where the machine stands. -/
inductive Mode where
  /-- Between tokens. -/
  | between
  /-- Within a word, with the letters still due. -/
  | word (due : List Char) (token : Token)
  /-- Within a number. -/
  | number (draft : NumberDraft)
  /-- Within a quoted text, with its units in reverse. -/
  | quoted (units : List TextUnit) (part : QuotedPart)
  /-- After a token that is the last one. -/
  | halted
  deriving DecidableEq, Repr

/-- The value of a decimal digit. -/
def digit? (c : Char) : Option Nat :=
  if '0' ≤ c ∧ c ≤ '9' then some (c.toNat - 48) else none

/-- Whether a character may stand between tokens. -/
def isSpace (c : Char) : Bool :=
  c = ' ' || c = '\t' || c = '\n' || c = '\r'

/-- The draft of a number that starts with a digit. -/
def NumberDraft.ofDigit (digit : Nat) : NumberDraft :=
  ⟨if digit = 0 then .zero else .whole, false, [digit], [], false, []⟩

/-- The draft of a number that starts with a sign. -/
def NumberDraft.ofSign : NumberDraft := ⟨.sign, true, [], [], false, []⟩

/-- Reads a character between tokens. -/
def begin (c : Char) : List Token × Mode :=
  if isSpace c then ([], .between)
  else if c = '[' then ([.openList], .between)
  else if c = ']' then ([.closeList], .between)
  else if c = '\x7b' then ([.openObject], .between)
  else if c = '\x7d' then ([.closeObject], .between)
  else if c = ',' then ([.comma], .between)
  else if c = ':' then ([.colon], .between)
  else if c = '"' then ([], .quoted [] .plain)
  else if c = '-' then ([], .number .ofSign)
  else if c = 'n' then ([], .word ['u', 'l', 'l'] .null)
  else if c = 't' then ([], .word ['r', 'u', 'e'] (.bool true))
  else if c = 'f' then ([], .word ['a', 'l', 's', 'e'] (.bool false))
  else
    match digit? c with
    | some digit => ([], .number (.ofDigit digit))
    | none => ([.stray], .halted)

/-- The finished lexeme of a draft, unless a character is still due. -/
def NumberDraft.lexeme? (d : NumberDraft) : Option Lexeme :=
  match d.part with
  | .zero | .whole | .fraction =>
    some ⟨d.negative, d.whole.reverse, d.fraction.reverse, none⟩
  | .exponent =>
    some ⟨d.negative, d.whole.reverse, d.fraction.reverse,
      some (d.exponentNegative, d.exponent.reverse)⟩
  | .sign | .point | .mark | .exponentSign => none

/-- What a character does to a number. -/
inductive NumberStep where
  /-- The number goes on. -/
  | more (draft : NumberDraft)
  /-- The character is not part of the number any more. -/
  | done
  /-- The number cannot go on so. -/
  | malformed

/-- Reads a character within a number. -/
def NumberDraft.step (d : NumberDraft) (c : Char) : NumberStep :=
  let isMark := c = 'e' || c = 'E'
  match d.part, digit? c with
  | .sign, some digit =>
    .more { d with part := if digit = 0 then .zero else .whole, whole := [digit] }
  | .zero, some _ => .malformed
  | .whole, some digit => .more { d with whole := digit :: d.whole }
  | .point, some digit | .fraction, some digit =>
    .more { d with part := .fraction, fraction := digit :: d.fraction }
  | .mark, some digit | .exponentSign, some digit | .exponent, some digit =>
    .more { d with part := .exponent, exponent := digit :: d.exponent }
  | .zero, none | .whole, none =>
    if c = '.' then .more { d with part := .point }
    else if isMark then .more { d with part := .mark }
    else .done
  | .fraction, none => if isMark then .more { d with part := .mark } else .done
  | .mark, none =>
    if c = '+' then .more { d with part := .exponentSign }
    else if c = '-' then .more { d with part := .exponentSign, exponentNegative := true }
    else .malformed
  | .exponent, none => .done
  | .sign, none | .point, none | .exponentSign, none => .malformed

/-- The value of four hexadecimal digits. -/
def codeValue? (taken : List Char) : Option Nat :=
  if taken.length = 4 then
    taken.foldlM (fun n c => (Digest.hexValue? c).map (16 * n + ·)) 0
  else
    none

/-- How many octets characters take. -/
def octetCount (text : List Char) : Nat :=
  text.foldl (fun count c => count + c.utf8Size) 0

/-- The character of a short escape. -/
def shortEscape? (c : Char) : Option Char :=
  if c = '"' ∨ c = '\\' ∨ c = '/' then some c
  else if c = 'b' then some '\x08'
  else if c = 'f' then some '\x0c'
  else if c = 'n' then some '\n'
  else if c = 'r' then some '\r'
  else if c = 't' then some '\t'
  else none

/-- Reads a character within a quoted text.  A four-digit escape takes four
octets before it looks at them. -/
def readQuoted (units : List TextUnit) (part : QuotedPart) (c : Char) : List Token × Mode :=
  let ends (ending : TextEnd) : List Token × Mode :=
    ([.text ⟨units.reverse, ending⟩], if ending = .closed then .between else .halted)
  match part with
  | .plain =>
    if c = '"' then ends .closed
    else if c = '\\' then ([], .quoted units .escape)
    else if c.toNat < 0x20 then ends .controlCharacter
    else ([], .quoted (.char c :: units) .plain)
  | .escape =>
    if c = 'u' then ([], .quoted units (.code []))
    else
      match shortEscape? c with
      | some meant => ([], .quoted (.char meant :: units) .plain)
      | none => ends .unknownEscape
  | .code taken =>
    let taken := taken ++ [c]
    if octetCount taken < 4 then ([], .quoted units (.code taken))
    else
      match codeValue? taken with
      | some value => ([], .quoted (.code value :: units) .plain)
      | none => ends .malformedCode

/-- Reads a character. -/
def Mode.step : Mode → Char → List Token × Mode
  | between, c => begin c
  | word due token, c =>
    match due with
    | [] => ([.misspeltWord], .halted)
    | letter :: more =>
      if c ≠ letter then ([.misspeltWord], .halted)
      else if more = [] then ([token], .between)
      else ([], .word more token)
  | number draft, c =>
    match draft.step c with
    | .more next => ([], .number next)
    | .malformed => ([.malformedNumber], .halted)
    | .done =>
      match draft.lexeme? with
      | some lexeme =>
        let (tokens, mode) := begin c
        (.number lexeme :: tokens, mode)
      | none => ([.malformedNumber], .halted)
  | quoted units part, c => readQuoted units part c
  | halted, _ => ([], .halted)

/-- The tokens due when the text ends. -/
def Mode.finish : Mode → List Token
  | between | halted => []
  | word _ _ => [.cutWord]
  | number draft =>
    match draft.lexeme? with
    | some lexeme => [.number lexeme]
    | none => [.cutNumber]
  | quoted units _ => [.text ⟨units.reverse, .endOfText⟩]

/-- The tokens of a text, from a state of the machine on. -/
def tokensFrom (mode : Mode) : List Char → List Token
  | [] => mode.finish
  | c :: rest =>
    let (tokens, next) := mode.step c
    tokens ++ tokensFrom next rest

/-- The tokens of a text. -/
def tokens (text : String) : List Token := tokensFrom .between text.toList

end Stencil.Json
