import Stencil.Decimal.Layout
import Stencil.Json.Basic
import Stencil.Text.Quotation

/-!
# Faults of JSON texts

Why a text or a value is refused, and the wording of each reason.  The first
group of reasons concerns the form of a text, the second what a reader
expected to find in it.
-/

namespace Stencil.Json

/-- What a reader found instead of what it expected. -/
inductive Found where
  | null
  | bool (b : Bool)
  | number (n : Number)
  | text (s : String)
  | list
  | object
  deriving DecidableEq, Repr

/-- A reason to refuse a text or a value. -/
inductive Fault where
  | endInValue
  | endInList
  | endInObject
  | endInText
  | expectedValue
  | expectedWord
  | expectedColon
  | expectedCommaOrListEnd
  | expectedCommaOrObjectEnd
  | trailingComma
  | trailingCharacters
  | keyNotText
  | invalidNumber
  | numberOutOfRange
  | invalidEscape
  | escapeCutShort
  | loneSurrogate
  | controlCharacter
  | tooDeep
  | invalidType (found : Found) (expected : String)
  | invalidValue (found : Found) (expected : String)
  | invalidLength (length : Nat) (expected : String)
  | missingField (key : String)
  | duplicateField (key : String)
  | unknownVariant (variant : String) (variants : List String)
  | noMatchingForm (typeName : String)
  deriving DecidableEq, Repr

/-- A text between backticks. -/
def ticked (text : String) : String := "`" ++ text ++ "`"

/-- A number in a message. -/
def Number.phrase : Number → String
  | natural n => "integer " ++ ticked (toString n)
  | negative n => "integer " ++ ticked ("-" ++ toString n)
  | decimal x => "floating point " ++ ticked (String.ofList (Decimal.Layout.standard.render x))

/-- What was found, in a message. -/
def Found.phrase : Found → String
  | null => "null"
  | bool b => "boolean " ++ ticked (if b then "true" else "false")
  | number n => n.phrase
  | text s => "string " ++ Text.quoted s
  | list => "sequence"
  | object => "map"

/-- The names of the variants that would have been accepted. -/
def choicePhrase : List String → String
  | [] => "nothing"
  | [one] => ticked one
  | [one, other] => ticked one ++ " or " ++ ticked other
  | more => "one of " ++ String.intercalate ", " (more.map ticked)

/-- The wording of a fault. -/
def Fault.message : Fault → String
  | endInValue => "EOF while parsing a value"
  | endInList => "EOF while parsing a list"
  | endInObject => "EOF while parsing an object"
  | endInText => "EOF while parsing a string"
  | expectedValue => "expected value"
  | expectedWord => "expected ident"
  | expectedColon => "expected `:`"
  | expectedCommaOrListEnd => "expected `,` or `]`"
  | expectedCommaOrObjectEnd => "expected `,` or `\x7d`"
  | trailingComma => "trailing comma"
  | trailingCharacters => "trailing characters"
  | keyNotText => "key must be a string"
  | invalidNumber => "invalid number"
  | numberOutOfRange => "number out of range"
  | invalidEscape => "invalid escape"
  | escapeCutShort => "unexpected end of hex escape"
  | loneSurrogate => "lone leading surrogate in hex escape"
  | controlCharacter => "control character (\\u0000-\\u001F) found while parsing a string"
  | tooDeep => "recursion limit exceeded"
  | invalidType found expected => "invalid type: " ++ found.phrase ++ ", expected " ++ expected
  | invalidValue found expected => "invalid value: " ++ found.phrase ++ ", expected " ++ expected
  | invalidLength length expected =>
    "invalid length " ++ toString length ++ ", expected " ++ expected
  | missingField key => "missing field " ++ ticked key
  | duplicateField key => "duplicate field " ++ ticked key
  | unknownVariant variant variants =>
    "unknown variant " ++ ticked variant ++ ", expected " ++ choicePhrase variants
  | noMatchingForm typeName => "data did not match any variant of untagged enum " ++ typeName

end Stencil.Json
