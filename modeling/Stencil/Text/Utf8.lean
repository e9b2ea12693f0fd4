/-!
# UTF-8

Octets are read by a machine that knows which continuation octets it is owed.
It cuts every sequence of octets into characters, refused runs of octets, and
at most one unfinished character at the end; a refused run is the longest
start of a character that the octets spell.
-/

namespace Stencil.Text

def octets (text : String) : List UInt8 :=
  text.toList.flatMap String.utf8EncodeChar

/-- What a run of octets stands for. -/
inductive Reading where
  /-- A character. -/
  | char (c : Char)
  /-- A run of octets, of the given length, that starts no character. -/
  | refused (length : Nat)
  /-- A run of octets, of the given length, that the end cuts off within a
  character. -/
  | unfinished (length : Nat)
  deriving DecidableEq, Repr

/-- A character whose first octets are read. -/
structure Pending where
  /-- How many octets are still owed. -/
  owed : Nat
  /-- The least next octet. -/
  low : UInt8
  /-- The greatest next octet. -/
  high : UInt8
  /-- The value of the octets read. -/
  value : Nat
  /-- How many octets are read. -/
  taken : Nat
  deriving DecidableEq, Repr

/-- Reads an octet where a character may start. -/
def beginChar (octet : UInt8) : List Reading × Option Pending :=
  let n := octet.toNat
  if n < 0x80 then ([.char (Char.ofNat n)], none)
  else if n < 0xC2 then ([.refused 1], none)
  else if n < 0xE0 then ([], some ⟨1, 0x80, 0xBF, n % 0x20, 1⟩)
  else if n = 0xE0 then ([], some ⟨2, 0xA0, 0xBF, 0, 1⟩)
  else if n = 0xED then ([], some ⟨2, 0x80, 0x9F, 0xD, 1⟩)
  else if n < 0xF0 then ([], some ⟨2, 0x80, 0xBF, n % 0x10, 1⟩)
  else if n = 0xF0 then ([], some ⟨3, 0x90, 0xBF, 0, 1⟩)
  else if n < 0xF4 then ([], some ⟨3, 0x80, 0xBF, n % 0x08, 1⟩)
  else if n = 0xF4 then ([], some ⟨3, 0x80, 0x8F, 4, 1⟩)
  else ([.refused 1], none)

/-- Reads an octet, given the character that is pending. -/
def readOctet (pending : Option Pending) (octet : UInt8) : List Reading × Option Pending :=
  match pending with
  | none => beginChar octet
  | some start =>
    if start.low ≤ octet ∧ octet ≤ start.high then
      let value := start.value * 0x40 + octet.toNat % 0x40
      if start.owed ≤ 1 then
        ([.char (Char.ofNat value)], none)
      else
        ([], some ⟨start.owed - 1, 0x80, 0xBF, value, start.taken + 1⟩)
    else
      let (readings, next) := beginChar octet
      (.refused start.taken :: readings, next)

/-- The readings of a sequence of octets, given the character that is pending. -/
def readingsFrom (pending : Option Pending) : List UInt8 → List Reading
  | [] =>
    match pending with
    | none => []
    | some start => [.unfinished start.taken]
  | octet :: rest =>
    let (readings, next) := readOctet pending octet
    readings ++ readingsFrom next rest

def readings (content : List UInt8) : List Reading := readingsFrom none content

/-- Why octets spell no text. -/
inductive Utf8Error where
  /-- The octets from the index on stop within a character. -/
  | incomplete (index : Nat)
  /-- A run of octets at the index starts no character. -/
  | invalid (length index : Nat)
  deriving DecidableEq, Repr

namespace Utf8Error

def message : Utf8Error → String
  | incomplete index => "incomplete utf-8 byte sequence from index " ++ toString index
  | invalid length index =>
    "invalid utf-8 sequence of " ++ toString length ++ " bytes from index " ++ toString index

end Utf8Error

/-- The characters of a list of readings that holds nothing else; `index` is where
the first of them starts. -/
def textOfReadings (index : Nat) : List Reading → Except Utf8Error (List Char)
  | [] => .ok []
  | .char c :: rest =>
    match textOfReadings (index + c.utf8Size) rest with
    | .ok text => .ok (c :: text)
    | .error error => .error error
  | .refused length :: _ => .error (.invalid length index)
  | .unfinished _ :: _ => .error (.incomplete index)

def decode (content : List UInt8) : Except Utf8Error String :=
  (textOfReadings 0 (readings content)).map String.ofList

/-- The character of a reading; the replacement character stands for a run that
is none. -/
def Reading.charOrReplacement : Reading → Char
  | .char c => c
  | .refused _ | .unfinished _ => '\ufffd'

/-- The text that octets spell, with replacement characters for what spells
none. -/
def decodeLossy (content : List UInt8) : String :=
  String.ofList ((readings content).map Reading.charOrReplacement)

end Stencil.Text
