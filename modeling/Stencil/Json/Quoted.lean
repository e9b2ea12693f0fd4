import Stencil.Digest.Hex
import Stencil.Json.Fault

/-!
# Quoted texts

A quoted text is kept as it is written, because it can be met in two ways.
Who reads it wants its characters, and refuses an escaped half of a surrogate
pair without the other half.  Who skips it only asks that its escapes are well
formed and that it ends.
-/

namespace Stencil.Json

/-- A character of a quoted text as it is written. -/
inductive TextUnit where
  /-- A character that stands for itself or has a short escape. -/
  | char (c : Char)
  /-- An escape by four hexadecimal digits. -/
  | code (value : Nat)
  deriving DecidableEq, Repr

/-- How a quoted text ends. -/
inductive TextEnd where
  | closed
  | endOfText
  | controlCharacter
  | unknownEscape
  | malformedCode
  deriving DecidableEq, Repr

/-- A quoted text as it is written. -/
structure Quoted where
  units : List TextUnit
  ending : TextEnd
  deriving DecidableEq, Repr

/-- The fault of an end, if it is one. -/
def TextEnd.fault? : TextEnd → Option Fault
  | closed => none
  | endOfText => some .endInText
  | controlCharacter => some .controlCharacter
  | unknownEscape | malformedCode => some .invalidEscape

/-- The fault of an end that comes where the second half of a surrogate pair is
due. -/
def TextEnd.faultInPair : TextEnd → Fault
  | endOfText => .endInText
  | malformedCode => .invalidEscape
  | closed | controlCharacter | unknownEscape => .escapeCutShort

/-- Whether a code is the first half of a surrogate pair. -/
def isLeadingSurrogate (code : Nat) : Bool := 0xD800 ≤ code && code ≤ 0xDBFF

/-- Whether a code is the second half of a surrogate pair. -/
def isTrailingSurrogate (code : Nat) : Bool := 0xDC00 ≤ code && code ≤ 0xDFFF

/-- The character of a surrogate pair. -/
def surrogatePair (leading trailing : Nat) : Char :=
  Char.ofNat ((leading - 0xD800) * 0x400 + (trailing - 0xDC00) + 0x10000)

/-- The characters of a quoted text. -/
def readUnits (ending : TextEnd) : List TextUnit → Except Fault (List Char)
  | [] =>
    match ending.fault? with
    | none => .ok []
    | some fault => .error fault
  | .char c :: rest => (readUnits ending rest).map (c :: ·)
  | .code leading :: rest =>
    if isTrailingSurrogate leading then
      .error .loneSurrogate
    else if isLeadingSurrogate leading then
      match rest with
      | [] => .error ending.faultInPair
      | .char _ :: _ => .error .escapeCutShort
      | .code trailing :: more =>
        if isTrailingSurrogate trailing then
          (readUnits ending more).map (surrogatePair leading trailing :: ·)
        else
          .error .loneSurrogate
    else
      (readUnits ending rest).map (Char.ofNat leading :: ·)

/-- The text that is quoted. -/
def Quoted.read (q : Quoted) : Except Fault String :=
  (readUnits q.ending q.units).map String.ofList

/-- Passes over a quoted text. -/
def Quoted.skip (q : Quoted) : Except Fault Unit :=
  match q.ending.fault? with
  | none => .ok ()
  | some fault => .error fault

end Stencil.Json
