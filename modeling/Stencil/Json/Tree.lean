import Stencil.Json.Token

/-!
# Trees of JSON texts

The tree of a text holds the text as far as it is well formed, and at the
first place where it is not, a mark that says what is wrong.  Readers go over
the tree from left to right, so they meet the mark only if nothing before it
displeases them.  What exactly is at fault can depend on whether a value is
read or skipped; both faults are given here.
-/

namespace Stencil.Json

/-- How a list or an object ends. -/
inductive Ending where
  /-- With its bracket. -/
  | closed
  /-- The text ends where a comma or the bracket is due. -/
  | unfinished
  /-- Something else stands where a comma or the bracket is due. -/
  | stray
  /-- A comma stands before the bracket. -/
  | danglingComma
  /-- The text ends after a comma. -/
  | commaAtEnd
  /-- Something else than a text stands where a key is due. -/
  | badKey
  deriving DecidableEq, Repr

/-- Why there is no value where one is due. -/
inductive Breakage where
  /-- The text ends. -/
  | endOfText
  /-- Something else stands there. -/
  | noValue
  | cutWord
  | misspeltWord
  | cutNumber
  | malformedNumber
  /-- The text ends before the colon after a key. -/
  | cutColon
  /-- Something else stands where the colon after a key is due. -/
  | noColon
  deriving DecidableEq, Repr

/-- The tree of a text. -/
inductive Tree where
  | null
  | bool (b : Bool)
  | number (lexeme : Lexeme)
  | text (quoted : Quoted)
  | list (items : List Tree) (ending : Ending)
  | object (fields : List (Quoted × Tree)) (ending : Ending)
  | broken (breakage : Breakage)
  deriving Repr

/-- A list or an object that is still open around the place that is read, with
what it holds so far in reverse. -/
inductive Frame where
  | items (done : List Tree)
  | field (done : List (Quoted × Tree)) (key : Quoted)
  deriving Repr

/-- What is due at the place that is read. -/
inductive Place where
  /-- A value. -/
  | value (frames : List Frame)
  /-- A first item, or the end of the list. -/
  | firstItem (frames : List Frame)
  /-- An item after a comma. -/
  | item (frames : List Frame) (done : List Tree)
  /-- A comma or the end of the list. -/
  | afterItem (frames : List Frame) (done : List Tree)
  /-- A first key, or the end of the object. -/
  | firstKey (frames : List Frame)
  /-- A key after a comma. -/
  | nextKey (frames : List Frame) (done : List (Quoted × Tree))
  /-- The colon after a key. -/
  | colon (frames : List Frame) (done : List (Quoted × Tree)) (key : Quoted)
  /-- A comma or the end of the object. -/
  | afterField (frames : List Frame) (done : List (Quoted × Tree))
  /-- The end of the text. -/
  | finished (tree : Tree)
  /-- Nothing more is read; `surplus` says that the tree is whole and something
  follows it. -/
  | halted (tree : Tree) (surplus : Bool)
  deriving Repr

/-- The place after a value. -/
def Place.after (tree : Tree) : List Frame → Place
  | [] => .finished tree
  | .items done :: frames => .afterItem frames (tree :: done)
  | .field done key :: frames => .afterField frames ((key, tree) :: done)

/-- The whole tree when reading stops at an inner one. -/
def enclose (tree : Tree) : List Frame → Tree
  | [] => tree
  | .items done :: frames => enclose (.list (tree :: done).reverse .unfinished) frames
  | .field done key :: frames =>
    enclose (.object ((key, tree) :: done).reverse .unfinished) frames

def stop (tree : Tree) (frames : List Frame) : Place := .halted (enclose tree frames) false

/-- Reads a token where a value is due. -/
def readValue (frames : List Frame) : Token → Place
  | .null => .after .null frames
  | .bool b => .after (.bool b) frames
  | .number lexeme => .after (.number lexeme) frames
  | .text quoted =>
    if quoted.ending = .closed then .after (.text quoted) frames
    else stop (.text quoted) frames
  | .openList => .firstItem frames
  | .openObject => .firstKey frames
  | .cutWord => stop (.broken .cutWord) frames
  | .misspeltWord => stop (.broken .misspeltWord) frames
  | .cutNumber => stop (.broken .cutNumber) frames
  | .malformedNumber => stop (.broken .malformedNumber) frames
  | .closeList | .closeObject | .comma | .colon | .stray => stop (.broken .noValue) frames

/-- Reads a token where a key is due. -/
def readKey (frames : List Frame) (done : List (Quoted × Tree)) : Token → Place
  | .text quoted =>
    if quoted.ending = .closed then .colon frames done quoted
    else stop (.object ((quoted, .null) :: done).reverse .unfinished) frames
  | _ => stop (.object done.reverse .badKey) frames

/-- Reads a token. -/
def Place.step (place : Place) (token : Token) : Place :=
  match place with
  | .value frames => readValue frames token
  | .firstItem frames =>
    if token = .closeList then .after (.list [] .closed) frames
    else readValue (.items [] :: frames) token
  | .item frames done =>
    if token = .closeList then stop (.list done.reverse .danglingComma) frames
    else readValue (.items done :: frames) token
  | .afterItem frames done =>
    if token = .closeList then .after (.list done.reverse .closed) frames
    else if token = .comma then .item frames done
    else stop (.list done.reverse .stray) frames
  | .firstKey frames =>
    if token = .closeObject then .after (.object [] .closed) frames
    else readKey frames [] token
  | .nextKey frames done =>
    if token = .closeObject then stop (.object done.reverse .danglingComma) frames
    else readKey frames done token
  | .colon frames done key =>
    if token = .colon then .value (.field done key :: frames)
    else stop (.object ((key, .broken .noColon) :: done).reverse .unfinished) frames
  | .afterField frames done =>
    if token = .closeObject then .after (.object done.reverse .closed) frames
    else if token = .comma then .nextKey frames done
    else stop (.object done.reverse .stray) frames
  | .finished tree => .halted tree true
  | .halted tree surplus => .halted tree surplus

/-- The tree, and whether something follows it, when the text ends. -/
def Place.finish : Place → Tree × Bool
  | value frames => (enclose (.broken .endOfText) frames, false)
  | firstItem frames => (enclose (.list [] .unfinished) frames, false)
  | item frames done => (enclose (.list done.reverse .commaAtEnd) frames, false)
  | afterItem frames done => (enclose (.list done.reverse .unfinished) frames, false)
  | firstKey frames => (enclose (.object [] .unfinished) frames, false)
  | nextKey frames done => (enclose (.object done.reverse .commaAtEnd) frames, false)
  | colon frames done key =>
    (enclose (.object ((key, .broken .cutColon) :: done).reverse .unfinished) frames, false)
  | afterField frames done => (enclose (.object done.reverse .unfinished) frames, false)
  | finished tree => (tree, false)
  | halted tree surplus => (tree, surplus)

/-- The tree that tokens spell, and whether something follows it. -/
def Tree.ofTokens (tokens : List Token) : Tree × Bool :=
  (tokens.foldl Place.step (.value [])).finish

/-- The tree of a text, and whether something follows it. -/
def Tree.ofText (text : String) : Tree × Bool := Tree.ofTokens (tokens text)

/-- The fault of a missing value that is to be read. -/
def Breakage.fault : Breakage → Fault
  | endOfText | cutWord | cutNumber => .endInValue
  | noValue => .expectedValue
  | misspeltWord => .expectedWord
  | malformedNumber => .invalidNumber
  | cutColon => .endInObject
  | noColon => .expectedColon

/-- The fault of a missing value that is to be skipped. -/
def Breakage.skipFault : Breakage → Fault
  | cutNumber => .invalidNumber
  | other => other.fault

/-- Whether a list may end so, and its fault if not. -/
def Ending.closesList : Ending → Except Fault Unit
  | closed => .ok ()
  | unfinished => .error .endInList
  | stray | badKey => .error .expectedCommaOrListEnd
  | danglingComma => .error .trailingComma
  | commaAtEnd => .error .endInValue

/-- Whether an object may end so, and its fault if not. -/
def Ending.closesObject : Ending → Except Fault Unit
  | closed => .ok ()
  | unfinished => .error .endInObject
  | stray => .error .expectedCommaOrObjectEnd
  | danglingComma => .error .trailingComma
  | commaAtEnd => .error .endInValue
  | badKey => .error .keyNotText

/-- Whether a skipped list may end so, and its fault if not. -/
def Ending.closesSkippedList : Ending → Except Fault Unit
  | danglingComma => .error .expectedValue
  | other => other.closesList

/-- Whether a skipped object may end so, and its fault if not. -/
def Ending.closesSkippedObject : Ending → Except Fault Unit
  | danglingComma => .error .keyNotText
  | commaAtEnd => .error .endInObject
  | other => other.closesObject

mutual

/-- Passes over a value, looking only at its form. -/
def Tree.skip : Tree → Except Fault Unit
  | .null | .bool _ | .number _ => .ok ()
  | .text quoted => quoted.skip
  | .list items ending => do
    skipItems items
    ending.closesSkippedList
  | .object fields ending => do
    skipFields fields
    ending.closesSkippedObject
  | .broken breakage => .error breakage.skipFault
termination_by structural tree => tree

/-- Passes over the items of a list. -/
def skipItems : List Tree → Except Fault Unit
  | [] => .ok ()
  | item :: rest => do
    item.skip
    skipItems rest
termination_by structural items => items

/-- Passes over the fields of an object. -/
def skipFields : List (Quoted × Tree) → Except Fault Unit
  | [] => .ok ()
  | (key, value) :: rest => do
    key.skip
    value.skip
    skipFields rest
termination_by structural fields => fields

end

end Stencil.Json
