import Stencil.Text.CaseTable
import Stencil.Text.Ranges

/-!
# Lower-casing

Lower-casing works on whole texts, because a capital sigma has two lower-case
forms: the final one at the end of a word, and the other elsewhere.  The
capital letter I with a dot above becomes two characters; every other
character becomes one.
-/

namespace Stencil.Text

/-- Whether a character has a case. -/
def isCased : Char → Bool := inRanges casedRanges

/-- Whether a word may hold the character between cased ones. -/
def isCaseIgnorable : Char → Bool := inRanges caseIgnorableRanges

/-- The lower-case form of a character that stands alone. -/
def lowerCaseChar (c : Char) : List Char :=
  if c = '\u0130' then
    ['i', '\u0307']
  else
    match lowerCaseRuns.find? fun (first, last, step, _) =>
        decide (first ≤ c.toNat) && decide (c.toNat ≤ last) && (c.toNat - first) % step == 0 with
    | some (_, _, _, distance) => [Char.ofNat (c.toNat + distance).toNat]
    | none => [c]

/-- Whether the first character that a word does not ignore is a cased one. -/
def meetsCased (text : List Char) : Bool :=
  match text.dropWhile isCaseIgnorable with
  | c :: _ => isCased c
  | [] => false

/-- The lower-case form of a text, given the characters before it, the nearest
first. -/
def lowerCaseAfter (before : List Char) : List Char → List Char
  | [] => []
  | c :: rest =>
    let lower :=
      if c = 'Σ' then
        [if meetsCased before && !meetsCased rest then 'ς' else 'σ']
      else
        lowerCaseChar c
    lower ++ lowerCaseAfter (c :: before) rest

/-- The lower-case form of a text. -/
def lowerCase (text : String) : List Char :=
  lowerCaseAfter [] text.toList

end Stencil.Text
