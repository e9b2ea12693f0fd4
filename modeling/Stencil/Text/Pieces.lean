/-!
# Cutting and joining text at a separator

Qualified names are cut at dots and paths at slashes.  Cutting keeps empty
pieces, so joining the pieces again with the same separator gives back the
text (`join_pieces`).
-/

namespace Stencil.Text

/-- The pieces of a text between the occurrences of a separator; an empty text
has one empty piece. -/
def pieces (separator : Char) : List Char → List (List Char)
  | [] => [[]]
  | c :: rest =>
    if c = separator then
      [] :: pieces separator rest
    else
      match pieces separator rest with
      | [] => [[c]]
      | piece :: others => (c :: piece) :: others

/-- Texts put together with a separator between neighbours. -/
def join (separator : List Char) : List (List Char) → List Char
  | [] => []
  | [piece] => piece
  | piece :: others => piece ++ separator ++ join separator others

/-- The parts before and after the last occurrence of a separator. -/
def splitLast? (separator : Char) : List Char → Option (List Char × List Char)
  | [] => none
  | c :: rest =>
    match splitLast? separator rest with
    | some (before, after) => some (c :: before, after)
    | none => if c = separator then some ([], rest) else none

/-- Pieces of a string, as strings. -/
def split (separator : Char) (text : String) : List String :=
  (pieces separator text.toList).map String.ofList

theorem pieces_ne_nil (separator : Char) (text : List Char) :
    pieces separator text ≠ [] := by
  induction text with
  | nil => simp [pieces]
  | cons c rest ih =>
    by_cases same : c = separator
    · simp [pieces, same]
    · cases found : pieces separator rest <;> simp [pieces, same, found]

theorem join_pieces (separator : Char) (text : List Char) :
    join [separator] (pieces separator text) = text := by
  induction text with
  | nil => rfl
  | cons c rest ih =>
    by_cases same : c = separator
    · cases found : pieces separator rest with
      | nil => exact absurd found (pieces_ne_nil separator rest)
      | cons piece others =>
        rw [found] at ih
        simp [pieces, same, found, join, ih]
    · cases found : pieces separator rest with
      | nil => exact absurd found (pieces_ne_nil separator rest)
      | cons piece others =>
        rw [found] at ih
        cases others with
        | nil => simpa [pieces, same, found, join] using ih
        | cons next more => simpa [pieces, same, found, join] using ih

/-- No piece contains the separator. -/
theorem separator_not_mem_of_mem_pieces {separator : Char} {text piece : List Char}
    (member : piece ∈ pieces separator text) : separator ∉ piece := by
  induction text generalizing piece with
  | nil => simp_all [pieces]
  | cons c rest ih =>
    by_cases same : c = separator
    · simp only [pieces, same, if_true, List.mem_cons] at member
      rcases member with rfl | member
      · simp
      · exact ih member
    · cases found : pieces separator rest with
      | nil => exact absurd found (pieces_ne_nil separator rest)
      | cons first others =>
        rw [found] at ih
        simp only [pieces, same, found, if_false, List.mem_cons] at member
        rcases member with rfl | member
        · have absent := ih (List.mem_cons_self)
          simp [absent, Ne.symm same]
        · exact ih (List.mem_cons_of_mem _ member)

end Stencil.Text
