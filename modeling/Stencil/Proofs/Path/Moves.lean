import Stencil.Proofs.Path.Derived

/-!
# The moves of a path

A path says to go into what has a name, or to the folder above; dots and repeated
slashes say nothing.  These moves, together with whether the path starts at the root,
are all that decides where it leads, and every operation on paths is an operation on
moves.  A path that goes on from a folder with names alone leads below this folder.
-/

namespace Stencil

/-- What a component says to do, if anything. -/
def Component.move? : Component → Option String
  | .name given => some given
  | .parent => some ".."
  | .root | .current => none

namespace Path

def movesOf (pieces : List Piece) : List String :=
  pieces.filterMap fun piece => piece.2.bind Component.move?

/-- What a path says to do one after the other. -/
def moves (path : Path) : List String := path.components.filterMap Component.move?

/-- The component that a move stands for. -/
def componentOfMove (move : String) : Component := if move = ".." then .parent else .name move

theorem map_componentOfMove {moves : List String} (onward : ".." ∉ moves) :
    moves.map componentOfMove = moves.map .name := by
  apply List.map_congr_left
  intro move member
  exact if_neg fun same : move = ".." => onward (same ▸ member)

/-- The components of a path without the dot that may start it. -/
def plainComponents (path : Path) : List Component := path.components.filter (· ≠ .current)

theorem movesOf_eq_filterMap (pieces : List Piece) :
    movesOf pieces = (pieces.filterMap (·.2)).filterMap Component.move? :=
  List.filterMap_filterMap.symm

theorem moves_eq_movesOf (path : Path) : path.moves = movesOf path.pieces := by
  have root : ((if path.isAbsolute then [Component.root] else []).filterMap Component.move?) =
      [] := by
    cases path.isAbsolute with
    | true => simp [Component.move?]
    | false => rfl
  unfold moves components
  rw [List.filterMap_append, root, List.nil_append, movesOf_eq_filterMap]

theorem movesOf_append (first second : List Piece) :
    movesOf (first ++ second) = movesOf first ++ movesOf second := List.filterMap_append

theorem movesOf_blank {blank : List Piece} (none_found : ∀ piece ∈ blank, piece.2 = none) :
    movesOf blank = [] := by
  apply List.filterMap_eq_nil_iff.mpr
  intro piece member
  rw [none_found piece member]
  rfl

theorem movesOf_trimEnd (pieces : List Piece) : movesOf (trimEnd pieces) = movesOf pieces := by
  obtain ⟨blank, whole, none_found⟩ := exists_trimEnd pieces
  conv_rhs => rw [whole, movesOf_append, movesOf_blank none_found, List.append_nil]

theorem movesOf_trimStart (pieces : List Piece) :
    movesOf (trimStart pieces) = movesOf pieces := by
  have blank : ∀ piece ∈ pieces.takeWhile (·.2.isNone), piece.2 = none := by
    intro piece member
    have none_found : piece.2.isNone = true :=
      List.mem_takeWhile_imp (p := fun piece : Piece => piece.2.isNone) member
    exact Option.isNone_iff_eq_none.mp none_found
  have whole : pieces.takeWhile (·.2.isNone) ++ trimStart pieces = pieces :=
    List.takeWhile_append_dropWhile
  conv_rhs => rw [← whole, movesOf_append, movesOf_blank blank, List.nil_append]

theorem componentOf_cases (leads : Bool) (text : List Char) :
    (text = [] ∧ componentOf leads text = none) ∨
    (text = ['.'] ∧ (componentOf leads text = none ∨ componentOf leads text = some .current)) ∨
    (text = ['.', '.'] ∧ componentOf leads text = some .parent) ∨
    ∃ name, text = name.toList ∧ componentOf leads text = some (.name name) ∧
      name ≠ "" ∧ name ≠ "." ∧ name ≠ ".." := by
  have listed {other : String} (same : String.ofList text = other) : text = other.toList := by
    rw [← same, String.toList_ofList]
  by_cases empty : text = []
  · exact .inl ⟨empty, if_pos empty⟩
  by_cases dot : text = ['.']
  · refine .inr (.inl ⟨dot, ?_⟩)
    subst dot
    cases leads with
    | true => exact .inr rfl
    | false => exact .inl rfl
  by_cases dots : text = ['.', '.']
  · subst dots
    exact .inr (.inr (.inl ⟨rfl, rfl⟩))
  · refine .inr (.inr (.inr ⟨String.ofList text, String.toList_ofList.symm, ?_,
      fun same => empty (listed same), fun same => dot (listed same),
      fun same => dots (listed same)⟩))
    simp only [componentOf, empty, dot, dots, if_false]

/-- What a piece says to follow and its component agree on its move. -/
theorem movesOf_single {piece : Piece} (marked : ∃ leads, piece.2 = componentOf leads piece.1) :
    (stepsOf [piece]).filter (· ≠ ".") = movesOf [piece] ∧
      ([piece].filterMap (·.2)).filter (· ≠ .current) = (movesOf [piece]).map componentOfMove := by
  obtain ⟨text, component⟩ := piece
  obtain ⟨leads, found⟩ := marked
  dsimp only at found
  subst found
  rcases componentOf_cases leads text with ⟨rfl, blank⟩ | ⟨rfl, blank | current⟩ |
    ⟨rfl, parent⟩ | ⟨name, rfl, named, filled, noDot, noDots⟩
  · rw [blank]
    exact ⟨rfl, rfl⟩
  · rw [blank]
    exact ⟨rfl, rfl⟩
  · rw [current]
    exact ⟨rfl, rfl⟩
  · rw [parent]
    exact ⟨rfl, rfl⟩
  · have some_text : name.toList ≠ [] := fun same => filled (String.toList_injective same)
    rw [named]
    simp [stepsOf, movesOf, Component.move?, componentOfMove, some_text, noDot, noDots]

section Marked

variable {pieces : List Piece}
  (marked : ∀ piece ∈ pieces, ∃ leads, piece.2 = componentOf leads piece.1)

include marked

/-- The moves of pieces are the texts that they say to follow, without dots. -/
theorem filter_stepsOf : (stepsOf pieces).filter (· ≠ ".") = movesOf pieces := by
  induction pieces with
  | nil => rfl
  | cons first rest ih =>
    have later := ih fun piece member => marked piece (List.mem_cons_of_mem _ member)
    have whole : first :: rest = [first] ++ rest := rfl
    rw [whole, stepsOf_append, movesOf_append, List.filter_append, later,
      (movesOf_single (marked first List.mem_cons_self)).1]

/-- The components of pieces, without a dot, stand for their moves. -/
theorem filter_filterMap :
    (pieces.filterMap (·.2)).filter (· ≠ .current) = (movesOf pieces).map componentOfMove := by
  induction pieces with
  | nil => rfl
  | cons first rest ih =>
    have later := ih fun piece member => marked piece (List.mem_cons_of_mem _ member)
    have whole : first :: rest = [first] ++ rest := rfl
    rw [whole, List.filterMap_append, movesOf_append, List.filter_append, List.map_append, later,
      (movesOf_single (marked first List.mem_cons_self)).2]

theorem filled_of_mem_movesOf {move : String} (member : move ∈ movesOf pieces) :
    move ≠ "" ∧ move ≠ "." := by
  rw [← filter_stepsOf marked] at member
  obtain ⟨step, other⟩ := List.mem_filter.mp member
  obtain ⟨text, filled, rfl⟩ := List.mem_map.mp step
  refine ⟨?_, of_decide_eq_true other⟩
  intro empty
  exact of_decide_eq_true (List.mem_filter.mp filled).2 (String.ofList_eq_empty_iff.mp empty)

end Marked

theorem moves_eq_steps (path : Path) : path.moves = path.steps.filter (· ≠ ".") := by
  rw [steps_eq, filter_stepsOf fun piece member => exists_componentOf member, moves_eq_movesOf]

theorem plainComponents_eq (path : Path) :
    path.plainComponents =
      (if path.isAbsolute then [.root] else []) ++ path.moves.map componentOfMove := by
  have root : ((if path.isAbsolute then [Component.root] else []).filter (· ≠ .current)) =
      if path.isAbsolute then [.root] else [] := by
    cases path.isAbsolute with
    | true => rfl
    | false => rfl
  unfold plainComponents components
  rw [List.filter_append, root, filter_filterMap fun piece member => exists_componentOf member,
    moves_eq_movesOf]

theorem filled_of_mem_moves {path : Path} {move : String} (member : move ∈ path.moves) :
    move ≠ "" ∧ move ≠ "." := by
  rw [moves_eq_movesOf] at member
  exact filled_of_mem_movesOf (fun piece present => exists_componentOf present) member

section Push

variable {path other : Path}

/-- The texts between the slashes of a text, without the empty ones. -/
private def textsOf (text : List Char) : List (List Char) :=
  (Text.pieces '/' text).filter (· ≠ [])

private theorem textsOf_slash (first second : List Char) :
    textsOf (first ++ '/' :: second) = textsOf first ++ textsOf second := by
  unfold textsOf
  rw [Text.pieces_append, List.filter_append]

private theorem steps_eq_textsOf (path : Path) :
    path.steps = (textsOf path.text.toList).map String.ofList := by
  unfold steps Text.split textsOf
  rw [List.filter_map]
  apply congrArg
  apply List.filter_congr
  intro piece _
  simp [String.ofList_eq_empty_iff]

theorem steps_ofPieces_of_noSlash (absolute : Bool) {pieces : List Piece}
    (noSlash : ∀ piece ∈ pieces, '/' ∉ piece.1) :
    (ofPieces absolute pieces).steps = stepsOf pieces := by
  have root (text : List Char) :
      textsOf ((if absolute then ['/'] else []) ++ text) = textsOf text := by
    cases absolute with
    | true => exact textsOf_slash [] text
    | false => rfl
  rw [steps_eq_textsOf, toList_ofPieces, root]
  unfold stepsOf textsOf
  cases pieces with
  | nil => rfl
  | cons first rest =>
    have absent : ∀ text ∈ (first :: rest).map Prod.fst, '/' ∉ text := by
      intro text member
      obtain ⟨piece, present, rfl⟩ := List.mem_map.mp member
      exact noSlash piece present
    rw [Text.pieces_join (by simp) absent]

theorem steps_push (relative : other.isAbsolute = false) :
    (path.push other).steps = path.steps ++ other.steps := by
  have written := @toList_push path other relative
  rw [steps_eq_textsOf, steps_eq_textsOf, steps_eq_textsOf, ← List.map_append, written]
  apply congrArg
  split_ifs with ended
  · rcases ended with empty | slash
    · rw [empty]
      rfl
    · obtain ⟨front, whole⟩ := List.getLast?_eq_some_iff.mp slash
      rw [whole, List.append_assoc, List.singleton_append, textsOf_slash, textsOf_slash]
      show _ = textsOf front ++ [] ++ _
      rw [List.append_nil]
  · exact textsOf_slash _ _

theorem moves_push (relative : other.isAbsolute = false) :
    (path.push other).moves = path.moves ++ other.moves := by
  rw [moves_eq_steps, moves_eq_steps, moves_eq_steps, steps_push relative, List.filter_append]

theorem text_eq_of_steps_eq_nil (relative : other.isAbsolute = false) (none_left : other.steps = []) :
    other.text = "" := by
  rw [steps_eq_textsOf, List.map_eq_nil_iff] at none_left
  unfold isAbsolute at relative
  cases characters : other.text.toList with
  | nil => exact String.toList_injective characters
  | cons c rest =>
    rw [characters] at relative none_left
    have noSlash : c ≠ '/' := by simpa using relative
    unfold textsOf at none_left
    rw [Text.pieces, if_neg noSlash] at none_left
    cases pieces : Text.pieces '/' rest with
    | nil => exact absurd pieces (Text.pieces_ne_nil _ _)
    | cons piece others =>
      rw [pieces] at none_left
      simp at none_left

/-- A path followed by one without steps ends with a slash, if it is not empty. -/
theorem getLast?_split_push (none_left : other.steps = []) :
    (Text.split '/' (path.push other).text).getLast? = some "" := by
  have all_empty {text : Path} (without : text.steps = []) :
      (Text.split '/' text.text).getLast? = some "" := by
    have some_piece : Text.split '/' text.text ≠ [] := by
      unfold Text.split
      simpa using Text.pieces_ne_nil '/' text.text.toList
    rw [List.getLast?_eq_some_getLast some_piece]
    have last := List.filter_eq_nil_iff.mp without _ (List.getLast_mem some_piece)
    exact congrArg some (by simpa using last)
  cases absolute : other.isAbsolute with
  | true =>
    rw [push_absolute absolute]
    exact all_empty none_left
  | false =>
    have empty := text_eq_of_steps_eq_nil absolute none_left
    have written := @toList_push path other absolute
    rw [empty] at written
    unfold Text.split
    rw [written]
    split_ifs with ended
    · rcases ended with blank | slash
      · rw [blank]
        rfl
      · obtain ⟨front, whole⟩ := List.getLast?_eq_some_iff.mp slash
        rw [whole, List.append_assoc]
        show ((Text.pieces '/' (front ++ '/' :: [])).map String.ofList).getLast? = _
        rw [Text.pieces_append, List.map_append]
        exact List.getLast?_append_of_ne_nil _ (by simp [Text.pieces])
    · show ((Text.pieces '/' (path.text.toList ++ '/' :: [])).map String.ofList).getLast? = _
      rw [Text.pieces_append, List.map_append]
      exact List.getLast?_append_of_ne_nil _ (by simp [Text.pieces])

end Push

end Path

end Stencil
