import Stencil.Proofs.Path.Moves

/-!
# Paths that stay below a folder

A path stays below a folder if it goes on from there with names alone.  The check on
recorded paths lets exactly such paths through, and what is derived from them, by a new
extension, a new name at the end, or taking the folder away, stays below as well.
-/

namespace Stencil.Path

/-- A path goes on from a folder with names alone, and with at least one. -/
structure Descends (path folder : Path) (names : List String) : Prop where
  some_name : names ≠ []
  proper : ∀ name ∈ names, name ≠ "" ∧ name ≠ "." ∧ name ≠ ".."
  absolute : path.isAbsolute = folder.isAbsolute
  moves : path.moves = folder.moves ++ names

/-- Moves that go into something, and never to the folder above, lead below. -/
theorem descends_of_moves {path folder : Path} {names : List String} (some_name : names ≠ [])
    (absolute : path.isAbsolute = folder.isAbsolute) (moves : path.moves = folder.moves ++ names)
    (onward : ".." ∉ names) : path.Descends folder names := by
  refine ⟨some_name, fun name member => ?_, absolute, moves⟩
  obtain ⟨filled, noDot⟩ := filled_of_mem_moves (moves ▸ List.mem_append_right _ member)
  exact ⟨filled, noDot, fun same => onward (same ▸ member)⟩

section Back

variable {path : Path}

theorem noSlash_of_mem_pieces {piece : Piece} (member : piece ∈ path.pieces) :
    '/' ∉ piece.1 := by
  have text : piece.1 ∈ path.pieces.map Prod.fst := List.mem_map_of_mem member
  rw [pieces_eq_markAll, map_fst_markAll] at text
  exact Text.separator_not_mem_of_mem_pieces text

theorem moves_ofPieces {pieces : List Piece} (part : pieces <+: path.pieces) :
    (ofPieces path.isAbsolute pieces).moves = movesOf pieces := by
  rw [moves_eq_steps, steps_ofPieces part,
    filter_stepsOf fun piece member => exists_componentOf (part.subset member)]

theorem componentOf_false_ne (text : List Char) : componentOf false text ≠ some .current := by
  rcases componentOf_cases false text with ⟨-, absent⟩ | ⟨rfl, -⟩ | ⟨-, parent⟩ |
    ⟨name, -, named, -⟩
  · simp [absent]
  · simp [componentOf]
  · simp [parent]
  · simp [named]

/-- Only the first piece of a path can be the dot that starts it. -/
theorem eq_nil_of_current {front : List Piece} {text : List Char}
    (part : front ++ [(text, some .current)] <+: path.pieces) : front = [] := by
  rw [pieces_eq_markAll] at part
  cases texts : Text.pieces '/' path.body with
  | nil => exact absurd texts (Text.pieces_ne_nil _ _)
  | cons first rest =>
    rw [texts, markAll] at part
    cases front with
    | nil => rfl
    | cons start others =>
      have later := (List.cons_prefix_cons.mp part).2.subset
        (List.mem_append_right others List.mem_cons_self)
      obtain ⟨other, -, same⟩ := List.mem_map.mp later
      exact absurd (Prod.mk.inj same).2 (componentOf_false_ne other)

/-- The last component of a path, and the moves before it. -/
theorem piecesBack_cases (path : Path) :
    (path.piecesBack = [] ∧ path.moves = []) ∨
      ∃ text component rest, path.piecesBack = (text, some component) :: rest ∧
        rest.reverse ++ [(text, some component)] <+: path.pieces ∧
        path.moves = movesOf rest.reverse ++ component.move?.toList := by
  have back : trimEnd path.pieces = path.piecesBack.reverse := rfl
  have moves : path.moves = movesOf path.piecesBack.reverse := by
    rw [moves_eq_movesOf, ← movesOf_trimEnd, back]
  cases shape : path.piecesBack with
  | nil =>
    rw [shape] at moves
    exact .inl ⟨rfl, moves⟩
  | cons last rest =>
    have some_last := isNone_of_trimStart shape
    obtain ⟨text, found⟩ := last
    cases found with
    | none => cases some_last
    | some component =>
      rw [shape, List.reverse_cons] at back moves
      refine .inr ⟨text, component, rest, rfl, back ▸ prefix_trimEnd _, ?_⟩
      rw [moves, movesOf_append]
      cases named : component.move? with
      | none => simp [movesOf, named]
      | some move => simp [movesOf, named]

theorem exists_back_of_moves {front : List String} {last : String}
    (moves : path.moves = front ++ [last]) (down : last ≠ "..") :
    ∃ rest, path.piecesBack = mark last :: rest ∧
      rest.reverse ++ [mark last] <+: path.pieces ∧ movesOf rest.reverse = front := by
  rcases piecesBack_cases path with ⟨-, none_left⟩ | ⟨text, component, rest, back, part, whole⟩
  · rw [none_left] at moves
    simp at moves
  · rw [moves] at whole
    obtain ⟨leads, found⟩ := exists_componentOf
      (part.subset (List.mem_append_right _ List.mem_cons_self))
    rcases componentOf_cases leads text with ⟨-, absent⟩ | ⟨-, absent | current⟩ | ⟨-, parent⟩ |
      ⟨name, rfl, named, -⟩
    · rw [absent] at found
      cases found
    · rw [absent] at found
      cases found
    · rw [current] at found
      cases found
      rw [eq_nil_of_current part] at whole
      simp [movesOf, Component.move?] at whole
    · rw [parent] at found
      cases found
      have ends := (List.append_inj' whole rfl).2
      exact absurd (List.head_eq_of_cons_eq ends) down
    · rw [named] at found
      cases found
      obtain ⟨same, ends⟩ := List.append_inj' whole rfl
      obtain rfl : last = name := List.head_eq_of_cons_eq ends
      exact ⟨rest, back, part, same.symm⟩

theorem fileName?_of_moves {front : List String} {last : String}
    (moves : path.moves = front ++ [last]) (down : last ≠ "..") :
    path.fileName? = some last := by
  obtain ⟨rest, back, -, -⟩ := exists_back_of_moves moves down
  unfold fileName?
  rw [back]
  rfl

theorem fileName?_of_moves_nil (none_left : path.moves = []) : path.fileName? = none := by
  rcases piecesBack_cases path with ⟨back, -⟩ | ⟨text, component, rest, back, -, whole⟩
  · unfold fileName?
    rw [back]
  · rw [none_left] at whole
    have silent : component.move?.toList = [] := (List.append_eq_nil_iff.mp whole.symm).2
    unfold fileName?
    rw [back]
    cases component with
    | name name => cases silent
    | parent => rfl
    | current => rfl
    | root => rfl

theorem moves_of_fileName? {last : String} (named : path.fileName? = some last) :
    last ≠ ".." ∧ ∃ front, path.moves = front ++ [last] := by
  unfold fileName? at named
  rcases piecesBack_cases path with ⟨back, -⟩ | ⟨text, component, rest, back, part, whole⟩
  · rw [back] at named
    cases named
  · rw [back] at named
    cases component with
    | name name =>
      cases named
      obtain ⟨leads, found⟩ := exists_componentOf
        (part.subset (List.mem_append_right _ List.mem_cons_self))
      rcases componentOf_cases leads text with ⟨-, other⟩ | ⟨-, other | other⟩ | ⟨-, other⟩ |
        ⟨name, -, other, -, -, notDots⟩
      all_goals
        rw [other] at found
        cases found
      exact ⟨notDots, _, whole⟩
    | parent => cases named
    | current => cases named
    | root => cases named

end Back

/-- A path is let through if it ends in a name and none of its components leads out. -/
theorem isContained_iff_components {path : Path} :
    path.isContained = true ↔ path.fileName?.isSome = true ∧
      ∀ component ∈ path.components, component ≠ .root ∧ component ≠ .parent := by
  unfold isContained
  rw [Bool.and_eq_true, List.all_eq_true]
  apply and_congr_right'
  apply forall₂_congr
  intro component _
  cases component <;> simp

/-- No component leads out if the path is relative and never moves to the folder above. -/
theorem forall_components_iff {path : Path} :
    (∀ component ∈ path.components, component ≠ .root ∧ component ≠ .parent) ↔
      path.isAbsolute = false ∧ ".." ∉ path.moves := by
  have plain : (∀ component ∈ path.components, component ≠ .root ∧ component ≠ .parent) ↔
      ∀ component ∈ path.plainComponents, component ≠ .root ∧ component ≠ .parent := by
    unfold plainComponents
    constructor
    · intro all component member
      exact all component (List.mem_filter.mp member).1
    · intro all component member
      by_cases current : component = .current
      · subst current
        exact ⟨by simp, by simp⟩
      · exact all component (List.mem_filter.mpr ⟨member, decide_eq_true current⟩)
  rw [plain, plainComponents_eq]
  cases path.isAbsolute with
  | true => simp
  | false =>
    simp only [Bool.false_eq_true, if_false, List.nil_append, List.forall_mem_map, true_and]
    constructor
    · intro all member
      exact (all _ member).2 (if_pos rfl)
    · intro absent move member
      have down : move ≠ ".." := fun same => absent (same ▸ member)
      unfold componentOfMove
      rw [if_neg down]
      exact ⟨by simp, by simp⟩

/-- The check on recorded paths: a path is let through exactly if it is relative and says
to go into something, and never to the folder above. -/
theorem isContained_iff {path : Path} :
    path.isContained = true ↔ path.isAbsolute = false ∧ path.moves ≠ [] ∧ ".." ∉ path.moves := by
  rw [isContained_iff_components, forall_components_iff]
  constructor
  · rintro ⟨named, relative, onward⟩
    obtain ⟨last, found⟩ := Option.isSome_iff_exists.mp named
    obtain ⟨-, front, moves⟩ := moves_of_fileName? found
    exact ⟨relative, by simp [moves], onward⟩
  · rintro ⟨relative, some_move, onward⟩
    obtain ⟨front, last, moves⟩ := (List.eq_nil_or_concat' path.moves).resolve_left some_move
    have down : last ≠ ".." := by
      rintro rfl
      exact onward (by simp [moves])
    rw [fileName?_of_moves moves down]
    exact ⟨rfl, relative, onward⟩

/-- A path that is let through leads below every folder that it is taken from. -/
theorem descends_of_isContained {path : Path} (contained : path.isContained = true)
    (folder : Path) : (folder.push path).Descends folder path.moves := by
  obtain ⟨relative, some_move, onward⟩ := isContained_iff.mp contained
  exact descends_of_moves some_move (isAbsolute_push relative) (moves_push relative) onward

/-- Paths that say nothing, start at the root, or go to the folder above are not let
through. -/
theorem isContained_eq_false {path : Path}
    (leaves : path.text = "" ∨ path.isAbsolute = true ∨ .parent ∈ path.components) :
    path.isContained = false := by
  apply Bool.eq_false_iff.mpr
  intro contained
  obtain ⟨relative, some_move, onward⟩ := isContained_iff.mp contained
  rcases leaves with empty | absolute | upwards
  · have blank : path = ⟨""⟩ := congrArg Path.mk empty
    rw [blank] at some_move
    exact some_move rfl
  · rw [relative] at absolute
    cases absolute
  · exact onward (List.mem_filterMap.mpr ⟨_, upwards, rfl⟩)

section Base

variable {path base rest : Path}

theorem exists_of_dropComponents? {components : List Component} {pieces left : List Piece}
    (dropped : dropComponents? components pieces = some left) :
    ∃ front, pieces = front ++ left ∧ front.filterMap (·.2) = components := by
  induction pieces generalizing components with
  | nil =>
    cases components with
    | nil =>
      cases dropped
      exact ⟨[], rfl, rfl⟩
    | cons component more => cases dropped
  | cons first others ih =>
    obtain ⟨text, found⟩ := first
    cases components with
    | nil =>
      cases dropped
      exact ⟨[], rfl, rfl⟩
    | cons component more =>
      cases found with
      | none =>
        obtain ⟨front, whole, same⟩ := ih dropped
        exact ⟨(text, none) :: front, congrArg ((text, none) :: ·) whole, same⟩
      | some other =>
        rw [dropComponents?] at dropped
        by_cases equal : component = other
        · rw [if_pos equal] at dropped
          obtain ⟨front, whole, same⟩ := ih dropped
          refine ⟨(text, some other) :: front, congrArg ((text, some other) :: ·) whole, ?_⟩
          show other :: front.filterMap (·.2) = _
          rw [same, equal]
        · rw [if_neg equal] at dropped
          cases dropped

/-- Pieces at the end of a path, from a component on, make up a relative path with their
moves. -/
theorem moves_ofPieces_trimmed {front left : List Piece} (whole : path.pieces = front ++ left) :
    (ofPieces false (trimEnd (trimStart left))).isAbsolute = false ∧
      (ofPieces false (trimEnd (trimStart left))).moves = movesOf left := by
  have inside : ∀ piece ∈ trimEnd (trimStart left), piece ∈ path.pieces := by
    intro piece member
    have kept := (List.dropWhile_suffix _).subset ((prefix_trimEnd _).subset member)
    exact whole ▸ List.mem_append_right _ kept
  have noSlash : ∀ piece ∈ trimEnd (trimStart left), '/' ∉ piece.1 :=
    fun piece member => noSlash_of_mem_pieces (inside piece member)
  have marked : ∀ piece ∈ trimEnd (trimStart left),
      ∃ leads, piece.2 = componentOf leads piece.1 :=
    fun piece member => exists_componentOf (inside piece member)
  constructor
  · unfold isAbsolute
    rw [toList_ofPieces]
    cases shape : trimEnd (trimStart left) with
    | nil => rfl
    | cons first others =>
      obtain ⟨more, start⟩ := prefix_trimEnd (trimStart left)
      rw [shape] at start
      have some_first := isNone_of_trimStart start.symm
      obtain ⟨leads, found⟩ := marked first (shape ▸ List.mem_cons_self)
      have absent := noSlash first (shape ▸ List.mem_cons_self)
      cases text : first.1 with
      | nil =>
        rw [found, text] at some_first
        cases some_first
      | cons c more =>
        rw [text, List.mem_cons, not_or] at absent
        have head : (Text.join ['/'] (first.1 :: others.map Prod.fst)).head? = some c := by
          rw [text]
          cases others with
          | nil => rfl
          | cons next later => rfl
        simpa [head] using Ne.symm absent.1
  · rw [moves_eq_steps, steps_ofPieces_of_noSlash _ noSlash, filter_stepsOf marked,
      movesOf_trimEnd, movesOf_trimStart]

/-- What remains of a path after a base leads from the base to where the path leads. -/
theorem moves_push_stripBase? (stripped : path.stripBase? base = some rest) :
    (base.push rest).isAbsolute = path.isAbsolute ∧ (base.push rest).moves = path.moves := by
  rcases stripBase?_cases path base with ⟨relative, none_left, written⟩ | written
  · obtain rfl := Option.some.inj (stripped.symm.trans written)
    have part : trimEnd path.pieces <+: path.pieces := prefix_trimEnd _
    have moves : (ofPieces path.isAbsolute (trimEnd path.pieces)).moves = path.moves := by
      rw [moves_ofPieces part, movesOf_trimEnd, moves_eq_movesOf]
    have absolute : (ofPieces path.isAbsolute (trimEnd path.pieces)).isAbsolute =
        path.isAbsolute := isAbsolute_ofPieces part
    generalize ofPieces path.isAbsolute (trimEnd path.pieces) = whole at moves absolute
    have silent : base.moves = [] := by
      rw [moves_eq_movesOf, movesOf_eq_filterMap, none_left]
      rfl
    cases root : whole.isAbsolute with
    | true =>
      rw [push_absolute root]
      exact ⟨absolute, moves⟩
    | false =>
      rw [isAbsolute_push root, moves_push root, silent, relative, ← root]
      exact ⟨absolute, moves⟩
  · rw [stripped] at written
    split_ifs at written with same
    obtain ⟨left, dropped, rfl⟩ := Option.map_eq_some_iff.mp written.symm
    obtain ⟨front, pieces, components⟩ := exists_of_dropComponents? dropped
    obtain ⟨relative, moves⟩ := moves_ofPieces_trimmed pieces
    refine ⟨(isAbsolute_push relative).trans same.symm, ?_⟩
    rw [moves_push relative, moves, moves_eq_movesOf path, pieces, movesOf_append,
      moves_eq_movesOf base, movesOf_eq_filterMap base.pieces, ← components,
      ← movesOf_eq_filterMap]

/-- A relative path that follows a base can be taken off it again. -/
theorem isSome_stripBase?_push {other : Path} (relative : other.isAbsolute = false) :
    ((base.push other).stripBase? base).isSome = true := by
  obtain ⟨front, leads, whole, pieces⟩ := @pieces_push base other relative
  rcases stripBase?_cases (base.push other) base with ⟨-, -, stripped⟩ | stripped
  · rw [stripped]
    rfl
  · obtain ⟨blank, -, dropped⟩ := dropComponents?_append front
      (markAll leads (Text.pieces '/' other.text.toList))
    rw [stripped, if_pos (isAbsolute_push relative), filterMap_of_push whole, pieces, dropped]
    rfl

/-- What is recorded of a path that follows a base leads to the same place again. -/
theorem moves_push_recorded {other recorded : Path}
    (same : ((base.push other).stripBase? base).getD (base.push other) = recorded) :
    (base.push recorded).isAbsolute = (base.push other).isAbsolute ∧
      (base.push recorded).moves = (base.push other).moves := by
  subst same
  cases stripped : (base.push other).stripBase? base with
  | some rest => exact moves_push_stripBase? stripped
  | none =>
    have absolute : other.isAbsolute = true := by
      by_contra relative
      have found := @isSome_stripBase?_push base other (Bool.not_eq_true _ ▸ relative)
      rw [stripped] at found
      cases found
    simp only [Option.getD_none, push_absolute absolute, and_self]

/-- What is taken off a path that follows a base goes down, if the path itself did. -/
theorem isContained_of_stripBase?_push {other : Path} (contained : other.isContained = true)
    (stripped : (base.push other).stripBase? base = some rest) : rest.isContained = true := by
  obtain ⟨relative, some_move, onward⟩ := isContained_iff.mp contained
  have absolute : (base.push other).isAbsolute = base.isAbsolute := isAbsolute_push relative
  have relativeRest : rest.isAbsolute = false := by
    rcases stripBase?_cases (base.push other) base with ⟨root, -, written⟩ | written
    · obtain rfl := Option.some.inj (stripped.symm.trans written)
      rw [isAbsolute_ofPieces (prefix_trimEnd _), absolute, root]
    · rw [stripped, if_pos absolute] at written
      obtain ⟨left, dropped, rfl⟩ := Option.map_eq_some_iff.mp written.symm
      obtain ⟨front, pieces, -⟩ := exists_of_dropComponents? dropped
      exact (moves_ofPieces_trimmed pieces).1
  have moves := (moves_push_stripBase? stripped).2
  rw [moves_push relativeRest, moves_push relative, List.append_cancel_left_eq] at moves
  exact isContained_iff.mpr ⟨relativeRest, moves ▸ some_move, moves ▸ onward⟩

end Base

end Stencil.Path
