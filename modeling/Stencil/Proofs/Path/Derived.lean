import Mathlib.Data.List.DropRight
import Stencil.Proofs.Path

/-!
# What is derived from a path

The first pieces of a path make up a path of their own.  The folder that a path lies
in and the folders above it are such paths.  What remains of a path of names after
the folder's path are the names.
-/

namespace Stencil.Path

theorem toList_ofPieces (absolute : Bool) (pieces : List Piece) :
    (ofPieces absolute pieces).text.toList =
      (if absolute then ['/'] else []) ++ Text.join ['/'] (pieces.map Prod.fst) :=
  String.toList_ofList

theorem exists_componentOf {path : Path} {piece : Piece} (member : piece ∈ path.pieces) :
    ∃ leads, piece.2 = componentOf leads piece.1 := by
  rw [pieces_eq_markAll] at member
  cases texts : Text.pieces '/' path.body with
  | nil => exact absurd texts (Text.pieces_ne_nil _ _)
  | cons first rest =>
    rw [texts] at member
    rcases List.mem_cons.mp member with rfl | member
    · exact ⟨_, rfl⟩
    · obtain ⟨text, -, rfl⟩ := List.mem_map.mp member
      exact ⟨false, rfl⟩

section Prefix

variable {path : Path} {front : List Piece}

/-- Pieces at the front of a path are texts at the front, seen as pieces. -/
theorem eq_markAll_of_prefix (part : front <+: path.pieces) :
    front = markAll (!path.isAbsolute) (front.map Prod.fst) ∧
      front.map Prod.fst <+: Text.pieces '/' path.body := by
  obtain ⟨more, whole⟩ := part
  rw [pieces_eq_markAll] at whole
  have texts := congrArg (List.map Prod.fst) whole
  rw [map_fst_markAll, List.map_append] at texts
  refine ⟨?_, ⟨more.map Prod.fst, texts⟩⟩
  cases front with
  | nil => rfl
  | cons first rest =>
    rw [← texts, markAll_append _ (by simp)] at whole
    refine (List.append_inj whole ?_).1
    simp [markAll]

/-- The first piece of a relative path is empty only if the path is. -/
theorem head_ne_slash_of_prefix (relative : path.isAbsolute = false)
    (part : front.map Prod.fst <+: Text.pieces '/' path.body) :
    (Text.join ['/'] (front.map Prod.fst)).head? ≠ some '/' := by
  have joined := Text.prefix_join ['/'] part
  rw [Text.join_pieces] at joined
  intro slash
  have head : path.body.head? = some '/' := by
    obtain ⟨more, whole⟩ := joined
    rw [← whole, List.head?_append, slash]
    rfl
  have text : path.body = path.text.toList := by
    unfold body
    rw [relative]
    rfl
  unfold isAbsolute at relative
  rw [← text, head] at relative
  exact absurd relative (by decide)

theorem isAbsolute_ofPieces (part : front <+: path.pieces) :
    (ofPieces path.isAbsolute front).isAbsolute = path.isAbsolute := by
  obtain ⟨-, texts⟩ := eq_markAll_of_prefix part
  show ((ofPieces path.isAbsolute front).text.toList.head? == some '/') = path.isAbsolute
  rw [toList_ofPieces]
  cases absolute : path.isAbsolute with
  | true => rfl
  | false =>
    have head := head_ne_slash_of_prefix absolute texts
    simpa using head

theorem pieces_ofPieces (part : front <+: path.pieces) (some_piece : front ≠ []) :
    (ofPieces path.isAbsolute front).pieces = front := by
  obtain ⟨marked, texts⟩ := eq_markAll_of_prefix part
  have body : (ofPieces path.isAbsolute front).body = Text.join ['/'] (front.map Prod.fst) := by
    have whole := toList_eq_body (ofPieces path.isAbsolute front)
    rw [isAbsolute_ofPieces part, toList_ofPieces] at whole
    exact (List.append_cancel_left whole).symm
  have cut : Text.pieces '/' (Text.join ['/'] (front.map Prod.fst)) = front.map Prod.fst := by
    apply Text.pieces_join (by simpa using some_piece)
    intro text member
    exact Text.separator_not_mem_of_mem_pieces (texts.subset member)
  rw [pieces_eq_markAll, isAbsolute_ofPieces part, body, cut]
  exact marked.symm

theorem steps_ofPieces (part : front <+: path.pieces) :
    (ofPieces path.isAbsolute front).steps = stepsOf front := by
  cases front with
  | nil =>
    cases path.isAbsolute with
    | true => rfl
    | false => rfl
  | cons first rest => rw [steps_eq, pieces_ofPieces part (List.cons_ne_nil _ _)]

theorem prefix_ofPieces (part : front <+: path.pieces) :
    (ofPieces path.isAbsolute front).text.toList <+: path.text.toList := by
  obtain ⟨-, texts⟩ := eq_markAll_of_prefix part
  rw [toList_ofPieces, toList_eq_body path]
  apply (List.prefix_append_right_inj _).mpr
  have joined := Text.prefix_join ['/'] texts
  rw [Text.join_pieces] at joined
  exact joined

theorem size_ofPieces_le (part : front <+: path.pieces) :
    (ofPieces path.isAbsolute front).text.utf8ByteSize ≤ path.text.utf8ByteSize := by
  obtain ⟨more, whole⟩ := prefix_ofPieces part
  have text : path.text = (ofPieces path.isAbsolute front).text ++ String.ofList more := by
    apply String.toList_injective
    rw [String.toList_append, String.toList_ofList, whole]
  rw [text, String.utf8ByteSize_append]
  exact Nat.le_add_right _ _

end Prefix

/-- Pieces without those at the end that are no components. -/
def trimEnd (pieces : List Piece) : List Piece := pieces.rdropWhile (·.2.isNone)

theorem isNone_of_trimStart {pieces rest : List Piece} {first : Piece}
    (shape : trimStart pieces = first :: rest) : first.2.isNone = false := by
  have head := List.head?_dropWhile_not (fun piece : Piece => piece.2.isNone) pieces
  rw [show pieces.dropWhile (fun piece : Piece => piece.2.isNone) = first :: rest from shape]
    at head
  simpa using head

theorem exists_trimEnd (pieces : List Piece) :
    ∃ blank, pieces = trimEnd pieces ++ blank ∧ ∀ piece ∈ blank, piece.2 = none := by
  refine ⟨pieces.rtakeWhile (·.2.isNone), ?_, ?_⟩
  · exact List.rdropWhile_append_rtakeWhile.symm
  · intro piece member
    have blank : piece.2.isNone = true := by
      have all := List.mem_takeWhile_imp (List.mem_reverse.mp member)
      exact all
    exact Option.isNone_iff_eq_none.mp blank

theorem reverse_trimStart (pieces : List Piece) :
    (trimStart pieces).reverse = trimEnd pieces.reverse := by
  unfold trimEnd List.rdropWhile
  rw [List.reverse_reverse]
  rfl

theorem prefix_trimEnd (pieces : List Piece) : trimEnd pieces <+: pieces :=
  List.rdropWhile_prefix _ _

theorem trimEnd_append_mark (front : List Piece) (name : String) :
    trimEnd (front ++ [mark name]) = front ++ [mark name] :=
  List.rdropWhile_concat_neg _ _ _ (by simp [mark])

theorem trimEnd_names (names : List String) : trimEnd (names.map mark) = names.map mark := by
  rcases List.eq_nil_or_concat' names with rfl | ⟨others, last, rfl⟩
  · rfl
  · rw [List.map_append]
    exact trimEnd_append_mark _ _

section Last

variable {path : Path} {front : List Piece} {last : String}

theorem piecesBack_eq (pieces : path.pieces = front ++ [mark last]) :
    path.piecesBack = mark last :: front.reverse := by
  unfold piecesBack
  rw [pieces, List.reverse_append]
  rfl

theorem fileName?_eq (pieces : path.pieces = front ++ [mark last]) :
    path.fileName? = some last := by
  unfold fileName?
  rw [piecesBack_eq pieces]
  rfl

theorem parent?_eq (pieces : path.pieces = front ++ [mark last]) :
    path.parent? = some (ofPieces path.isAbsolute (trimEnd front)) := by
  unfold parent?
  rw [piecesBack_eq pieces]
  rfl

end Last

theorem foldersBack_trimStart (absolute : Bool) (back : List Piece) :
    foldersBack absolute (trimStart back) = foldersBack absolute back := by
  induction back with
  | nil => rfl
  | cons first rest ih =>
    obtain ⟨text, found⟩ := first
    cases found with
    | none => exact ih
    | some component => rfl

/-- The folders at and above some pieces of a path, of which the last is a name. -/
theorem foldersBack_concat (absolute : Bool) (front : List Piece) (name : String) :
    foldersBack absolute (front ++ [mark name]).reverse =
      ofPieces absolute (front ++ [mark name]) :: foldersBack absolute front.reverse := by
  rw [List.reverse_append]
  show ofPieces absolute (mark name :: front.reverse).reverse :: _ = _
  rw [List.reverse_cons, List.reverse_reverse]
  rfl

theorem withFolders_ofPieces {path : Path} {front : List Piece} (part : front <+: path.pieces) :
    (ofPieces path.isAbsolute (trimEnd front)).withFolders =
      foldersBack path.isAbsolute front.reverse := by
  have trimmed : trimEnd front <+: path.pieces := (prefix_trimEnd front).trans part
  rw [← foldersBack_trimStart]
  have back : (trimEnd front).reverse = trimStart front.reverse := List.reverse_reverse _
  cases shape : trimStart front.reverse with
  | nil =>
    rw [shape] at back
    rw [List.reverse_eq_nil_iff.mp back]
    cases path.isAbsolute with
    | true => rfl
    | false => rfl
  | cons first rest =>
    rw [shape] at back
    have filled : trimEnd front ≠ [] := by
      intro empty
      rw [empty] at back
      cases back
    have some_first := isNone_of_trimStart shape
    have again : (ofPieces path.isAbsolute (trimEnd front)).piecesBack = first :: rest := by
      unfold piecesBack
      rw [pieces_ofPieces trimmed filled, back]
      unfold trimStart
      rw [List.dropWhile_cons_of_neg (by simp [some_first])]
    unfold withFolders
    rw [again]
    obtain ⟨text, found⟩ := first
    cases found with
    | none => cases some_first
    | some component =>
      show _ :: _ = ofPieces path.isAbsolute ((text, some component) :: rest).reverse :: _
      rw [← back, List.reverse_reverse, isAbsolute_ofPieces trimmed]

/-- A path starts with a folder's path and with names; the pieces of the folder's path
are at its front. -/
structure Starts (path folder : Path) (front : List Piece) (names : List String) : Prop where
  absolute : path.isAbsolute = folder.isAbsolute
  steps : stepsOf front = folder.steps
  part : front ++ names.map mark <+: path.pieces

/-- The folder that names lead to, as it is derived from a path that goes on. -/
def holder (path : Path) (front : List Piece) (names : List String) : Path :=
  ofPieces path.isAbsolute (trimEnd (front ++ names.map mark))

theorem Extends.exists_starts {path folder : Path} {names : List String} {last : String}
    (longer : path.Extends folder (names ++ [last])) :
    ∃ front, path.Starts folder front names ∧ path.parent? = some (path.holder front names) ∧
      path.fileName? = some last := by
  obtain ⟨front, steps, pieces⟩ := longer.pieces
  rw [List.map_append, ← List.append_assoc] at pieces
  refine ⟨front, ⟨longer.absolute, steps, ?_⟩, parent?_eq pieces, fileName?_eq pieces⟩
  rw [pieces]
  exact List.prefix_append _ _

namespace Starts

variable {path folder : Path} {front : List Piece} {names : List String} {name : String}

theorem shorter (starts : path.Starts folder front (names ++ [name])) :
    path.Starts folder front names := by
  refine ⟨starts.absolute, starts.steps, List.IsPrefix.trans ?_ starts.part⟩
  rw [List.map_append, ← List.append_assoc]
  exact List.prefix_append _ _

theorem extends_ofPieces (starts : path.Starts folder front names) (some_name : names ≠ []) :
    (ofPieces path.isAbsolute (front ++ names.map mark)).Extends folder names := by
  refine ⟨(isAbsolute_ofPieces starts.part).trans starts.absolute, front, starts.steps, ?_⟩
  exact pieces_ofPieces starts.part (by simp [some_name])

/-- The steps to the holder of names are those to the folder and the names, without
dots at the end. -/
theorem exists_dots (starts : path.Starts folder front names)
    (proper : ∀ name ∈ names, IsPathName name) :
    ∃ dots, (∀ dot ∈ dots, dot = ".") ∧
      (path.holder front names).steps ++ dots = folder.steps ++ names := by
  obtain ⟨blank, whole, none_found⟩ := exists_trimEnd (front ++ names.map mark)
  refine ⟨stepsOf blank, ?_, ?_⟩
  · intro dot member
    obtain ⟨text, textMember, rfl⟩ := List.mem_map.mp member
    obtain ⟨present, filled⟩ := List.mem_filter.mp textMember
    obtain ⟨piece, pieceMember, rfl⟩ := List.mem_map.mp present
    have inside : piece ∈ path.pieces :=
      starts.part.subset (whole ▸ List.mem_append_right _ pieceMember)
    obtain ⟨leads, found⟩ := exists_componentOf inside
    rw [none_found piece pieceMember] at found
    unfold componentOf at found
    split_ifs at found with empty dotted
    · exact absurd empty (by simpa using filled)
    · rw [dotted]
  · unfold holder
    rw [steps_ofPieces ((prefix_trimEnd _).trans starts.part), ← stepsOf_append, ← whole,
      stepsOf_append, stepsOf_names (forall_isComponentName proper), starts.steps]

end Starts

section Names

variable {folder : Path} {names : List String}

theorem ofPieces_names (names : List String) : ofPieces false (names.map mark) = ofNames names := by
  unfold ofPieces ofNames
  rw [List.map_map]
  rfl

theorem ofNames_pieces (some_name : names ≠ []) (proper : ∀ name ∈ names, IsComponentName name) :
    (ofNames names).pieces = names.map mark := by
  have body : (ofNames names).body = (ofNames names).text.toList := by
    unfold body
    rw [isAbsolute_ofNames some_name proper]
    rfl
  rw [pieces_eq_markAll, body, pieces_ofNames some_name proper]
  exact markAll_names _ proper

theorem filterMap_mark (names : List String) :
    (names.map mark).filterMap (·.2) = names.map Component.name := by
  induction names with
  | nil => rfl
  | cons name rest ih => exact congrArg (Component.name name :: ·) ih

theorem isContained_ofNames (some_name : names ≠ [])
    (proper : ∀ name ∈ names, IsComponentName name) : (ofNames names).isContained = true := by
  have pieces := ofNames_pieces some_name proper
  obtain ⟨front, last, rfl⟩ := List.eq_nil_or_concat' names |>.resolve_left some_name
  have ended : (ofNames (front ++ [last])).pieces = front.map mark ++ [mark last] := by
    rw [pieces, List.map_append]
    rfl
  unfold isContained components
  rw [fileName?_eq ended, isAbsolute_ofNames some_name proper, pieces, filterMap_mark]
  simp

/-- The pieces that remain after the components of the first ones; what comes before
the rest are pieces that are no components. -/
theorem dropComponents?_append (front rest : List Piece) :
    ∃ blank, (∀ piece ∈ blank, piece.2 = none) ∧
      dropComponents? (front.filterMap (·.2)) (front ++ rest) = some (blank ++ rest) := by
  induction front with
  | nil => exact ⟨[], by simp, by simp [dropComponents?]⟩
  | cons first others ih =>
    obtain ⟨text, found⟩ := first
    cases found with
    | none =>
      rw [List.filterMap_cons_none rfl]
      cases components : others.filterMap (·.2) with
      | nil =>
        refine ⟨(text, none) :: others, ?_, rfl⟩
        intro piece member
        rcases List.mem_cons.mp member with rfl | member
        · rfl
        · exact List.filterMap_eq_nil_iff.mp components piece member
      | cons component more =>
        rw [components] at ih
        exact ih
    | some component =>
      obtain ⟨blank, none_found, rest_found⟩ := ih
      refine ⟨blank, none_found, ?_⟩
      show dropComponents? (component :: others.filterMap (·.2)) _ = _
      rw [List.cons_append, dropComponents?, if_pos rfl]
      exact rest_found

theorem trimStart_blank {blank : List Piece} (none_found : ∀ piece ∈ blank, piece.2 = none)
    (some_name : names ≠ []) : trimStart (blank ++ names.map mark) = names.map mark := by
  unfold trimStart
  rw [List.dropWhile_append_of_pos (by simpa using none_found)]
  cases names with
  | nil => exact absurd rfl some_name
  | cons name rest => rfl

theorem root_not_mem_pieces (path : Path) : ∀ piece ∈ path.pieces, piece.2 ≠ some .root := by
  intro piece member
  obtain ⟨leads, found⟩ := exists_componentOf member
  rw [found]
  unfold componentOf
  split_ifs <;> simp

/-- A relative path that starts with a piece that is no component has no other
pieces. -/
theorem eq_nil_of_head_none {path : Path} (relative : path.isAbsolute = false)
    {first : Piece} {rest : List Piece} (pieces : path.pieces = first :: rest)
    (blank : first.2 = none) : rest = [] := by
  have whole : path.pieces <+: path.pieces := List.prefix_rfl
  obtain ⟨marked, texts⟩ := eq_markAll_of_prefix whole
  have head := head_ne_slash_of_prefix relative texts
  rw [pieces] at marked head
  rw [relative] at marked
  have empty : first.1 = [] := by
    have same : first.2 = componentOf true first.1 := by
      have first_eq := (List.cons.inj marked).1
      exact congrArg Prod.snd first_eq
    rw [blank] at same
    unfold componentOf at same
    by_contra filled
    rw [if_neg filled] at same
    split_ifs at same
    contradiction
  cases rest with
  | nil => rfl
  | cons next others =>
    rw [List.map_cons, empty, List.map_cons, Text.join_cons _ _ (List.cons_ne_nil _ _)] at head
    exact absurd rfl head

theorem filterMap_of_push {pieces front : List Piece}
    (whole : pieces = front ∨ pieces = front ++ [([], none)]) :
    pieces.filterMap (·.2) = front.filterMap (·.2) := by
  rcases whole with whole | whole
  · rw [whole]
  · rw [whole, List.filterMap_append]
    exact List.append_nil _

/-- A base without components is taken off a path by doing nothing, and another one by
taking its components off the pieces, if both paths start at the same place. -/
theorem stripBase?_cases (path base : Path) :
    (base.isAbsolute = false ∧ base.pieces.filterMap (·.2) = [] ∧
      path.stripBase? base = some (ofPieces path.isAbsolute (trimEnd path.pieces))) ∨
    path.stripBase? base =
      if path.isAbsolute = base.isAbsolute then
        (dropComponents? (base.pieces.filterMap (·.2)) path.pieces).map fun left =>
          ofPieces false (trimEnd (trimStart left))
      else none := by
  unfold stripBase? components
  cases root : base.isAbsolute with
  | true => exact .inr rfl
  | false =>
    have flipped (found : Option Path) : (if path.isAbsolute = true then none else found) =
        if path.isAbsolute = false then found else none := by
      cases path.isAbsolute with
      | true => rfl
      | false => rfl
    rw [if_neg Bool.false_ne_true, List.nil_append]
    cases shape : base.pieces.filterMap (·.2) with
    | nil => exact .inl ⟨rfl, rfl, rfl⟩
    | cons component more =>
      cases component with
      | root =>
        have member : Component.root ∈ base.pieces.filterMap (·.2) := shape ▸ List.mem_cons_self
        obtain ⟨piece, present, found⟩ := List.mem_filterMap.mp member
        exact absurd found (root_not_mem_pieces base piece present)
      | current => exact .inr (flipped _)
      | parent => exact .inr (flipped _)
      | name name => exact .inr (flipped _)

/-- What remains of a path of names below a folder after the folder's path. -/
theorem stripBase?_push (some_name : names ≠ []) (proper : ∀ name ∈ names, IsComponentName name) :
    (folder.push (ofNames names)).stripBase? folder = some (ofNames names) := by
  obtain ⟨front, whole, pieces⟩ := @pieces_push_ofNames folder names some_name proper
  have absolute := @isAbsolute_push folder _ (isAbsolute_ofNames some_name proper)
  have components := filterMap_of_push whole
  have trimmed := trimEnd_names names
  rcases stripBase?_cases (folder.push (ofNames names)) folder with
    ⟨root, none_left, stripped⟩ | stripped
  · have bare : front = [] := by
      cases front with
      | nil => rfl
      | cons first rest =>
        rw [components] at none_left
        have blank := List.filterMap_eq_nil_iff.mp none_left first List.mem_cons_self
        have none_after := eq_nil_of_head_none (absolute.trans root) pieces blank
        exact absurd (List.append_eq_nil_iff.mp none_after).2 (by simpa using some_name)
    rw [bare, List.nil_append] at pieces
    rw [stripped, absolute, root, pieces, trimmed, ofPieces_names]
  · obtain ⟨blank, none_found, dropped⟩ := dropComponents?_append front (names.map mark)
    rw [stripped, if_pos absolute, components, pieces, dropped, Option.map_some,
      trimStart_blank none_found some_name, trimmed, ofPieces_names]

end Names

end Stencil.Path
