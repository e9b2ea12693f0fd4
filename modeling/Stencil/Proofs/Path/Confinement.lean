import Stencil.Proofs.Path.Containment
import Stencil.Proofs.Path.Source

/-!
# Names whose sources stay in their folder

Nothing keeps a piece of a qualified name from holding slashes, or a name from being
nothing but dots.  Where the output of a name is written is seen from the moves of its
path: they are those of the pieces, with an ending on the last one.  So it is known
which names lead out of the folder, and where the temporary files lie.
-/

namespace Stencil

theorem Text.mem_of_mem_pieces {separator : Char} {text piece : List Char} {c : Char}
    (member : piece ∈ pieces separator text) (inside : c ∈ piece) : c ∈ text := by
  induction text generalizing piece with
  | nil =>
    rw [pieces, List.mem_singleton] at member
    exact member ▸ inside
  | cons first rest ih =>
    by_cases same : first = separator
    · rw [pieces, if_pos same] at member
      rcases List.mem_cons.mp member with rfl | later
      · exact absurd inside List.not_mem_nil
      · exact List.mem_cons_of_mem _ (ih later inside)
    · rw [pieces, if_neg same] at member
      cases found : pieces separator rest with
      | nil => exact absurd found (pieces_ne_nil separator rest)
      | cons next others =>
        rw [found] at member ih
        rcases List.mem_cons.mp member with rfl | later
        · rcases List.mem_cons.mp inside with rfl | deeper
          · exact List.mem_cons_self
          · exact List.mem_cons_of_mem _ (ih List.mem_cons_self deeper)
        · exact List.mem_cons_of_mem _ (ih (List.mem_cons_of_mem _ later) inside)

namespace Path

section Single

variable {name : String}

theorem steps_single (noSlash : '/' ∉ name.toList) (filled : name ≠ "") :
    (Path.mk name).isAbsolute = false ∧ (Path.mk name).steps = [name] := by
  constructor
  · unfold isAbsolute
    apply beq_eq_false_iff_ne.mpr
    intro slash
    exact noSlash (List.mem_of_head? slash)
  · unfold steps Text.split
    rw [Text.pieces_of_not_mem noSlash, List.map_singleton, String.ofList_toList,
      List.filter_eq_self.mpr (by simpa using filled)]

theorem moves_single (noSlash : '/' ∉ name.toList) (filled : name ≠ "") (noDot : name ≠ ".") :
    (Path.mk name).isAbsolute = false ∧ (Path.mk name).moves = [name] := by
  obtain ⟨relative, steps⟩ := steps_single noSlash filled
  refine ⟨relative, ?_⟩
  rw [moves_eq_steps, steps, List.filter_eq_self.mpr (by simpa using noDot)]

end Single

variable {path : Path} {front : List String} {last name : String}

theorem mem_of_mem_steps {step : String} (member : step ∈ path.steps) {c : Char}
    (inside : c ∈ step.toList) : c ∈ path.text.toList := by
  obtain ⟨piece, present, rfl⟩ := List.mem_map.mp (List.mem_filter.mp member).1
  rw [String.toList_ofList] at inside
  exact Text.mem_of_mem_pieces present inside

theorem noSlash_of_mem_moves {move : String} (member : move ∈ path.moves) :
    '/' ∉ move.toList := by
  rw [moves_eq_steps] at member
  obtain ⟨piece, present, rfl⟩ :=
    List.mem_map.mp (List.mem_filter.mp (List.mem_filter.mp member).1).1
  rw [String.toList_ofList]
  exact Text.separator_not_mem_of_mem_pieces present

/-- A path without dots says to go nowhere only if it has no steps. -/
theorem moves_eq_steps_of_dotless (dotless : '.' ∉ path.text.toList) :
    path.moves = path.steps := by
  rw [moves_eq_steps, List.filter_eq_self]
  intro step member
  refine decide_eq_true fun dot => dotless (mem_of_mem_steps member ?_)
  rw [dot]
  decide

theorem moves_parent? (moves : path.moves = front ++ [last]) (down : last ≠ "..") :
    ∃ parent, path.parent? = some parent ∧ parent.isAbsolute = path.isAbsolute ∧
      parent.moves = front := by
  obtain ⟨rest, back, part, before⟩ := exists_back_of_moves moves down
  have shorter : trimEnd rest.reverse <+: path.pieces :=
    (prefix_trimEnd _).trans ((List.prefix_append _ _).trans part)
  refine ⟨ofPieces path.isAbsolute (trimEnd rest.reverse), ?_, isAbsolute_ofPieces shorter, ?_⟩
  · unfold parent?
    rw [back, ← reverse_trimStart]
  · rw [moves_ofPieces shorter, movesOf_trimEnd, before]

theorem moves_withFileName (relative : (Path.mk name).isAbsolute = false)
    (single : (Path.mk name).moves = [name]) :
    (path.withFileName name).isAbsolute = path.isAbsolute ∧
      ((path.fileName? = none ∧ (path.withFileName name).moves = path.moves ++ [name]) ∨
        ∃ front last, path.fileName? = some last ∧ path.moves = front ++ [last] ∧
          (path.withFileName name).moves = front ++ [name]) := by
  unfold withFileName
  cases named : path.fileName? with
  | none =>
    refine ⟨isAbsolute_push relative, .inl ⟨rfl, ?_⟩⟩
    show (path.push _).moves = _
    rw [moves_push relative, single]
  | some last =>
    obtain ⟨down, front, moves⟩ := moves_of_fileName? named
    obtain ⟨parent, found, absolute, before⟩ := moves_parent? moves down
    rw [found]
    refine ⟨(isAbsolute_push relative).trans absolute, .inr ⟨front, last, rfl, moves, ?_⟩⟩
    show (parent.push _).moves = _
    rw [moves_push relative, before, single]

theorem setExtension_of_moves_nil (none_left : path.moves = []) (extension : String) :
    path.setExtension extension = path := by
  have unnamed := fileName?_of_moves_nil none_left
  unfold fileName? at unnamed
  unfold setExtension
  split
  · rename_i back
    rw [back] at unnamed
    cases unnamed
  · rfl

theorem head?_join_append (pieces : List (List Char)) {text : List Char} (filled : text ≠ [])
    (more : List Char) :
    (Text.join ['/'] (pieces ++ [text ++ more])).head? =
      (Text.join ['/'] (pieces ++ [text])).head? := by
  cases pieces with
  | nil => exact List.head?_append_of_ne_nil _ filled
  | cons first rest =>
    have slash (last : List Char) : (Text.join ['/'] (first :: rest ++ [last])).head? =
        (Text.join ['/'] (first :: rest) ++ ['/']).head? := by
      rw [Text.join_append_single _ (List.cons_ne_nil _ _)]
      exact List.head?_append_of_ne_nil _ (by simp)
    rw [slash, slash]

section Extension

variable {extension : String} (moves : path.moves = front ++ [last])
  (dotless : '.' ∉ last.toList) (some_extension : extension ≠ "")

include moves dotless some_extension

theorem exists_setExtension :
    ∃ pieces, pieces ++ [mark last] <+: path.pieces ∧ movesOf pieces = front ∧
      path.setExtension extension = ofPieces path.isAbsolute
        (pieces ++ [(last.toList ++ '.' :: extension.toList, none)]) := by
  have down : last ≠ ".." := by
    rintro rfl
    exact dotless (by decide)
  obtain ⟨rest, back, part, before⟩ := exists_back_of_moves moves down
  have stemmed : stem last.toList = last.toList := by
    unfold stem
    rw [Text.splitLast?_of_not_mem dotless]
  refine ⟨rest.reverse, part, before, ?_⟩
  unfold setExtension
  rw [back]
  simp only [mark, stemmed, some_extension, if_false, List.reverse_cons]

theorem isAbsolute_setExtension :
    (path.setExtension extension).isAbsolute = path.isAbsolute := by
  obtain ⟨pieces, part, -, written⟩ := exists_setExtension moves dotless some_extension
  have member : last ∈ path.moves := moves ▸ List.mem_append_right _ List.mem_cons_self
  have filled : last.toList ≠ [] := by
    intro none_left
    exact (filled_of_mem_moves member).1 (String.toList_injective none_left)
  rw [written]
  show ((ofPieces path.isAbsolute _).text.toList.head? == some '/') = _
  rw [toList_ofPieces]
  cases absolute : path.isAbsolute with
  | true => rfl
  | false =>
    obtain ⟨-, texts⟩ := eq_markAll_of_prefix part
    have head := head_ne_slash_of_prefix absolute texts
    rw [List.map_append, List.map_singleton] at head ⊢
    have same := head?_join_append (pieces.map Prod.fst) filled ('.' :: extension.toList)
    exact beq_eq_false_iff_ne.mpr (same.trans_ne head)

/-- Setting an extension puts it at the end of the last move, if this has none yet. -/
theorem moves_setExtension (noSlash : '/' ∉ extension.toList) :
    (path.setExtension extension).moves = front ++ [last ++ "." ++ extension] := by
  obtain ⟨pieces, part, before, written⟩ := exists_setExtension moves dotless some_extension
  have member : last ∈ path.moves := moves ▸ List.mem_append_right _ List.mem_cons_self
  have texts : ∀ piece ∈ pieces ++ [(last.toList ++ '.' :: extension.toList, none)],
      '/' ∉ piece.1 := by
    intro piece present
    rcases List.mem_append.mp present with earlier | ends
    · exact noSlash_of_mem_pieces (part.subset (List.mem_append_left _ earlier))
    · obtain rfl := List.mem_singleton.mp ends
      have own := noSlash_of_mem_moves member
      simp [own, noSlash]
  have ending : String.ofList (last.toList ++ '.' :: extension.toList) =
      last ++ "." ++ extension := by
    apply String.toList_injective
    rw [String.toList_ofList, String.toList_append, String.toList_append, List.append_assoc]
    rfl
  have noDot : last ++ "." ++ extension ≠ "." := by
    intro dot
    have characters := congrArg String.toList (ending.trans dot)
    rw [String.toList_ofList] at characters
    rcases List.append_eq_singleton_iff.mp characters with ⟨none_left, -⟩ | ⟨-, absurdity⟩
    · exact (filled_of_mem_moves member).1 (String.toList_injective none_left)
    · cases absurdity
  have single : (stepsOf [(last.toList ++ '.' :: extension.toList, none)]).filter (· ≠ ".") =
      [last ++ "." ++ extension] := by
    simp [stepsOf, ending, noDot]
  rw [written, moves_eq_steps, steps_ofPieces_of_noSlash _ texts, stepsOf_append,
    List.filter_append, filter_stepsOf fun piece present => exists_componentOf
      (part.subset (List.mem_append_left _ present)), before, single]

end Extension

section Pieces

theorem dotless_push {other : Path} (own : '.' ∉ path.text.toList)
    (others : '.' ∉ other.text.toList) : '.' ∉ (path.push other).text.toList := by
  unfold push
  split_ifs
  · exact others
  · simp [own, others]
  · simp [own, others]

/-- The path of pieces that follow another path. -/
def pushAll (path : Path) (pieces : List String) : Path :=
  pieces.foldl (fun path piece => path.push ⟨piece⟩) path

theorem dotless_pushAll {pieces : List String} (own : '.' ∉ path.text.toList)
    (others : ∀ piece ∈ pieces, '.' ∉ piece.toList) :
    '.' ∉ (path.pushAll pieces).text.toList := by
  induction pieces generalizing path with
  | nil => exact own
  | cons piece rest ih =>
    apply ih
    · exact dotless_push own (others piece List.mem_cons_self)
    · intro other member
      exact others other (List.mem_cons_of_mem _ member)

/-- Pieces lead back to the root if one of them starts with a slash. -/
theorem isAbsolute_pushAll (path : Path) (pieces : List String) :
    (path.pushAll pieces).isAbsolute =
      (path.isAbsolute || pieces.any fun piece => (Path.mk piece).isAbsolute) := by
  induction pieces generalizing path with
  | nil => exact (Bool.or_false _).symm
  | cons piece rest ih =>
    show ((path.push ⟨piece⟩).pushAll rest).isAbsolute = _
    rw [ih, List.any_cons, ← Bool.or_assoc]
    congr 1
    cases absolute : (Path.mk piece).isAbsolute with
    | true => rw [push_absolute absolute, absolute, Bool.or_true]
    | false => rw [isAbsolute_push absolute, Bool.or_false]

theorem steps_pushAll {pieces : List String}
    (relative : ∀ piece ∈ pieces, (Path.mk piece).isAbsolute = false) :
    (path.pushAll pieces).steps =
      path.steps ++ pieces.flatMap fun piece => (Path.mk piece).steps := by
  induction pieces generalizing path with
  | nil => exact (List.append_nil _).symm
  | cons piece rest ih =>
    have first := relative piece List.mem_cons_self
    have later := @ih (path.push ⟨piece⟩) fun other member =>
      relative other (List.mem_cons_of_mem _ member)
    rw [steps_push first, List.append_assoc] at later
    exact later

end Pieces

section Sources

variable (name : QualifiedName)

/-- The path of the pieces of a name, before it gets an extension. -/
def bare : Path := (Path.mk "").pushAll (Text.split '.' name)

theorem dotless_bare : '.' ∉ (bare name).text.toList := by
  apply dotless_pushAll
  · exact List.not_mem_nil
  · intro piece member
    exact dot_not_mem_of_mem_split member

theorem isAbsolute_bare :
    (bare name).isAbsolute = (Text.split '.' name).any fun piece => (Path.mk piece).isAbsolute :=
  isAbsolute_pushAll _ _

/-- The path of a source is that of the pieces, if they lead nowhere; otherwise the last
move gets the ending of sources. -/
theorem ofQualifiedName_cases :
    (ofQualifiedName name Disk.sourceExtension).isAbsolute = (bare name).isAbsolute ∧
      (((bare name).steps = [] ∧ ofQualifiedName name Disk.sourceExtension = bare name) ∨
        ∃ front last, (bare name).steps = front ++ [last] ∧
          (∀ move ∈ front, '.' ∉ move.toList) ∧
          (ofQualifiedName name Disk.sourceExtension).moves =
            front ++ [last ++ "." ++ Disk.sourceExtension]) := by
  have dotless := dotless_bare name
  have moves := moves_eq_steps_of_dotless dotless
  have extended : ofQualifiedName name Disk.sourceExtension =
      (bare name).setExtension Disk.sourceExtension := rfl
  rw [extended]
  rcases List.eq_nil_or_concat' (bare name).steps with none_left | ⟨front, last, steps⟩
  · rw [none_left] at moves
    have kept := setExtension_of_moves_nil moves Disk.sourceExtension
    exact ⟨congrArg isAbsolute kept, .inl ⟨none_left, kept⟩⟩
  · have inside : ∀ move ∈ front ++ [last], '.' ∉ move.toList := by
      intro move member dot
      exact dotless (mem_of_mem_steps (steps ▸ member) dot)
    have dotlessLast := inside last (List.mem_append_right _ List.mem_cons_self)
    rw [steps] at moves
    refine ⟨isAbsolute_setExtension moves dotlessLast (by decide), .inr ⟨front, last, steps,
      fun move member => inside move (List.mem_append_left _ member), ?_⟩⟩
    exact moves_setExtension moves dotlessLast (by decide) (by decide)

end Sources

end Path

/-- Whether the source of a name stays below the folder that it is written for: some piece
of the name is filled, and none starts with a slash. -/
def IsConfined (name : QualifiedName) : Prop :=
  (∃ piece ∈ Text.split '.' name, piece ≠ "") ∧
    ∀ piece ∈ Text.split '.' name, (Path.mk piece).isAbsolute = false

instance (name : QualifiedName) : Decidable (IsConfined name) :=
  inferInstanceAs (Decidable (_ ∧ _))

theorem IsConfined.iff_bare {name : QualifiedName} :
    IsConfined name ↔ (Path.bare name).isAbsolute = false ∧ (Path.bare name).steps ≠ [] := by
  have relative : (Path.bare name).isAbsolute = false ↔
      ∀ piece ∈ Text.split '.' name, (Path.mk piece).isAbsolute = false := by
    rw [Path.isAbsolute_bare, List.any_eq_false]
    simp
  rw [relative, IsConfined, and_comm]
  apply and_congr_right
  intro pieces
  have steps : (Path.bare name).steps =
      (Text.split '.' name).flatMap fun piece => (Path.mk piece).steps :=
    Path.steps_pushAll pieces
  rw [steps, ne_eq, List.flatMap_eq_nil_iff]
  constructor
  · rintro ⟨piece, member, filled⟩ none_left
    exact filled (Path.text_eq_of_steps_eq_nil (pieces piece member) (none_left piece member))
  · intro some_left
    by_contra all_empty
    push Not at all_empty
    apply some_left
    intro piece member
    rw [all_empty piece member]
    rfl

namespace Disk

theorem getLast?_append_temporarySuffix (front : String) :
    (front ++ temporarySuffix).toList.getLast? = some 'p' := by
  rw [String.toList_append]
  exact List.getLast?_append_of_ne_nil _ (by decide)

theorem getLast?_append_sourceExtension (front : String) :
    (front ++ "." ++ sourceExtension).toList.getLast? = some 'a' := by
  rw [String.toList_append]
  exact List.getLast?_append_of_ne_nil _ (by decide)

theorem ne_dots_of_getLast? {file : String} {ending : Char}
    (ends : file.toList.getLast? = some ending) (other : ending ≠ '.') : file ≠ ".." := by
  rintro rfl
  exact other (Option.some.inj ends).symm

/-- The last move to a temporary file is the one to the output with an ending. -/
theorem temporaryFor_cases (path : Path) :
    (temporaryFor path).isAbsolute = path.isAbsolute ∧
      ((path.fileName? = none ∧ (temporaryFor path).moves = path.moves ++ [temporarySuffix]) ∨
        ∃ front last, path.moves = front ++ [last] ∧
          (temporaryFor path).moves = front ++ [last ++ temporarySuffix]) := by
  have noSlash : '/' ∉ (path.fileName?.getD "").toList := by
    cases named : path.fileName? with
    | none => exact List.not_mem_nil
    | some last =>
      obtain ⟨-, front, moves⟩ := Path.moves_of_fileName? named
      exact Path.noSlash_of_mem_moves (moves ▸ List.mem_append_right _ List.mem_cons_self)
  have ends := getLast?_append_temporarySuffix (path.fileName?.getD "")
  obtain ⟨relative, single⟩ :=
    @Path.moves_single (path.fileName?.getD "" ++ temporarySuffix)
      (by rw [String.toList_append, List.mem_append, not_or]; exact ⟨noSlash, by decide⟩)
      (fun empty => by rw [empty] at ends; cases ends)
      (fun dot => by rw [dot] at ends; exact absurd ends (by decide))
  obtain ⟨absolute, ⟨unnamed, moves⟩ | ⟨front, last, named, before, moves⟩⟩ :=
    @Path.moves_withFileName path _ relative single
  · have written : path.fileName?.getD "" ++ temporarySuffix = temporarySuffix := by
      rw [unnamed, Option.getD_none, String.empty_append]
    exact ⟨absolute, .inl ⟨unnamed, written ▸ moves⟩⟩
  · have written : path.fileName?.getD "" = last := by rw [named, Option.getD_some]
    exact ⟨absolute, .inr ⟨front, last, before, written ▸ moves⟩⟩

/-- The paths that the filer writes for a name: the temporary one, and that of the
output. -/
def writesFor (folder : Path) (name : QualifiedName) : List Path :=
  [temporaryFor (pathFor folder name), pathFor folder name]

/-- The path of the source of a confined name goes down, to a file with the ending of
sources. -/
theorem moves_of_isConfined {name : QualifiedName} (confined : IsConfined name) :
    (Path.ofQualifiedName name sourceExtension).isAbsolute = false ∧ ∃ front last,
      (Path.ofQualifiedName name sourceExtension).moves =
        front ++ [last ++ "." ++ sourceExtension] ∧
      ".." ∉ front ∧ last ++ "." ++ sourceExtension ≠ ".." := by
  obtain ⟨relative, some_left⟩ := IsConfined.iff_bare.mp confined
  obtain ⟨absolute, ⟨none_left, -⟩ | ⟨front, last, steps, dotless, moves⟩⟩ :=
    Path.ofQualifiedName_cases name
  · exact absurd none_left some_left
  · exact ⟨absolute.trans relative, front, last, moves, fun member => dotless _ member (by decide),
      ne_dots_of_getLast? (getLast?_append_sourceExtension last) (by decide)⟩

theorem isContained_of_isConfined {name : QualifiedName} (confined : IsConfined name) :
    (Path.ofQualifiedName name sourceExtension).isContained = true := by
  obtain ⟨relative, front, last, moves, inFront, output⟩ := moves_of_isConfined confined
  refine Path.isContained_iff.mpr ⟨relative, ?_, ?_⟩
  · simp [moves]
  · simp [moves, inFront, output.symm]

/-- What is written for a confined name lies below every folder. -/
theorem descends_of_isConfined {name : QualifiedName} (confined : IsConfined name)
    (folder : Path) :
    ∃ front file, (pathFor folder name).Descends folder (front ++ [file]) ∧
      (temporaryFor (pathFor folder name)).Descends folder (front ++ [file ++ temporarySuffix]) := by
  obtain ⟨relative, front, last, moves, inFront, output⟩ := moves_of_isConfined confined
  have whole : (pathFor folder name).moves =
      (folder.moves ++ front) ++ [last ++ "." ++ sourceExtension] := by
    unfold pathFor
    rw [Path.moves_push relative, moves, List.append_assoc]
  have same : (pathFor folder name).isAbsolute = folder.isAbsolute := Path.isAbsolute_push relative
  have descends := Path.descends_of_isContained (isContained_of_isConfined confined) folder
  rw [moves] at descends
  refine ⟨front, last ++ "." ++ sourceExtension, descends, ?_⟩
  obtain ⟨absoluteToo, ⟨unnamed, -⟩ | ⟨others, file, moves, temporary⟩⟩ :=
    temporaryFor_cases (pathFor folder name)
  · rw [Path.fileName?_of_moves whole output] at unnamed
    cases unnamed
  · rw [whole] at moves
    obtain ⟨rfl, ends⟩ := List.append_inj' moves rfl
    obtain rfl := List.head_eq_of_cons_eq ends
    have other := ne_dots_of_getLast? (getLast?_append_temporarySuffix
      (last ++ "." ++ sourceExtension)) (by decide)
    apply Path.descends_of_moves (by simp) (absoluteToo.trans same)
    · rw [temporary, List.append_assoc]
    · simp [inFront, other.symm]

/-- Exactly the confined names have their files below the folder, whichever it is. -/
theorem isConfined_iff {name : QualifiedName} :
    IsConfined name ↔
      ∀ folder, ∀ path ∈ writesFor folder name, ∃ names, path.Descends folder names := by
  constructor
  · intro confined folder path member
    obtain ⟨front, file, output, temporary⟩ := descends_of_isConfined confined folder
    unfold writesFor at member
    rcases List.mem_pair.mp member with same | same
    · exact ⟨_, same ▸ temporary⟩
    · exact ⟨_, same ▸ output⟩
  · intro below
    obtain ⟨names, descends⟩ := below ⟨"out"⟩ (pathFor ⟨"out"⟩ name) (by simp [writesFor])
    obtain ⟨absolute, cases⟩ := Path.ofQualifiedName_cases name
    have relative : (Path.bare name).isAbsolute = false := by
      rw [← absolute]
      by_contra root
      rw [Bool.not_eq_false] at root
      have same := descends.absolute
      unfold pathFor at same
      rw [Path.push_absolute root, root] at same
      exact absurd same (by decide)
    refine IsConfined.iff_bare.mpr ⟨relative, fun none_left => ?_⟩
    rcases cases with ⟨-, kept⟩ | ⟨front, last, steps, -⟩
    · have moves := descends.moves
      unfold pathFor at moves
      rw [kept, Path.moves_push relative, List.append_cancel_left_eq,
        Path.moves_eq_steps, none_left] at moves
      exact descends.some_name moves.symm
    · rw [none_left] at steps
      simp at steps

end Disk

end Stencil
