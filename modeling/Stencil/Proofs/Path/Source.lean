import Stencil.Filer.Disk
import Stencil.Proofs.Path.Derived

/-!
# Where sources lie

The source of a qualified name lies in a folder for every piece of the name before the
last.  Different names have different places, and neither these nor the places of
temporary files get in each other's way.
-/

namespace Stencil

/-- Whether all pieces of a qualified name between its dots can be names of files. -/
def IsPlainName (name : QualifiedName) : Prop :=
  ∀ piece ∈ Text.split '.' name, piece ≠ "" ∧ '/' ∉ piece.toList ∧ '\x00' ∉ piece.toList

/-- Whether the pieces of a qualified name between its dots can be told apart in a path: all
of them are filled, and none has a slash. -/
def IsJoinable (name : QualifiedName) : Prop :=
  ∀ piece ∈ Text.split '.' name, piece ≠ "" ∧ '/' ∉ piece.toList

instance (name : QualifiedName) : Decidable (IsJoinable name) :=
  inferInstanceAs (Decidable (∀ piece ∈ Text.split '.' name, _))

theorem IsPlainName.joinable {name : QualifiedName} (plain : IsPlainName name) :
    IsJoinable name :=
  fun piece member => ⟨(plain piece member).1, (plain piece member).2.1⟩

/-- The folders in which the source of a name lies. -/
def sourceFolders (name : QualifiedName) : List String := (Text.split '.' name).dropLast

def sourceFile (name : QualifiedName) : String :=
  (Text.split '.' name).getLast?.getD "" ++ "." ++ Disk.sourceExtension

def temporaryFile (name : QualifiedName) : String := sourceFile name ++ Disk.temporarySuffix

/-- The names that lead to the source of a name. -/
def sourceNames (name : QualifiedName) : List String := sourceFolders name ++ [sourceFile name]

theorem exists_split (name : QualifiedName) :
    ∃ last, Text.split '.' name = sourceFolders name ++ [last] ∧
      sourceFile name = last ++ "." ++ Disk.sourceExtension := by
  have some_piece : Text.split '.' name ≠ [] := by
    unfold Text.split
    simpa using Text.pieces_ne_nil '.' name.toList
  obtain ⟨front, last, whole⟩ := (List.eq_nil_or_concat' _).resolve_left some_piece
  refine ⟨last, ?_, ?_⟩
  · rw [sourceFolders, whole, List.dropLast_concat]
  · rw [sourceFile, whole, List.getLast?_concat]
    rfl

/-- The file of a source has the last piece of the name, and an ending. -/
theorem exists_mem_split (name : QualifiedName) :
    ∃ last ∈ Text.split '.' name, sourceFile name = last ++ "." ++ Disk.sourceExtension := by
  obtain ⟨last, split, file⟩ := exists_split name
  refine ⟨last, ?_, file⟩
  rw [split]
  exact List.mem_append_right _ List.mem_cons_self

theorem dot_not_mem_of_mem_split {name : QualifiedName} {piece : String}
    (member : piece ∈ Text.split '.' name) : '.' ∉ piece.toList := by
  obtain ⟨text, textMember, rfl⟩ := List.mem_map.mp member
  rw [String.toList_ofList]
  exact Text.separator_not_mem_of_mem_pieces textMember

theorem split_injective (separator : Char) {first second : String}
    (same : Text.split separator first = Text.split separator second) : first = second := by
  have pieces : Text.pieces separator first.toList = Text.pieces separator second.toList :=
    List.map_injective_iff.mpr (fun _ _ equal => by simpa using congrArg String.toList equal) same
  apply String.toList_injective
  rw [← Text.join_pieces separator first.toList, pieces, Text.join_pieces]

/-- Different names have different places. -/
theorem sourceNames_injective {first second : QualifiedName}
    (same : sourceNames first = sourceNames second) : first = second := by
  obtain ⟨firstLast, firstSplit, firstFile⟩ := exists_split first
  obtain ⟨secondLast, secondSplit, secondFile⟩ := exists_split second
  obtain ⟨folders, files⟩ := List.append_inj' same rfl
  have file : sourceFile first = sourceFile second := List.head_eq_of_cons_eq files
  rw [firstFile, secondFile, String.append_left_inj, String.append_left_inj] at file
  apply split_injective '.'
  rw [firstSplit, secondSplit, folders, file]

theorem mem_split_of_mem_sourceFolders {name : QualifiedName} {piece : String}
    (member : piece ∈ sourceFolders name) : piece ∈ Text.split '.' name :=
  List.dropLast_subset _ member

theorem dotless_sourceFolders (name : QualifiedName) :
    ∀ piece ∈ sourceFolders name, '.' ∉ piece.toList :=
  fun _ member => dot_not_mem_of_mem_split (mem_split_of_mem_sourceFolders member)

theorem isComponentName_append {front ending : String} (noSlash : '/' ∉ front.toList)
    (endingNoSlash : '/' ∉ ending.toList) (long : 2 < ending.length) :
    IsComponentName (front ++ ending) := by
  have longer : 2 < (front ++ ending).length := by
    rw [String.length_append]
    exact Nat.lt_of_lt_of_le long (Nat.le_add_left _ _)
  refine ⟨?_, ?_, ?_, ?_⟩
  · intro same
    rw [same] at longer
    exact absurd longer (by decide)
  · simp [noSlash, endingNoSlash]
  · intro same
    rw [same] at longer
    exact absurd longer (by decide)
  · intro same
    rw [same] at longer
    exact absurd longer (by decide)

namespace IsJoinable

variable {name : QualifiedName}

theorem isComponentName_of_mem (joinable : IsJoinable name) {piece : String}
    (member : piece ∈ Text.split '.' name) : IsComponentName piece := by
  obtain ⟨filled, noSlash⟩ := joinable piece member
  have noDot := dot_not_mem_of_mem_split member
  refine ⟨filled, noSlash, ?_, ?_⟩
  · rintro rfl
    exact noDot (by decide)
  · rintro rfl
    exact noDot (by decide)

theorem folders (joinable : IsJoinable name) :
    ∀ piece ∈ sourceFolders name, IsComponentName piece :=
  fun _ member => joinable.isComponentName_of_mem (mem_split_of_mem_sourceFolders member)

theorem file (joinable : IsJoinable name) : IsComponentName (sourceFile name) := by
  obtain ⟨last, member, file⟩ := exists_mem_split name
  rw [file, String.append_assoc]
  exact isComponentName_append (joinable last member).2 (by decide) (by decide)

theorem temporary (joinable : IsJoinable name) : IsComponentName (temporaryFile name) :=
  isComponentName_append joinable.file.2.1 (by decide) (by decide)

theorem names (joinable : IsJoinable name) :
    ∀ piece ∈ sourceNames name, IsComponentName piece := by
  intro piece member
  rcases List.mem_append.mp member with folder | file
  · exact joinable.folders piece folder
  · rw [List.mem_singleton.mp file]
    exact joinable.file

end IsJoinable

namespace IsPlainName

variable {name : QualifiedName}

theorem folders (plain : IsPlainName name) : ∀ piece ∈ sourceFolders name, IsPathName piece := by
  intro piece member
  have noZero := (plain piece (mem_split_of_mem_sourceFolders member)).2.2
  exact isPathName_iff.mpr ⟨plain.joinable.folders piece member, noZero⟩

theorem file (plain : IsPlainName name) : IsPathName (sourceFile name) := by
  obtain ⟨last, member, file⟩ := exists_mem_split name
  refine isPathName_iff.mpr ⟨plain.joinable.file, ?_⟩
  rw [file]
  simp [(plain last member).2.2, Disk.sourceExtension]

theorem temporary (plain : IsPlainName name) : IsPathName (temporaryFile name) := by
  refine isPathName_iff.mpr ⟨plain.joinable.temporary, ?_⟩
  simp [temporaryFile, plain.file.2.2.1, Disk.temporarySuffix]

theorem names (plain : IsPlainName name) : ∀ piece ∈ sourceNames name, IsPathName piece := by
  intro piece member
  rcases List.mem_append.mp member with folder | file
  · exact plain.folders piece folder
  · rw [List.mem_singleton.mp file]
    exact plain.file

end IsPlainName

theorem dot_mem_sourceFile (name : QualifiedName) : '.' ∈ (sourceFile name).toList := by
  obtain ⟨last, -, file⟩ := exists_split name
  rw [file, String.toList_append, String.toList_append]
  simp

theorem dot_mem_temporaryFile (name : QualifiedName) : '.' ∈ (temporaryFile name).toList := by
  rw [temporaryFile, String.toList_append]
  exact List.mem_append_left _ (dot_mem_sourceFile name)

theorem getLast?_sourceFile (name : QualifiedName) :
    (sourceFile name).toList.getLast? = some 'a' := by
  obtain ⟨last, -, file⟩ := exists_split name
  rw [file, String.toList_append]
  exact List.getLast?_append_of_ne_nil _ (by decide)

theorem getLast?_temporaryFile (name : QualifiedName) :
    (temporaryFile name).toList.getLast? = some 'p' := by
  rw [temporaryFile, String.toList_append]
  exact List.getLast?_append_of_ne_nil _ (by decide)

theorem temporaryFile_ne_sourceFile (first second : QualifiedName) :
    temporaryFile first ≠ sourceFile second := by
  intro same
  have ending := getLast?_temporaryFile first
  rw [same, getLast?_sourceFile] at ending
  exact absurd ending (by decide)

namespace Path

theorem getLast?_ofNames_ne {names : List String} (some_name : names ≠ [])
    (proper : ∀ name ∈ names, IsComponentName name) :
    (ofNames names).text.toList.getLast? ≠ some '/' := by
  intro slash
  obtain ⟨front, whole⟩ := List.getLast?_eq_some_iff.mp slash
  have pieces := pieces_ofNames some_name proper
  rw [whole, Text.pieces_append] at pieces
  have member : [] ∈ names.map String.toList := by
    rw [← pieces]
    exact List.mem_append_right _ List.mem_cons_self
  obtain ⟨name, nameMember, empty⟩ := List.mem_map.mp member
  exact (proper name nameMember).1 (String.toList_injective empty)

theorem ofNames_push {names : List String} {name : String}
    (proper : ∀ other ∈ names ++ [name], IsComponentName other) :
    (ofNames names).push ⟨name⟩ = ofNames (names ++ [name]) := by
  have last : ∀ other ∈ [name], IsComponentName other :=
    fun other member => proper other (List.mem_append_right _ member)
  have texts : ((ofNames names).push ⟨name⟩).text = (ofNames (names ++ [name])).text := by
    apply String.toList_injective
    rw [← ofNames_singleton name, toList_push (isAbsolute_ofNames (List.cons_ne_nil _ _) last),
      toList_ofNames (names ++ [name]), List.map_append]
    cases names with
    | nil =>
      rw [if_pos (.inl rfl), toList_ofNames [], toList_ofNames [name]]
      rfl
    | cons first rest =>
      have front : ∀ other ∈ first :: rest, IsComponentName other :=
        fun other member => proper other (List.mem_append_left _ member)
      have filled : (ofNames (first :: rest)).text ≠ "" := by
        intro empty
        have pieces := pieces_ofNames (List.cons_ne_nil _ _) front
        rw [empty] at pieces
        exact (front first List.mem_cons_self).1
          (String.toList_injective (List.head_eq_of_cons_eq pieces).symm)
      rw [if_neg (not_or.mpr ⟨filled, getLast?_ofNames_ne (List.cons_ne_nil _ _) front⟩),
        toList_ofNames, toList_ofNames]
      show _ = Text.join ['/'] ((first :: rest).map String.toList ++ [name.toList])
      rw [Text.join_append_single _ (by simp), List.append_assoc]
      rfl
  exact congrArg Path.mk texts

theorem foldl_push {front back : List String} (proper : ∀ other ∈ front ++ back, IsComponentName other) :
    back.foldl (fun path piece => path.push ⟨piece⟩) (ofNames front) = ofNames (front ++ back) := by
  induction back generalizing front with
  | nil => rw [List.append_nil]; rfl
  | cons name rest ih =>
    rw [List.append_cons] at proper ⊢
    rw [List.foldl_cons, ofNames_push fun other member =>
      proper other (List.mem_append_left _ member)]
    exact ih proper

theorem ofQualifiedName_eq {name : QualifiedName} (joinable : IsJoinable name) :
    ofQualifiedName name Disk.sourceExtension = ofNames (sourceNames name) := by
  obtain ⟨last, split, file⟩ := exists_split name
  have proper : ∀ other ∈ [] ++ Text.split '.' name, IsComponentName other :=
    fun other member => joinable.isComponentName_of_mem member
  have folded := foldl_push proper
  rw [List.nil_append, split] at folded proper
  have pieces := ofNames_pieces (by simp) proper
  rw [List.map_append] at pieces
  have absolute := isAbsolute_ofNames (by simp) proper
  have noDot : '.' ∉ last.toList :=
    dot_not_mem_of_mem_split (split ▸ List.mem_append_right _ List.mem_cons_self)
  have stemmed : stem last.toList = last.toList := by
    unfold stem
    rw [Text.splitLast?_of_not_mem noDot]
  unfold ofQualifiedName
  rw [split]
  show setExtension (List.foldl _ (ofNames []) _) _ = _
  rw [folded]
  unfold setExtension
  rw [piecesBack_eq pieces, absolute]
  show ofPieces false ((stem last.toList ++ '.' :: Disk.sourceExtension.toList, none) ::
    ((sourceFolders name).map mark).reverse).reverse = _
  rw [stemmed, List.reverse_cons, List.reverse_reverse]
  unfold ofPieces ofNames sourceNames
  rw [List.map_append, List.map_map, List.map_append, file]
  show Path.mk (String.ofList ([] ++ Text.join ['/'] (_ ++ [_]))) = _
  rw [List.nil_append, List.map_singleton, String.toList_append, String.toList_append,
    List.append_assoc]
  rfl

end Path

theorem Disk.pathFor_eq (folder : Path) {name : QualifiedName} (joinable : IsJoinable name) :
    pathFor folder name = folder.push (.ofNames (sourceNames name)) := by
  unfold pathFor
  rw [Path.ofQualifiedName_eq joinable]

end Stencil
