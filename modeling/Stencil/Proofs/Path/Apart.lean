import Mathlib.Logic.Relation
import Stencil.Proofs.Path.Containment

/-!
# Paths that are out of each other's way

Two paths are in each other's way if they name the same, or if one of them names a folder
above the other.  The folders above a path are found by taking its components off, one by
one, so their components come first in the path.  Names that lead through folders without
dots to a file with a dot never come first in other such names: where they end, the others
have a folder.
-/

namespace Stencil.Path

/-- Whether a path is, however it is written, that of a folder above another one: what is
left of this after its last component was taken off, at least once. -/
def IsAbove (folder path : Path) : Prop :=
  ∃ above, Relation.TransGen (fun below parent => below.parent? = some parent) path above ∧
    above.components = folder.components

/-- Whether two paths are out of each other's way. -/
structure Apart (first second : Path) : Prop where
  differ : first.components ≠ second.components
  notAbove : ¬ first.IsAbove second
  notBelow : ¬ second.IsAbove first

section Parent

variable {path parent : Path}

theorem components_eq (path : Path) :
    path.components =
      (if path.isAbsolute then [.root] else []) ++ path.pieces.filterMap (·.2) := rfl

theorem filterMap_trimEnd (pieces : List Piece) :
    (trimEnd pieces).filterMap (·.2) = pieces.filterMap (·.2) := by
  obtain ⟨blank, whole, none_found⟩ := exists_trimEnd pieces
  conv_rhs => rw [whole, List.filterMap_append, List.filterMap_eq_nil_iff.mpr none_found,
    List.append_nil]

theorem components_ofPieces {front : List Piece} (part : front <+: path.pieces) :
    (ofPieces path.isAbsolute front).components =
      (if path.isAbsolute then [.root] else []) ++ front.filterMap (·.2) := by
  rw [components_eq, isAbsolute_ofPieces part]
  cases front with
  | nil =>
    cases path.isAbsolute with
    | true => rfl
    | false => rfl
  | cons first rest => rw [pieces_ofPieces part (List.cons_ne_nil _ _)]

/-- The last component of a path, in front of which the path of its folder ends. -/
theorem parent?_cases (path : Path) :
    (path.piecesBack = [] ∧ path.parent? = none) ∨
      ∃ text component rest parent, path.piecesBack = (text, some component) :: rest ∧
        path.parent? = some parent ∧ path.components = parent.components ++ [component] := by
  rcases piecesBack_cases path with ⟨back, -⟩ | ⟨text, component, rest, back, part, -⟩
  · refine .inl ⟨back, ?_⟩
    unfold parent?
    rw [back]
  · have whole : trimEnd path.pieces = rest.reverse ++ [(text, some component)] := by
      rw [show trimEnd path.pieces = path.piecesBack.reverse from rfl, back, List.reverse_cons]
    have front : trimEnd rest.reverse <+: path.pieces :=
      (prefix_trimEnd _).trans ((List.prefix_append _ _).trans part)
    refine .inr ⟨text, component, rest, ofPieces path.isAbsolute (trimEnd rest.reverse), back,
      ?_, ?_⟩
    · unfold parent?
      rw [back, ← reverse_trimStart]
    · rw [components_ofPieces front, filterMap_trimEnd, components_eq,
        ← filterMap_trimEnd path.pieces, whole, List.filterMap_append, List.append_assoc]
      rfl

theorem components_parent? (found : path.parent? = some parent) :
    parent.components = path.components.dropLast := by
  rcases parent?_cases path with ⟨-, none_found⟩ | ⟨_, _, _, other, -, same, whole⟩
  · rw [none_found] at found
    cases found
  · rw [found] at same
    cases same
    rw [whole, List.dropLast_concat]

/-- The components of a folder above a path come first in the path. -/
theorem IsAbove.components_prefix {folder : Path} (above : folder.IsAbove path) :
    folder.components <+: path.components := by
  obtain ⟨other, chain, same⟩ := above
  rw [← same]
  clear same
  induction chain with
  | single found =>
    rw [components_parent? found]
    exact List.dropLast_prefix _
  | tail _ found ih =>
    rw [components_parent? found]
    exact (List.dropLast_prefix _).trans ih

/-- However they are written, a folder is above a file in it. -/
example : (Path.mk "./out/.").IsAbove ⟨"./out//app/./App.java"⟩ := by
  have first : (Path.mk "./out//app/./App.java").parent? = some ⟨"./out//app"⟩ := by decide
  have second : (Path.mk "./out//app").parent? = some ⟨"./out"⟩ := by decide
  exact ⟨⟨"./out"⟩, .head first (.single second), by decide⟩

theorem apart_of_not_prefix {first second : Path}
    (notFirst : ¬ first.components <+: second.components)
    (notSecond : ¬ second.components <+: first.components) : first.Apart second where
  differ same := notFirst (same ▸ List.prefix_rfl)
  notAbove above := notFirst above.components_prefix
  notBelow above := notSecond above.components_prefix

end Parent

section Names

variable {path folder : Path} {names : List String} {name : String}

theorem empty_push (other : Path) : (Path.mk "").push other = other := by
  unfold push
  by_cases absolute : other.isAbsolute = true
  · rw [if_pos absolute]
  · rw [if_neg absolute, if_pos (by decide), String.empty_append]

theorem components_push_ofNames (some_name : names ≠ [])
    (proper : ∀ name ∈ names, IsComponentName name) :
    (folder.push (ofNames names)).components = folder.components ++ names.map .name := by
  obtain ⟨front, whole, pieces⟩ := @pieces_push_ofNames folder names some_name proper
  rw [components_eq, components_eq, isAbsolute_push (isAbsolute_ofNames some_name proper), pieces,
    List.filterMap_append, filterMap_mark, filterMap_of_push whole, List.append_assoc]

/-- Another name at the end of a path takes the place of the last one. -/
theorem components_withFileName {last : String} (named : path.fileName? = some last)
    (proper : IsComponentName name) :
    (path.withFileName name).components = path.components.dropLast ++ [.name name] := by
  have single : ∀ other ∈ [name], IsComponentName other := List.forall_mem_singleton.mpr proper
  unfold withFileName
  rw [named]
  rcases parent?_cases path with ⟨back, -⟩ | ⟨_, _, _, parent, -, found, -⟩
  · unfold fileName? at named
    rw [back] at named
    cases named
  · rw [found]
    show (parent.push ⟨name⟩).components = _
    rw [← ofNames_singleton, components_push_ofNames (List.cons_ne_nil _ _) single,
      components_parent? found]
    rfl

theorem fileName?_push_ofNames (proper : ∀ other ∈ names ++ [name], IsComponentName other) :
    (folder.push (ofNames (names ++ [name]))).fileName? = some name := by
  obtain ⟨front, -, pieces⟩ := @pieces_push_ofNames folder _ (by simp) proper
  rw [List.map_append, ← List.append_assoc] at pieces
  exact fileName?_eq pieces

end Names

/-- Whether names lead through folders without dots to a file with a dot. -/
def LeadsToFile (names : List String) : Prop :=
  ∃ folders file, names = folders ++ [file] ∧ (∀ folder ∈ folders, '.' ∉ folder.toList) ∧
    '.' ∈ file.toList

/-- Names that lead to a file do not go on to another one. -/
theorem LeadsToFile.not_prefix {first second : List String} (leads : LeadsToFile first)
    (others : LeadsToFile second) (different : first ≠ second) : ¬ first <+: second := by
  obtain ⟨folders, file, rfl, -, dot⟩ := leads
  obtain ⟨otherFolders, otherFile, rfl, dotless, -⟩ := others
  intro start
  rcases List.prefix_concat_iff.mp start with same | inside
  · exact different same
  · have member : file ∈ otherFolders :=
      inside.subset (List.mem_append_right _ List.mem_cons_self)
    exact dotless file member dot

theorem prefix_of_map_name {first second : List String}
    (start : first.map Component.name <+: second.map Component.name) : first <+: second := by
  obtain ⟨names, start, same⟩ := List.prefix_map_iff.mp start
  have injective : Function.Injective (List.map Component.name) :=
    List.map_injective_iff.mpr fun _ _ equal => Component.name.inj equal
  exact injective same ▸ start

/-- Paths to different files below a folder are out of each other's way. -/
theorem apart_of_leadsToFile {folder first second : Path} {firstNames secondNames : List String}
    (firstPath : first.components = folder.components ++ firstNames.map .name)
    (secondPath : second.components = folder.components ++ secondNames.map .name)
    (leads : LeadsToFile firstNames) (others : LeadsToFile secondNames)
    (different : firstNames ≠ secondNames) : first.Apart second := by
  apply apart_of_not_prefix
  · rw [firstPath, secondPath, List.prefix_append_right_inj]
    exact fun start => leads.not_prefix others different (prefix_of_map_name start)
  · rw [firstPath, secondPath, List.prefix_append_right_inj]
    exact fun start => others.not_prefix leads different.symm (prefix_of_map_name start)

end Stencil.Path
