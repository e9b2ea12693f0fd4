import Stencil.Path
import Stencil.Proofs.Text.Pieces

/-!
# Paths of names below a folder

A path below a folder is the folder's path, however it is written, followed by
names.  Following it means following the folder's path and then the names.  What
is derived from it keeps this form: the folder that it lies in, the folders above,
a file beside it, and the part after the folder's path.
-/

namespace Stencil

/-- Whether a text can stand between slashes as the name of something. -/
def IsPathName (name : String) : Prop :=
  name ≠ "" ∧ '/' ∉ name.toList ∧ '\x00' ∉ name.toList ∧ name ≠ "." ∧ name ≠ ".."

/-- Whether a path reads a text between slashes as a name, be there something with this name
or not. -/
def IsComponentName (name : String) : Prop :=
  name ≠ "" ∧ '/' ∉ name.toList ∧ name ≠ "." ∧ name ≠ ".."

theorem isPathName_iff {name : String} :
    IsPathName name ↔ IsComponentName name ∧ '\x00' ∉ name.toList := by
  unfold IsPathName IsComponentName
  tauto

theorem forall_isComponentName {names : List String} (proper : ∀ name ∈ names, IsPathName name) :
    ∀ name ∈ names, IsComponentName name :=
  fun name member => (isPathName_iff.mp (proper name member)).1

namespace Path

/-- The relative path that names make up. -/
def ofNames (names : List String) : Path :=
  ⟨String.ofList (Text.join ['/'] (names.map String.toList))⟩

/-- What a path says to follow one after the other: the pieces between its slashes
that are not empty. -/
def steps (path : Path) : List String := (Text.split '/' path.text).filter (· ≠ "")

def stepsOf (pieces : List Piece) : List String :=
  ((pieces.map Prod.fst).filter (· ≠ [])).map String.ofList

/-- The characters of a path after its root. -/
def body (path : Path) : List Char :=
  if path.isAbsolute then path.text.toList.drop 1 else path.text.toList

def mark (name : String) : Piece := (name.toList, some (.name name))

/-- Texts between slashes as pieces; `leads` says that the first of them starts a
relative path. -/
def markAll (leads : Bool) : List (List Char) → List Piece
  | [] => []
  | first :: rest => (first, componentOf leads first) ::
      rest.map fun piece => (piece, componentOf false piece)

theorem pieces_eq_markAll (path : Path) :
    path.pieces = markAll (!path.isAbsolute) (Text.pieces '/' path.body) := by
  unfold pieces body
  cases Text.pieces '/' (if path.isAbsolute = true then path.text.toList.drop 1
    else path.text.toList) with
  | nil => rfl
  | cons first rest => rfl

theorem map_fst_markAll (leads : Bool) (texts : List (List Char)) :
    (markAll leads texts).map Prod.fst = texts := by
  cases texts with
  | nil => rfl
  | cons first rest =>
    rw [markAll, List.map_cons, List.map_map]
    exact congrArg (first :: ·) (List.map_id rest)

theorem markAll_append (leads : Bool) {first : List (List Char)} (some_text : first ≠ [])
    (second : List (List Char)) :
    markAll leads (first ++ second) =
      markAll leads first ++ second.map fun piece => (piece, componentOf false piece) := by
  cases first with
  | nil => exact absurd rfl some_text
  | cons text rest =>
    rw [List.cons_append, markAll, markAll, List.map_append]
    rfl

theorem componentOf_name {name : String} (proper : IsComponentName name) (leads : Bool) :
    componentOf leads name.toList = some (.name name) := by
  obtain ⟨filled, -, notDot, notDots⟩ := proper
  have dot : name.toList ≠ ['.'] := fun same => notDot (String.toList_injective same)
  have dots : name.toList ≠ ['.', '.'] := fun same => notDots (String.toList_injective same)
  have empty : name.toList ≠ [] := fun same => filled (String.toList_injective same)
  simp only [componentOf, empty, dot, dots, if_false, String.ofList_toList]

theorem stepsOf_append (first second : List Piece) :
    stepsOf (first ++ second) = stepsOf first ++ stepsOf second := by
  unfold stepsOf
  rw [List.map_append, List.filter_append, List.map_append]

theorem toList_eq_body (path : Path) :
    path.text.toList = (if path.isAbsolute then ['/'] else []) ++ path.body := by
  unfold body
  by_cases absolute : path.isAbsolute = true
  · rw [if_pos absolute, if_pos absolute]
    unfold isAbsolute at absolute
    cases characters : path.text.toList with
    | nil =>
      rw [characters] at absolute
      cases absolute
    | cons c rest =>
      rw [characters] at absolute
      have slash : c = '/' := by simpa using absolute
      rw [slash]
      rfl
  · rw [if_neg absolute, if_neg absolute]
    rfl

/-- A path between its slashes: its pieces, after an empty one for the root. -/
theorem split_eq (path : Path) :
    Text.split '/' path.text =
      (if path.isAbsolute then [""] else []) ++
        (path.pieces.map Prod.fst).map String.ofList := by
  rw [pieces_eq_markAll, map_fst_markAll, Text.split, toList_eq_body]
  cases path.isAbsolute with
  | true =>
    rw [if_pos rfl, if_pos rfl, List.singleton_append, Text.pieces, if_pos rfl]
    rfl
  | false => rfl

/-- What a path says to follow are its pieces that are not empty. -/
theorem steps_eq (path : Path) : path.steps = stepsOf path.pieces := by
  have root : ((if path.isAbsolute then [""] else []).filter (· ≠ "") : List String) = [] := by
    cases path.isAbsolute with
    | true => rfl
    | false => rfl
  rw [steps, split_eq, List.filter_append, root, List.nil_append, stepsOf, List.filter_map]
  congr 1
  apply List.filter_congr
  intro piece _
  simp [String.ofList_eq_empty_iff]

/-- A path is a folder's path, however it is written, followed by names. -/
structure Extends (path folder : Path) (names : List String) : Prop where
  absolute : path.isAbsolute = folder.isAbsolute
  pieces : ∃ front, stepsOf front = folder.steps ∧ path.pieces = front ++ names.map mark

section Push

variable {path other : Path}

theorem toList_push (relative : other.isAbsolute = false) :
    (path.push other).text.toList =
      if path.text = "" ∨ path.text.toList.getLast? = some '/' then
        path.text.toList ++ other.text.toList
      else path.text.toList ++ '/' :: other.text.toList := by
  unfold push
  rw [relative]
  simp only [Bool.false_eq_true, if_false, Bool.or_eq_true, decide_eq_true_eq, beq_iff_eq]
  split_ifs
  · simp
  · simp

theorem push_absolute (absolute : other.isAbsolute = true) : path.push other = other := by
  unfold push
  rw [if_pos absolute]

/-- A relative path after another starts at the root exactly if the other path does, and
after that it follows the other path after a slash. -/
theorem body_push (relative : other.isAbsolute = false) :
    (path.push other).isAbsolute = path.isAbsolute ∧
      ((path.body = [] ∧ (path.push other).body = other.text.toList) ∨
        ∃ front, (path.body = front ∨ path.body = front ++ ['/']) ∧
          (path.push other).body = front ++ '/' :: other.text.toList) := by
  have head : other.text.toList.head? ≠ some '/' := by
    unfold isAbsolute at relative
    simpa using relative
  have written := @toList_push path other relative
  unfold body isAbsolute
  rw [written]
  generalize other.text.toList = rel at head ⊢
  have text_empty : path.text = "" ↔ path.text.toList = [] := by
    constructor
    · intro same
      rw [same]
      rfl
    · intro same
      exact String.toList_injective same
  rw [if_congr (or_congr text_empty Iff.rfl) rfl rfl]
  generalize path.text.toList = text
  rcases List.eq_nil_or_concat' text with rfl | ⟨front, last, rfl⟩
  · simp [head]
  · have ends : (front ++ [last]).getLast? = some last := List.getLast?_concat
    by_cases slash : last = '/'
    · subst slash
      rw [if_pos (.inr ends), List.append_assoc, List.singleton_append]
      cases front with
      | nil => simp
      | cons c rest =>
        by_cases root : c = '/'
        · simp [root]
        · refine ⟨by simp, .inr ⟨c :: rest, .inr ?_, ?_⟩⟩
          · simp [root]
          · simp [root]
    · rw [if_neg (by simpa using slash), List.append_assoc, List.singleton_append]
      cases front with
      | nil => simp [slash]
      | cons c rest =>
        by_cases root : c = '/'
        · simp [root]
        · simp [root]

theorem isAbsolute_push (relative : other.isAbsolute = false) :
    (path.push other).isAbsolute = path.isAbsolute := (body_push relative).1

theorem markAll_false (texts : List (List Char)) :
    markAll false texts = texts.map fun piece => (piece, componentOf false piece) := by
  cases texts with
  | nil => rfl
  | cons first rest => rfl

/-- The pieces of a relative path after another are those of the other one, without the
empty one after a slash at its end, and then its own. -/
theorem pieces_push (relative : other.isAbsolute = false) :
    ∃ front leads, (path.pieces = front ∨ path.pieces = front ++ [([], none)]) ∧
      (path.push other).pieces = front ++ markAll leads (Text.pieces '/' other.text.toList) := by
  obtain ⟨absolute, body⟩ := @body_push path other relative
  rw [pieces_eq_markAll path, pieces_eq_markAll (path.push _), absolute]
  rcases body with ⟨empty, body⟩ | ⟨front, whole, body⟩
  · refine ⟨[], !path.isAbsolute, .inr ?_, ?_⟩
    · rw [empty]
      rfl
    · rw [body]
      rfl
  · refine ⟨markAll (!path.isAbsolute) (Text.pieces '/' front), false, ?_, ?_⟩
    · rcases whole with whole | whole
      · exact .inl (by rw [whole])
      · apply Or.inr
        rw [whole, Text.pieces_append, markAll_append _ (Text.pieces_ne_nil _ _)]
        rfl
    · rw [body, Text.pieces_append, markAll_append _ (Text.pieces_ne_nil _ _), markAll_false]

end Push

section Names

variable {folder : Path} {names : List String}

theorem toList_ofNames (names : List String) :
    (ofNames names).text.toList = Text.join ['/'] (names.map String.toList) :=
  String.toList_ofList

theorem ofNames_singleton (name : String) : ofNames [name] = ⟨name⟩ := by
  unfold ofNames
  rw [List.map_singleton, Text.join, String.ofList_toList]

theorem pieces_ofNames (some_name : names ≠ []) (proper : ∀ name ∈ names, IsComponentName name) :
    Text.pieces '/' (ofNames names).text.toList = names.map String.toList := by
  rw [toList_ofNames]
  apply Text.pieces_join (by simpa using some_name)
  intro part member
  obtain ⟨name, nameMember, rfl⟩ := List.mem_map.mp member
  exact (proper name nameMember).2.1

theorem head?_ofNames (some_name : names ≠ []) (proper : ∀ name ∈ names, IsComponentName name) :
    (ofNames names).text.toList.head? ≠ some '/' := by
  rw [toList_ofNames]
  cases names with
  | nil => exact absurd rfl some_name
  | cons name rest =>
    obtain ⟨filled, noSlash, -⟩ := proper name List.mem_cons_self
    have empty : name.toList ≠ [] := fun same => filled (String.toList_injective same)
    obtain ⟨c, more, characters⟩ := List.exists_cons_of_ne_nil empty
    have other : c ≠ '/' := by
      rintro rfl
      exact noSlash (by rw [characters]; exact List.mem_cons_self)
    cases rest with
    | nil => simpa [Text.join, characters] using other
    | cons next others => simpa [Text.join, characters] using other

theorem isAbsolute_ofNames (some_name : names ≠ [])
    (proper : ∀ name ∈ names, IsComponentName name) :
    (ofNames names).isAbsolute = false := by
  unfold isAbsolute
  simpa using head?_ofNames some_name proper

theorem map_componentOf (leads : Bool) (proper : ∀ name ∈ names, IsComponentName name) :
    ((names.map String.toList).map fun piece => (piece, componentOf leads piece)) =
      names.map mark := by
  rw [List.map_map]
  apply List.map_congr_left
  intro name member
  show (name.toList, componentOf leads name.toList) = mark name
  rw [componentOf_name (proper name member)]
  rfl

theorem markAll_names (leads : Bool) (proper : ∀ name ∈ names, IsComponentName name) :
    markAll leads (names.map String.toList) = names.map mark := by
  cases names with
  | nil => rfl
  | cons first rest =>
    rw [List.map_cons, markAll, componentOf_name (proper first List.mem_cons_self),
      map_componentOf false fun name member => proper name (List.mem_cons_of_mem _ member)]
    rfl

/-- The pieces of a path of names below a folder are those of the folder's path,
without the empty one after a slash at its end, and then the names. -/
theorem pieces_push_ofNames (some_name : names ≠ [])
    (proper : ∀ name ∈ names, IsComponentName name) :
    ∃ front, (folder.pieces = front ∨ folder.pieces = front ++ [([], none)]) ∧
      (folder.push (ofNames names)).pieces = front ++ names.map mark := by
  obtain ⟨front, leads, whole, pieces⟩ :=
    @pieces_push folder _ (isAbsolute_ofNames some_name proper)
  rw [pieces_ofNames some_name proper, markAll_names _ proper] at pieces
  exact ⟨front, whole, pieces⟩

theorem map_ofList_toList (names : List String) :
    (names.map String.toList).map String.ofList = names := by
  rw [List.map_map]
  exact (List.map_congr_left fun name _ => String.ofList_toList).trans (List.map_id names)

theorem stepsOf_names (proper : ∀ name ∈ names, IsComponentName name) :
    stepsOf (names.map mark) = names := by
  have filled : ∀ text ∈ names.map String.toList, text ≠ [] := by
    intro text member empty
    obtain ⟨name, nameMember, rfl⟩ := List.mem_map.mp member
    exact (proper name nameMember).1 (String.toList_injective empty)
  unfold stepsOf
  rw [List.map_map, show Prod.fst ∘ mark = String.toList from rfl,
    List.filter_eq_self.mpr (by simpa using filled), map_ofList_toList]

theorem push_extends (some_name : names ≠ []) (proper : ∀ name ∈ names, IsPathName name) :
    (folder.push (ofNames names)).Extends folder names := by
  have read := forall_isComponentName proper
  obtain ⟨front, whole, pieces⟩ := @pieces_push_ofNames folder names some_name read
  refine ⟨isAbsolute_push (isAbsolute_ofNames some_name read), front, ?_, pieces⟩
  rw [steps_eq]
  rcases whole with whole | whole
  · rw [whole]
  · rw [whole, stepsOf_append]
    exact (List.append_nil _).symm

end Names

namespace Extends

variable {path folder : Path} {names : List String}

/-- Such a path says to follow the folder's path and then the names. -/
theorem steps_eq (longer : path.Extends folder names) (proper : ∀ name ∈ names, IsPathName name) :
    path.steps = folder.steps ++ names := by
  obtain ⟨front, same, pieces⟩ := longer.pieces
  rw [Path.steps_eq, pieces, stepsOf_append, stepsOf_names (forall_isComponentName proper), same]

theorem getLast?_split (longer : path.Extends folder names) (some_name : names ≠ []) :
    (Text.split '/' path.text).getLast? = names.getLast? := by
  obtain ⟨front, -, pieces⟩ := longer.pieces
  have back : (names.map mark).map Prod.fst = names.map String.toList := by
    rw [List.map_map]
    rfl
  rw [split_eq, pieces, List.map_append, List.map_append, back, map_ofList_toList,
    ← List.append_assoc, List.getLast?_append_of_ne_nil _ some_name]

end Extends

end Path

end Stencil
