import Stencil.Graph.Library
import Stencil.Name

/-!
# Declaration graphs

A graph holds the declarations of a document in their order, followed by those
of the library that the document does not declare itself.  No two of its
declarations have the same qualified name, so a name stands for at most one of
them (`entry?_id`).
-/

namespace Stencil

/-- A declaration in a graph. -/
structure Entry where
  package : String
  declaration : Declaration
  /-- Whether it comes from the library and not from the document. -/
  library : Bool
  deriving DecidableEq, Repr

/-- The qualified name that stands for a declaration in its graph. -/
def Entry.id (entry : Entry) : QualifiedName :=
  qualify entry.package entry.declaration.name

/-- The entries that packages contribute. -/
def entriesOf (library : Bool) (packages : List Package) : List Entry :=
  packages.flatMap fun package =>
    package.declarations.map fun declaration => ⟨package.name, declaration, library⟩

/-- The first element of a list that also stands before. -/
def firstRepeat? {α : Type} [DecidableEq α] (before : List α) : List α → Option α
  | [] => none
  | x :: rest => if x ∈ before then some x else firstRepeat? (x :: before) rest

theorem nodup_of_firstRepeat?_eq_none {α : Type} [DecidableEq α] {before list : List α}
    (none_repeats : firstRepeat? before list = none) :
    list.Nodup ∧ ∀ x ∈ list, x ∉ before := by
  induction list generalizing before with
  | nil => simp
  | cons x rest ih =>
    by_cases seen : x ∈ before
    · simp [firstRepeat?, seen] at none_repeats
    · rw [firstRepeat?, if_neg seen] at none_repeats
      obtain ⟨nodup, fresh⟩ := ih none_repeats
      refine ⟨List.nodup_cons.mpr ⟨fun member => ?_, nodup⟩, fun y member => ?_⟩
      · exact fresh x member (List.mem_cons_self)
      · rcases List.mem_cons.mp member with rfl | member
        · exact seen
        · exact fun before_y => fresh y member (List.mem_cons_of_mem _ before_y)

/-- A declaration graph. -/
structure Graph where
  entries : List Entry
  /-- No two declarations have the same qualified name. -/
  distinct : (entries.map Entry.id).Nodup

namespace Graph

/-- The library entries that leave some names to the document. -/
def libraryEntries (taken : List QualifiedName) : List Entry :=
  (entriesOf true Library.packages).filter fun entry => !taken.contains entry.id

private theorem library_distinct : ((entriesOf true Library.packages).map Entry.id).Nodup := by
  decide

private theorem distinct_append {own : List Entry} (nodup : (own.map Entry.id).Nodup) :
    ((own ++ libraryEntries (own.map Entry.id)).map Entry.id).Nodup := by
  rw [List.map_append]
  refine List.nodup_append.mpr ⟨nodup, ?_, ?_⟩
  · exact List.Nodup.sublist (List.Sublist.map _ List.filter_sublist) library_distinct
  · intro name own_name other library_name same
    subst same
    obtain ⟨entry, member, rfl⟩ := List.mem_map.mp library_name
    have kept := (List.mem_filter.mp member).2
    simp [own_name] at kept

/-- The graph of a document.  The first declaration whose qualified name occurs
before is refused, by that name. -/
def ofDocument (document : Document) : Except QualifiedName Graph :=
  let own := entriesOf false document.packages
  match repeats : firstRepeat? [] (own.map Entry.id) with
  | some name => .error name
  | none =>
    .ok ⟨own ++ libraryEntries (own.map Entry.id),
      distinct_append (nodup_of_firstRepeat?_eq_none repeats).1⟩

/-- The declaration with a qualified name. -/
def entry? (graph : Graph) (name : QualifiedName) : Option Entry :=
  graph.entries.find? fun entry => decide (entry.id = name)

/-- The declarations of the document. -/
def documentEntries (graph : Graph) : List Entry :=
  graph.entries.filter fun entry => !entry.library

/-- The qualified names of the document's declarations. -/
def documentDeclarations (graph : Graph) : List QualifiedName :=
  graph.documentEntries.map Entry.id

/-- The simple name of a declaration. -/
def simpleName? (graph : Graph) (name : QualifiedName) : Option String :=
  (graph.entry? name).map fun entry => entry.declaration.name

/-- The package of a declaration. -/
def packageOf? (graph : Graph) (name : QualifiedName) : Option String :=
  (graph.entry? name).map Entry.package

/-- The declaration that a name stands for, by its own qualified name. -/
def lookup? (graph : Graph) (name : QualifiedName) : Option QualifiedName :=
  (graph.entry? name).map Entry.id

/-- The declarations of a package. -/
def declarationsIn (graph : Graph) (package : String) : List QualifiedName :=
  (graph.entries.filter fun entry => decide (entry.package = package)).map Entry.id

/-- The declarations of the document that carry an annotation. -/
def annotatedWith (graph : Graph) (marker : QualifiedName) : List QualifiedName :=
  (graph.entries.filter fun entry =>
    !entry.library && entry.declaration.hasAnnotation marker).map Entry.id

theorem id_of_entry? {graph : Graph} {name : QualifiedName} {entry : Entry}
    (found : graph.entry? name = some entry) : entry.id = name := by
  have := List.find?_some found
  simpa using this

theorem mem_of_entry? {graph : Graph} {name : QualifiedName} {entry : Entry}
    (found : graph.entry? name = some entry) : entry ∈ graph.entries :=
  List.mem_of_find?_eq_some found

/-- A declaration of a graph is what its qualified name stands for. -/
theorem entry?_id {graph : Graph} {entry : Entry} (member : entry ∈ graph.entries) :
    graph.entry? entry.id = some entry := by
  have distinct := graph.distinct
  unfold entry?
  revert distinct member
  generalize graph.entries = entries
  induction entries with
  | nil => simp
  | cons first rest ih =>
    intro member distinct
    rw [List.map_cons, List.nodup_cons] at distinct
    rcases List.mem_cons.mp member with rfl | member
    · simp
    · have other : first.id ≠ entry.id := fun same =>
        distinct.1 (same ▸ List.mem_map_of_mem member)
      rw [List.find?_cons_of_neg (by simpa using other)]
      exact ih member distinct.2

end Graph

end Stencil
