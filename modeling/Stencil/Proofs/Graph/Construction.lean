import Mathlib.Data.List.Nodup
import Stencil.Graph.Fingerprint
import Stencil.Graph.Members
import Stencil.Proofs.Names.Map

/-!
# How a graph is built

A graph takes the declarations of a document in one by one, and refuses the first whose
qualified name is there already; then it takes in those of the library whose names are still
free.  An index says where the declaration of a name is.  Each insertion keeps the
index true (`GraphBuilder.Indexed`), so the graph of a document is what the insertions lead
to, and a name stands for the declaration of the document, or else for the one of the library.
-/

namespace Stencil

/-- The qualified names of the declarations of packages, in order. -/
def namesOf (packages : List Package) : List QualifiedName :=
  packages.flatMap fun package =>
    package.declarations.map fun declaration => qualify package.name declaration.name

/-- An element of a list is the first that also stands before. -/
def IsFirstRepeat {α : Type} (list : List α) (x : α) : Prop :=
  ∃ front back, list = front ++ x :: back ∧ front.Nodup ∧ x ∈ front

section Entries

theorem map_id_entriesOf (library : Bool) (packages : List Package) :
    (entriesOf library packages).map Entry.id = namesOf packages := by
  unfold entriesOf namesOf
  rw [List.map_flatMap]
  simp only [List.map_map]
  rfl

theorem mem_entriesOf {library : Bool} {packages : List Package} {package : Package}
    (member : package ∈ packages) {declaration : Declaration}
    (declared : declaration ∈ package.declarations) :
    ⟨package.name, declaration, library⟩ ∈ entriesOf library packages :=
  List.mem_flatMap.mpr ⟨package, member, List.mem_map_of_mem declared⟩

theorem library_of_mem_entriesOf {library : Bool} {packages : List Package} {entry : Entry}
    (member : entry ∈ entriesOf library packages) : entry.library = library := by
  obtain ⟨package, -, inside⟩ := List.mem_flatMap.mp member
  obtain ⟨declaration, -, rfl⟩ := List.mem_map.mp inside
  rfl

end Entries

theorem getElem?_concat_eq_some_iff {α : Type} {list : List α} {last x : α} {position : Nat} :
    (list ++ [last])[position]? = some x ↔
      list[position]? = some x ∨ position = list.length ∧ last = x := by
  rw [List.getElem?_append]
  split_ifs with inside
  · simp [Nat.ne_of_lt inside]
  · have beyond := Nat.le_of_not_lt inside
    rw [List.getElem?_eq_none beyond]
    simp [List.getElem?_singleton]
    omega

section Repeats

variable {α : Type} [DecidableEq α] {before list : List α}

/-- What is found first among the elements that stand before, or stood before the list. -/
theorem firstRepeat?_eq_some_iff {x : α} :
    firstRepeat? before list = some x ↔
      ∃ front back, list = front ++ x :: back ∧ front.Nodup ∧ (∀ y ∈ front, y ∉ before) ∧
        (x ∈ before ∨ x ∈ front) := by
  induction list generalizing before with
  | nil => simp [firstRepeat?]
  | cons first rest ih =>
    rw [firstRepeat?]
    by_cases seen : first ∈ before
    · rw [if_pos seen]
      constructor
      · rintro ⟨rfl⟩
        exact ⟨[], rest, rfl, List.nodup_nil, by simp, .inl seen⟩
      · rintro ⟨front, back, whole, -, fresh, -⟩
        cases front with
        | nil => rw [(List.cons.inj whole).1]
        | cons y others =>
          obtain ⟨rfl, -⟩ := List.cons.inj whole
          exact absurd seen (fresh first List.mem_cons_self)
    · rw [if_neg seen, ih]
      constructor
      · rintro ⟨front, back, rfl, distinct, fresh, again⟩
        have apart : first ∉ front := fun member => fresh first member List.mem_cons_self
        refine ⟨first :: front, back, rfl, List.nodup_cons.mpr ⟨apart, distinct⟩, ?_, ?_⟩
        · intro y member
          rcases List.mem_cons.mp member with rfl | member
          · exact seen
          · exact fun early => fresh y member (List.mem_cons_of_mem _ early)
        · simpa [or_left_comm, or_assoc] using again
      · rintro ⟨front, back, whole, distinct, fresh, again⟩
        cases front with
        | nil =>
          obtain ⟨rfl, -⟩ := List.cons.inj whole
          exact (again.elim seen List.not_mem_nil).elim
        | cons y others =>
          obtain ⟨rfl, rfl⟩ := List.cons.inj whole
          obtain ⟨apart, distinct⟩ := List.nodup_cons.mp distinct
          refine ⟨others, back, rfl, distinct, ?_, ?_⟩
          · intro z member
            rw [List.mem_cons, not_or]
            exact ⟨fun same => apart (same ▸ member), fresh z (List.mem_cons_of_mem _ member)⟩
          · simpa [or_left_comm, or_assoc] using again

theorem firstRepeat?_nil_eq_some_iff {x : α} :
    firstRepeat? [] list = some x ↔ IsFirstRepeat list x := by
  rw [firstRepeat?_eq_some_iff]
  simp [IsFirstRepeat]

theorem firstRepeat?_eq_none_of_nodup (distinct : list.Nodup) (fresh : ∀ x ∈ list, x ∉ before) :
    firstRepeat? before list = none := by
  induction list generalizing before with
  | nil => rfl
  | cons x rest ih =>
    obtain ⟨absent, restDistinct⟩ := List.nodup_cons.mp distinct
    rw [firstRepeat?, if_neg (fresh x List.mem_cons_self)]
    apply ih restDistinct
    intro y member seen
    rcases List.mem_cons.mp seen with rfl | seen
    · exact absent member
    · exact fresh y (List.mem_cons_of_mem _ member) seen

end Repeats

namespace Graph

def entriesIn (document : Document) : List Entry :=
  entriesOf false document.packages ++
    libraryEntries ((entriesOf false document.packages).map Entry.id)

/-- A document is indexed exactly if no qualified name occurs twice in it. -/
theorem ofDocument_eq_ok_iff {document : Document} {graph : Graph} :
    ofDocument document = .ok graph ↔
      ((entriesOf false document.packages).map Entry.id).Nodup ∧
        graph.entries = entriesIn document := by
  unfold ofDocument
  dsimp only
  constructor
  · intro indexed
    split at indexed
    · cases indexed
    · rename_i fresh
      cases indexed
      exact ⟨(nodup_of_firstRepeat?_eq_none fresh).1, rfl⟩
  · rintro ⟨distinct, entries⟩
    split
    · rename_i name repeats
      rw [firstRepeat?_eq_none_of_nodup distinct fun _ _ => List.not_mem_nil] at repeats
      cases repeats
    · cases graph
      cases entries
      rfl

theorem ofDocument_eq_error_iff {document : Document} {name : QualifiedName} :
    ofDocument document = .error name ↔
      firstRepeat? [] ((entriesOf false document.packages).map Entry.id) = some name := by
  unfold ofDocument
  dsimp only
  constructor
  · intro refused
    split at refused
    · rename_i other repeats
      cases refused
      exact repeats
    · cases refused
  · intro found
    split
    · rename_i other repeats
      rw [Option.some.inj (repeats.symm.trans found)]
    · rename_i none_repeats
      rw [none_repeats] at found
      cases found

end Graph

/-- A graph that is being built: the declarations so far, and where the one of a name is. -/
structure GraphBuilder where
  entries : List Entry := []
  index : NameMap Nat := NameMap.empty

namespace GraphBuilder

def entry? (builder : GraphBuilder) (name : QualifiedName) : Option Entry :=
  (builder.index.get? name).bind fun position => builder.entries[position]?

/-- Takes a declaration in; one whose name is there already is refused. -/
def insert (builder : GraphBuilder) (entry : Entry) : Except QualifiedName GraphBuilder :=
  if builder.index.contains entry.id then .error entry.id
  else
    .ok { entries := builder.entries ++ [entry]
          index := builder.index.insert entry.id builder.entries.length }

/-- Takes declarations in one after the other. -/
def insertAll (builder : GraphBuilder) : List Entry → Except QualifiedName GraphBuilder
  | [] => .ok builder
  | entry :: rest =>
    match builder.insert entry with
    | .ok next => next.insertAll rest
    | .error name => .error name

/-- Takes declarations in one after the other, but passes over those whose names are there. -/
def merge (builder : GraphBuilder) : List Entry → Except QualifiedName GraphBuilder
  | [] => .ok builder
  | entry :: rest =>
    if builder.index.contains entry.id then builder.merge rest
    else
      match builder.insert entry with
      | .ok next => next.merge rest
      | .error name => .error name

def names (builder : GraphBuilder) : List QualifiedName := builder.entries.map Entry.id

/-- The index gives every name the place of the one declaration that has it. -/
structure Indexed (builder : GraphBuilder) : Prop where
  distinct : builder.names.Nodup
  index : ∀ name position,
    builder.index.get? name = some position ↔ builder.names[position]? = some name

theorem indexed_empty : Indexed {} where
  distinct := List.nodup_nil
  index := by
    intro name position
    simp [names]

namespace Indexed

variable {builder : GraphBuilder} {entry : Entry}

theorem contains_iff (indexed : builder.Indexed) {name : QualifiedName} :
    builder.index.contains name = true ↔ name ∈ builder.names := by
  rw [NameMap.contains_eq_true_iff, List.mem_iff_getElem?]
  exact exists_congr fun position => indexed.index name position

theorem insert (indexed : builder.Indexed) (fresh : entry.id ∉ builder.names) :
    ∃ next, builder.insert entry = .ok next ∧ next.Indexed ∧
      next.entries = builder.entries ++ [entry] := by
  refine ⟨_, if_neg fun taken => fresh (indexed.contains_iff.mp taken), ?_, rfl⟩
  have grown : names ⟨builder.entries ++ [entry],
      builder.index.insert entry.id builder.entries.length⟩ = builder.names ++ [entry.id] :=
    List.map_append
  have length : builder.names.length = builder.entries.length := List.length_map _
  constructor
  · rw [grown]
    rw [List.nodup_append_comm]
    exact List.nodup_cons.mpr ⟨fresh, indexed.distinct⟩
  · intro name position
    rw [grown, NameMap.get?_insert, ← length, getElem?_concat_eq_some_iff]
    by_cases same : name = entry.id
    · subst same
      have absent : builder.names[position]? ≠ some entry.id :=
        fun found => fresh (List.mem_of_getElem? found)
      simp [absent, eq_comm]
    · simp [same, Ne.symm same, indexed.index]

theorem insert_of_mem (indexed : builder.Indexed) (taken : entry.id ∈ builder.names) :
    builder.insert entry = .error entry.id := if_pos (indexed.contains_iff.mpr taken)

/-- Declarations are taken in as long as their names are new; the first that is not gives
its name to the error. -/
theorem insertAll (indexed : builder.Indexed) {before : List QualifiedName}
    (seen : ∀ name, name ∈ before ↔ name ∈ builder.names) (entries : List Entry) :
    match firstRepeat? before (entries.map Entry.id) with
    | some name => builder.insertAll entries = .error name
    | none => ∃ next, builder.insertAll entries = .ok next ∧ next.Indexed ∧
        next.entries = builder.entries ++ entries := by
  induction entries generalizing builder before with
  | nil => exact ⟨builder, rfl, indexed, (List.append_nil _).symm⟩
  | cons entry rest ih =>
    rw [List.map_cons, firstRepeat?, GraphBuilder.insertAll]
    by_cases taken : entry.id ∈ builder.names
    · rw [if_pos ((seen _).mpr taken), indexed.insert_of_mem taken]
    · obtain ⟨next, inserted, nextIndexed, grown⟩ := indexed.insert taken
      have nextSeen : ∀ name, name ∈ entry.id :: before ↔ name ∈ next.names := by
        intro name
        unfold names
        rw [grown, List.map_append, List.mem_append, List.mem_cons, seen, or_comm]
        simp [names]
      have later := ih nextIndexed nextSeen
      rw [if_neg fun early => taken ((seen _).mp early), inserted]
      rw [grown, List.append_assoc] at later
      exact later

/-- Merging never fails: what it does not pass over has a new name. -/
theorem merge (indexed : builder.Indexed) {entries : List Entry}
    (distinct : (entries.map Entry.id).Nodup) :
    ∃ next, builder.merge entries = .ok next ∧ next.Indexed ∧ next.entries = builder.entries ++
      entries.filter fun entry => !builder.names.contains entry.id := by
  induction entries generalizing builder with
  | nil => exact ⟨builder, rfl, indexed, (List.append_nil _).symm⟩
  | cons entry rest ih =>
    obtain ⟨apart, distinct⟩ := List.nodup_cons.mp distinct
    rw [GraphBuilder.merge]
    by_cases taken : entry.id ∈ builder.names
    · rw [if_pos (indexed.contains_iff.mpr taken), List.filter_cons_of_neg (by simpa using taken)]
      exact ih indexed distinct
    · obtain ⟨next, inserted, nextIndexed, grown⟩ := indexed.insert taken
      obtain ⟨whole, merged, wholeIndexed, entries⟩ := ih nextIndexed distinct
      rw [if_neg fun found => taken (indexed.contains_iff.mp found), inserted]
      refine ⟨whole, merged, wholeIndexed, ?_⟩
      rw [entries, grown, List.filter_cons_of_pos (by simpa using taken), List.append_assoc,
        List.singleton_append]
      have same : rest.filter (fun other => !next.names.contains other.id) =
          rest.filter fun other => !builder.names.contains other.id := by
        apply List.filter_congr
        intro other member
        have different : other.id ≠ entry.id := fun same => apart (same ▸ List.mem_map_of_mem member)
        unfold names
        rw [grown]
        simp [different]
      rw [same]

end Indexed

end GraphBuilder

namespace Graph

/-- What the graph says of the qualified name of a declaration is about this declaration. -/
structure Presents (graph : Graph) (package : String) (declaration : Declaration) : Prop where
  simpleName : graph.simpleName? (qualify package declaration.name) = some declaration.name
  packageName : graph.packageOf? (qualify package declaration.name) = some package
  members : graph.membersOf (qualify package declaration.name) =
    declaration.members.map declaration.view
  fingerprint : graph.fingerprint? (qualify package declaration.name) =
    some (String.ofList (Digest.hex (Digest.sha256
      (Text.octets package ++ [0] ++ Text.octets declaration.toValue.toCompact))))

/-- A graph holds the declarations of a document, and those of the library with other names. -/
structure Indexes (graph : Graph) (document : Document) : Prop where
  /-- The declarations of the document are listed in its order. -/
  listed : graph.documentDeclarations = namesOf document.packages
  /-- A name stands for something if it is one of these names, or else a name of the library;
  and then it stands for itself. -/
  lookup : ∀ name id, graph.lookup? name = some id ↔ id = name ∧
    (name ∈ namesOf document.packages ∨
      name ∈ namesOf Library.packages ∧ name ∉ namesOf document.packages)
  /-- A name of the document stands for its declaration, also if the library has the name. -/
  own : ∀ package ∈ document.packages, ∀ declaration ∈ package.declarations,
    graph.Presents package.name declaration
  /-- Any other name of the library stands for the declaration there. -/
  library : ∀ package ∈ Library.packages, ∀ declaration ∈ package.declarations,
    qualify package.name declaration.name ∉ namesOf document.packages →
      graph.Presents package.name declaration

/-- The graph of a document is what taking its declarations in one by one leads to, and then
merging those of the library. -/
structure IsBuilt (document : Document) : Prop where
  /-- Both refuse the same name. -/
  refused : ∀ name, GraphBuilder.insertAll {} (entriesOf false document.packages) = .error name ↔
    ofDocument document = .error name
  /-- Otherwise merging does not fail, and the index finds what the graph finds. -/
  merged : ∀ own, GraphBuilder.insertAll {} (entriesOf false document.packages) = .ok own →
    ∃ whole graph, own.merge (entriesOf true Library.packages) = .ok whole ∧
      ofDocument document = .ok graph ∧ graph.entries = whole.entries ∧
      ∀ name, whole.entry? name = graph.entry? name

section Queries

variable {graph : Graph} {document : Document} {package : String} {declaration : Declaration}
  {library : Bool}

theorem presents_of_mem (member : ⟨package, declaration, library⟩ ∈ graph.entries) :
    graph.Presents package declaration := by
  have found : graph.entry? (qualify package declaration.name) = some _ := entry?_id member
  constructor
  · rw [simpleName?, found]
    rfl
  · rw [packageOf?, found]
    rfl
  · rw [membersOf, found]
  · rw [fingerprint?, found]
    rfl

theorem lookup?_eq_some_iff {name id : QualifiedName} :
    graph.lookup? name = some id ↔ id = name ∧ name ∈ graph.entries.map Entry.id := by
  unfold lookup?
  rw [Option.map_eq_some_iff]
  constructor
  · rintro ⟨entry, found, rfl⟩
    have named := id_of_entry? found
    have member := mem_of_entry? found
    exact ⟨named, named ▸ List.mem_map_of_mem member⟩
  · rintro ⟨rfl, member⟩
    obtain ⟨entry, there, rfl⟩ := List.mem_map.mp member
    exact ⟨entry, entry?_id there, rfl⟩

theorem distinct_library : (namesOf Library.packages).Nodup := by decide

theorem mem_libraryEntries {taken : List QualifiedName} {entry : Entry} :
    entry ∈ libraryEntries taken ↔ entry ∈ entriesOf true Library.packages ∧ entry.id ∉ taken := by
  unfold libraryEntries
  simp [List.mem_filter]

theorem mem_ids_libraryEntries {taken : List QualifiedName} {name : QualifiedName} :
    name ∈ (libraryEntries taken).map Entry.id ↔ name ∈ namesOf Library.packages ∧ name ∉ taken := by
  rw [← map_id_entriesOf true, List.mem_map, List.mem_map]
  constructor
  · rintro ⟨entry, member, rfl⟩
    obtain ⟨inside, free⟩ := mem_libraryEntries.mp member
    exact ⟨⟨entry, inside, rfl⟩, free⟩
  · rintro ⟨⟨entry, inside, rfl⟩, free⟩
    exact ⟨entry, mem_libraryEntries.mpr ⟨inside, free⟩, rfl⟩

/-- The graph of a document indexes it. -/
theorem indexes_of_ofDocument (indexed : ofDocument document = .ok graph) :
    graph.Indexes document := by
  obtain ⟨-, entries⟩ := ofDocument_eq_ok_iff.mp indexed
  rw [entriesIn, map_id_entriesOf] at entries
  constructor
  case listed =>
    have own : (entriesOf false document.packages).filter (fun entry => !entry.library) =
        entriesOf false document.packages :=
      List.filter_eq_self.mpr fun entry member => by
        rw [library_of_mem_entriesOf member, Bool.not_false]
    have none_left : (libraryEntries (namesOf document.packages)).filter
        (fun entry => !entry.library) = [] :=
      List.filter_eq_nil_iff.mpr fun entry member => by
        rw [library_of_mem_entriesOf (mem_libraryEntries.mp member).1]
        simp
    rw [documentDeclarations, documentEntries, entries, List.filter_append, own, none_left,
      List.append_nil, map_id_entriesOf]
  case lookup =>
    intro name id
    rw [lookup?_eq_some_iff, entries, List.map_append, List.mem_append, map_id_entriesOf,
      mem_ids_libraryEntries]
  case own =>
    intro package member declaration declared
    apply presents_of_mem
    rw [entries]
    exact List.mem_append_left _ (mem_entriesOf member declared)
  case library =>
    intro package member declaration declared free
    apply presents_of_mem
    rw [entries]
    exact List.mem_append_right _
      (mem_libraryEntries.mpr ⟨mem_entriesOf member declared, free⟩)

theorem entry?_eq_of_indexed {builder : GraphBuilder} (indexed : builder.Indexed)
    (same : graph.entries = builder.entries) (name : QualifiedName) :
    builder.entry? name = graph.entry? name := by
  apply Option.ext
  intro entry
  unfold GraphBuilder.entry?
  rw [Option.bind_eq_some_iff]
  constructor
  · rintro ⟨position, found, there⟩
    have named := (indexed.index name position).mp found
    rw [GraphBuilder.names, List.getElem?_map, there] at named
    rw [← Option.some.inj named]
    exact entry?_id (same ▸ List.mem_of_getElem? there)
  · intro found
    obtain ⟨position, there⟩ := List.mem_iff_getElem?.mp (same ▸ mem_of_entry? found)
    refine ⟨position, (indexed.index name position).mpr ?_, there⟩
    rw [GraphBuilder.names, List.getElem?_map, there, Option.map_some, id_of_entry? found]

theorem isBuilt (document : Document) : IsBuilt document := by
  have own := GraphBuilder.indexed_empty.insertAll
    (fun name => show name ∈ [] ↔ name ∈ [] from Iff.rfl) (entriesOf false document.packages)
  cases repeats : firstRepeat? [] ((entriesOf false document.packages).map Entry.id) with
  | some name =>
    rw [repeats] at own
    replace own : GraphBuilder.insertAll {} (entriesOf false document.packages) = .error name := own
    constructor
    case refused =>
      intro other
      rw [own, ofDocument_eq_error_iff, repeats]
      simp
    case merged =>
      intro builder built
      cases own.symm.trans built
  | none =>
    rw [repeats] at own
    obtain ⟨builder, built, indexed, entries⟩ := own
    have distinct := (nodup_of_firstRepeat?_eq_none repeats).1
    obtain ⟨whole, merged, wholeIndexed, wholeEntries⟩ :=
      indexed.merge ((map_id_entriesOf true _).symm ▸ distinct_library)
    constructor
    case refused =>
      intro other
      rw [built, ofDocument_eq_error_iff, repeats]
      simp
    case merged =>
      intro other otherBuilt
      cases built.symm.trans otherBuilt
      have graph_eq : ofDocument document = .ok ⟨whole.entries, wholeIndexed.distinct⟩ := by
        apply ofDocument_eq_ok_iff.mpr
        refine ⟨distinct, ?_⟩
        show whole.entries = entriesIn document
        rw [wholeEntries, GraphBuilder.names, entries]
        rfl
      exact ⟨whole, _, merged, graph_eq, rfl, entry?_eq_of_indexed wholeIndexed rfl⟩

end Queries

/-- Building a graph makes a faithful index of a document, whatever names its packages and
declarations have.  It succeeds exactly if the qualified names are distinct, and
otherwise gives the first that is repeated; the library never gets in the way. -/
theorem ofDocument_faithful (document : Document) :
    ((∃ graph, ofDocument document = .ok graph) ↔ (namesOf document.packages).Nodup) ∧
      (∀ name, ofDocument document = .error name ↔
        IsFirstRepeat (namesOf document.packages) name) ∧
      IsBuilt document ∧
      ∀ graph, ofDocument document = .ok graph → graph.Indexes document := by
  refine ⟨⟨?_, ?_⟩, ?_, isBuilt document, fun graph => indexes_of_ofDocument⟩
  · rintro ⟨graph, indexed⟩
    rw [← map_id_entriesOf false]
    exact (ofDocument_eq_ok_iff.mp indexed).1
  · intro distinct
    cases result : ofDocument document with
    | ok graph => exact ⟨graph, rfl⟩
    | error name =>
      rw [ofDocument_eq_error_iff, map_id_entriesOf,
        firstRepeat?_eq_none_of_nodup distinct fun _ _ => List.not_mem_nil] at result
      cases result
  · intro name
    rw [ofDocument_eq_error_iff, map_id_entriesOf, firstRepeat?_nil_eq_some_iff]

/-- Two packages that split a name in two ways, and one that has a name of the library. -/
def dottedPackages : List Package := [
  ⟨"", [{ name := "java.lang.String", members := [{ name := "own" }] }]⟩,
  ⟨"a.b", [{ name := "C" }]⟩,
  ⟨"a", [{ name := "D" }, { name := "b.C" }]⟩]

/-- The last declaration has the name of the second. -/
example : (match ofDocument ⟨dottedPackages⟩ with
    | .error name => some name
    | .ok _ => none) = some "a.b.C" := by decide +kernel

/-- Without it there is a graph, where the name of the library stands for the document's own. -/
example : (ofDocument ⟨dottedPackages.take 2⟩).toOption.map (·.packageOf? "java.lang.String") =
    some (some "") := by decide +kernel

end Graph

end Stencil
