import Stencil.Proofs.Graph.Search
import Stencil.Proofs.TypeRef.Parts

/-!
# Assignability and the order of supertypes

Writing the supertypes of declarations in another order changes what a search looks at
first, but not which types lead to which.  The search knows types by how they are shown.
Where this tells all reachable types apart, as far as they differ for the search, its answer
depends on reachability alone and so on no order.  Where it does not, an earlier supertype
can keep the search from following a later one that is shown alike.
-/

namespace Stencil

/-- Whether two entries are the same but for the order of the supertypes. -/
structure Entry.SameButOrder (first second : Entry) : Prop where
  others : second = { first with
    declaration := { first.declaration with supertypes := second.declaration.supertypes } }
  permuted : first.declaration.supertypes.Perm second.declaration.supertypes

namespace Entry.SameButOrder

variable {first second : Entry}

theorem id (same : first.SameButOrder second) : second.id = first.id := by rw [same.others]; rfl

theorem typeParameters (same : first.SameButOrder second) :
    second.declaration.typeParameters = first.declaration.typeParameters := by rw [same.others]

end Entry.SameButOrder

/-- A declaration with its supertypes in the opposite order. -/
def Entry.turned (entry : Entry) : Entry :=
  { entry with declaration :=
      { entry.declaration with supertypes := entry.declaration.supertypes.reverse } }

namespace Graph

/-- Whether two graphs differ by the order of the supertypes of their declarations alone. -/
def Reordered (graph other : Graph) : Prop :=
  List.Forall₂ Entry.SameButOrder graph.entries other.entries

section Reordered

variable {graph other : Graph} (reordered : graph.Reordered other)
include reordered

/-- A name stands for the same declaration in both graphs, but for the order of its
supertypes. -/
theorem Reordered.entry? (name : QualifiedName) :
    Option.Rel Entry.SameButOrder (graph.entry? name) (other.entry? name) := by
  unfold Graph.entry?
  unfold Reordered at reordered
  generalize graph.entries = entries, other.entries = others at reordered ⊢
  induction reordered with
  | nil => exact .none
  | @cons first second _ _ same _ ih =>
    by_cases named : first.id = name
    · rw [List.find?_cons_of_pos (by simpa using named),
        List.find?_cons_of_pos (by simpa [same.id] using named)]
      exact .some same
    · rw [List.find?_cons_of_neg (by simpa using named),
        List.find?_cons_of_neg (by simpa [same.id] using named)]
      exact ih

theorem Reordered.supertypesOf_perm (type : TypeRef) :
    (graph.supertypesOf type).Perm (other.supertypesOf type) := by
  unfold supertypesOf
  cases type.declaredName? with
  | none => exact .nil
  | some name =>
    have found := reordered.entry? name
    rw [Option.bind_some, Option.bind_some]
    generalize graph.entry? name = here, other.entry? name = there at found ⊢
    cases found with
    | none => exact .nil
    | some same =>
      simp only [same.typeParameters]
      split_ifs
      · exact same.permuted.map _
      · exact same.permuted.map _

theorem Reordered.leads_eq : other.Leads = graph.Leads := by
  have direct : other.DirectSupertype = graph.DirectSupertype := by
    funext type next
    rw [eq_iff_iff, ← mem_supertypesOf_iff, ← mem_supertypesOf_iff]
    exact (reordered.supertypesOf_perm type).mem_iff.symm
  unfold Leads
  rw [direct]

/-- Searches in both graphs come to the same answer, once they may follow more types in a
row than can be reached. -/
theorem Reordered.reachesWithin {source : TypeRef} (legible : graph.Legible source)
    (finite : {type | graph.Leads source type}.Finite) (target : TypeRef) :
    ∃ answer, ∀ steps, finite.toFinset.card < steps →
      (graph.reachesWithin target steps source []).map (·.1) = some answer ∧
        (other.reachesWithin target steps source []).map (·.1) = some answer := by
  classical
  refine ⟨decide (∃ last, graph.Leads source last ∧ arrivesAt target last = true), ?_⟩
  intro steps enough
  constructor
  · obtain ⟨answer, seen, ends⟩ : ∃ answer seen,
        graph.reachesWithin target steps source [] = some (answer, seen) :=
      reachesWithin_ends finite enough
    have correct := reachesWithin_eq_true_iff legible ends
    rw [ends, Option.map_some, ← correct, Bool.decide_eq_true]
  · have otherLegible : other.Legible source := by
      unfold Legible
      rw [reordered.leads_eq]
      exact legible
    have otherFinite : {type | other.Leads source type}.Finite := by
      rw [reordered.leads_eq]
      exact finite
    have same : otherFinite.toFinset = finite.toFinset := by
      ext type
      rw [Set.Finite.mem_toFinset, Set.Finite.mem_toFinset, reordered.leads_eq]
    obtain ⟨answer, seen, ends⟩ : ∃ answer seen,
        other.reachesWithin target steps source [] = some (answer, seen) :=
      reachesWithin_ends otherFinite (same ▸ enough)
    have correct := reachesWithin_eq_true_iff otherLegible ends
    rw [ends, Option.map_some, ← reordered.leads_eq, ← correct, Bool.decide_eq_true]

/-- Where types that are shown alike look alike to the search, what a type is assignable to
is the same for every order of supertypes. -/
theorem isAssignable_of_reordered {source : TypeRef} (legible : graph.Legible source)
    (finite : {type | graph.Leads source type}.Finite) (target : TypeRef) :
    ∃ answer, graph.isAssignable source target = some answer ∧
      other.isAssignable source target = some answer ∧
      ∀ steps, finite.toFinset.card < steps →
        graph.assignableWithin? steps source target = some answer ∧
          other.assignableWithin? steps source target = some answer := by
  obtain ⟨found, ends⟩ := reordered.reachesWithin legible finite target
  have agree : ∃ answer, ∀ steps, finite.toFinset.card < steps →
      graph.assignableWithin? steps source target = some answer ∧
        other.assignableWithin? steps source target = some answer := by
    unfold assignableWithin?
    split_ifs
    · exact ⟨true, fun _ _ => ⟨rfl, rfl⟩⟩
    · exact ⟨false, fun _ _ => ⟨rfl, rfl⟩⟩
    · exact ⟨true, fun _ _ => ⟨rfl, rfl⟩⟩
    · exact ⟨found, ends⟩
  obtain ⟨answer, always⟩ := agree
  obtain ⟨here, there⟩ := always _ (Nat.lt_succ_self _)
  exact ⟨answer, isAssignable_eq_some_iff.mpr ⟨_, here⟩,
    isAssignable_eq_some_iff.mpr ⟨_, there⟩, always⟩

end Reordered

/-- A graph with the supertypes of all declarations in the opposite order. -/
def turned (graph : Graph) : Graph where
  entries := graph.entries.map Entry.turned
  distinct := by
    rw [List.map_map]
    exact graph.distinct

theorem reordered_turned (graph : Graph) : graph.Reordered graph.turned := by
  unfold Reordered turned
  rw [List.forall₂_map_right_iff, List.forall₂_same]
  intro entry _
  exact ⟨rfl, (List.reverse_perm _).symm⟩

/-- Declarations that inherit from each other may name their supertypes in any order. -/
theorem isAssignable_of_reordered_cyclic :
    cyclic.Legible (ofTexts "app.A") ∧
      cyclic.turned.isAssignable (ofTexts "app.A") Library.listOfString = some true := by
  have formed : cyclic.WellFormed := by decide +kernel
  have legible : cyclic.Legible (ofTexts "app.A") := formed.legible (by decide +kernel)
  obtain ⟨answer, here, there, -⟩ := isAssignable_of_reordered (reordered_turned cyclic) legible
    finite_cyclic Library.listOfString
  have assignable : cyclic.isAssignable (ofTexts "app.A") Library.listOfString = some true :=
    isAssignable_eq_some_iff.mpr ⟨5, rfl⟩
  exact ⟨legible, there.trans (here.symm.trans assignable)⟩

/-- `Names` is a list of texts twice: by a declaration whose name has brackets in it, which
leads nowhere, and by a declaration that is applied to texts.  Both are shown alike. -/
def lookalikes : Graph where
  entries := entriesOf false [{
    name := "app"
    declarations := [
      { name := "Names"
        kind := .interfaceType
        supertypes := [.plain "app.List<java.lang.String>",
          .declared "app.List" [.plain Library.stringName]] },
      { name := "List<java.lang.String>", kind := .interfaceType },
      { name := "List"
        kind := .interfaceType
        typeParameters := ["E"]
        supertypes := [Library.ofElement Library.listName] }] }] ++
    libraryEntries ["app.Names", "app.List<java.lang.String>", "app.List"]
  distinct := by decide +kernel

/-- What `Names` leads to. -/
def aboveNames : List TypeRef :=
  [.plain "app.Names", .plain "app.List<java.lang.String>", ofTexts "app.List",
    ofTexts "java.util.List", ofTexts "java.util.Collection"]

/-- A type that is shown like one which was followed in vain is not followed, so the order of
two such supertypes decides. -/
theorem isAssignable_lookalikes_turned :
    lookalikes.Reordered lookalikes.turned ∧
      {type | lookalikes.Leads (.plain "app.Names") type}.Finite ∧
      (∀ steps, aboveNames.length < steps →
        lookalikes.assignableWithin? steps (.plain "app.Names") Library.listOfString =
            some false ∧
          lookalikes.turned.assignableWithin? steps (.plain "app.Names")
            Library.listOfString = some true) ∧
      lookalikes.isAssignable (.plain "app.Names") Library.listOfString = some false ∧
      lookalikes.turned.isAssignable (.plain "app.Names") Library.listOfString = some true := by
  refine ⟨reordered_turned lookalikes, ?_, ?_, isAssignable_eq_some_iff.mpr ⟨6, rfl⟩,
    isAssignable_eq_some_iff.mpr ⟨6, rfl⟩⟩
  · have closed : ∀ type ∈ aboveNames, ∀ next ∈ lookalikes.supertypesOf type,
        next ∈ aboveNames := by
      decide +kernel
    exact (List.finite_toSet aboveNames).subset fun _ leads =>
      mem_of_leads closed List.mem_cons_self leads
  · intro steps enough
    obtain ⟨more, rfl⟩ : ∃ more, steps = more + 6 := ⟨steps - 6, by
      have : aboveNames.length = 5 := rfl
      omega⟩
    exact ⟨rfl, rfl⟩

end Graph

end Stencil
