import Stencil.Graph.Assignable
import Stencil.Proofs.TypeRef.Normal

/-!
# Assignability is reachability

The relation beside the search: a type leads to another if a chain of direct
supertypes does.  The search keeps one list of the types that it has seen, for
all branches.  What a search in vain leaves in this list is closed under direct
supertypes, so nothing that leads to the target can have been lost.

A search that can reach only finitely many types ends, as it never follows two
types in a row that are shown alike.
-/

namespace Stencil

namespace Graph

/-- Whether a type is a direct supertype of the declaration that another one names. -/
inductive DirectSupertype (graph : Graph) (type : TypeRef) : TypeRef → Prop where
  /-- Without arguments for its type parameters a declaration has erased
  supertypes. -/
  | erased {name : QualifiedName} {entry : Entry} {supertype : TypeRef}
      (named : type.declaredName? = some name) (found : graph.entry? name = some entry)
      (bare : type.typeArguments = []) (generic : entry.declaration.typeParameters ≠ [])
      (listed : supertype ∈ entry.declaration.supertypes) :
      DirectSupertype graph type supertype.erasure
  /-- Otherwise the type parameters stand for the arguments. -/
  | applied {name : QualifiedName} {entry : Entry} {supertype : TypeRef}
      (named : type.declaredName? = some name) (found : graph.entry? name = some entry)
      (whole : type.typeArguments ≠ [] ∨ entry.declaration.typeParameters = [])
      (listed : supertype ∈ entry.declaration.supertypes) :
      DirectSupertype graph type
        (supertype.substitute (entry.declaration.typeParameters.zip type.typeArguments))

/-- Whether a chain of direct supertypes leads from a type to another. -/
def Leads (graph : Graph) : TypeRef → TypeRef → Prop :=
  Relation.ReflTransGen graph.DirectSupertype

/-- Whether a type at the end of a chain is the target, or names its declaration
without arguments. -/
def Meets (last target : TypeRef) : Prop :=
  last.normal = target.normal ∨
    (last.typeArguments = [] ∧
      ∃ name, last.declaredName? = some name ∧ target.declaredName? = some name)

/-- Whether a type is assignable to another, as the chains of supertypes have it. -/
def Assignable (graph : Graph) (source target : TypeRef) : Prop :=
  source.normal = target.normal ∨
    ((source.isPrimitive = false ∧ source.isVoid = false ∧ target.isPrimitive = false ∧
        target.isVoid = false) ∧
      (target.normal = Library.objectType ∨
        ∃ last, graph.Leads source last ∧ Meets last target))

/-- Whether all supertypes in a graph are well formed. -/
def WellFormed (graph : Graph) : Prop :=
  ∀ entry ∈ graph.entries, ∀ supertype ∈ entry.declaration.supertypes, supertype.WellFormed

instance (graph : Graph) : Decidable graph.WellFormed :=
  inferInstanceAs (Decidable (∀ entry ∈ graph.entries,
    ∀ supertype ∈ entry.declaration.supertypes, supertype.WellFormed))

section Supertypes

variable {graph : Graph} {type next : TypeRef} {name : QualifiedName} {entry : Entry}

theorem supertypesOf_erased (named : type.declaredName? = some name)
    (found : graph.entry? name = some entry) (bare : type.typeArguments = [])
    (generic : entry.declaration.typeParameters ≠ []) :
    graph.supertypesOf type = entry.declaration.supertypes.map TypeRef.erasure := by
  unfold supertypesOf
  simp only [named, Option.bind_some, found]
  rw [if_pos (by simp [TypeRef.isRaw, named, bare, generic])]

theorem supertypesOf_applied (named : type.declaredName? = some name)
    (found : graph.entry? name = some entry)
    (whole : type.typeArguments ≠ [] ∨ entry.declaration.typeParameters = []) :
    graph.supertypesOf type = entry.declaration.supertypes.map
      (TypeRef.substitute (entry.declaration.typeParameters.zip type.typeArguments)) := by
  unfold supertypesOf
  simp only [named, Option.bind_some, found]
  rw [if_neg]
  rcases whole with applied | bare
  · simp [TypeRef.isRaw, applied]
  · simp [bare]

theorem entry?_of_mem_supertypesOf (member : next ∈ graph.supertypesOf type) :
    ∃ name entry, type.declaredName? = some name ∧ graph.entry? name = some entry := by
  unfold supertypesOf at member
  cases found : type.declaredName?.bind graph.entry? with
  | none =>
    rw [found] at member
    exact absurd member List.not_mem_nil
  | some entry =>
    obtain ⟨name, named, stored⟩ := Option.bind_eq_some_iff.mp found
    exact ⟨name, entry, named, stored⟩

theorem mem_supertypesOf_iff : next ∈ graph.supertypesOf type ↔ graph.DirectSupertype type next := by
  constructor
  · intro member
    obtain ⟨name, entry, named, found⟩ := entry?_of_mem_supertypesOf member
    by_cases whole : type.typeArguments ≠ [] ∨ entry.declaration.typeParameters = []
    · rw [supertypesOf_applied named found whole] at member
      obtain ⟨supertype, listed, rfl⟩ := List.mem_map.mp member
      exact .applied named found whole listed
    · rw [not_or, not_ne_iff] at whole
      obtain ⟨bare, generic⟩ := whole
      rw [supertypesOf_erased named found bare generic] at member
      obtain ⟨supertype, listed, rfl⟩ := List.mem_map.mp member
      exact .erased named found bare generic listed
  · intro direct
    cases direct with
    | erased named found bare generic listed =>
      rw [supertypesOf_erased named found bare generic]
      exact List.mem_map_of_mem listed
    | applied named found whole listed =>
      rw [supertypesOf_applied named found whole]
      exact List.mem_map_of_mem listed

end Supertypes

theorem DirectSupertype.wellFormed {graph : Graph} (formed : graph.WellFormed)
    {type next : TypeRef} (typeFormed : type.WellFormed) (direct : graph.DirectSupertype type next) :
    next.WellFormed := by
  cases direct with
  | erased named found bare generic listed =>
    have member := mem_of_entry? found
    exact TypeRef.wellFormed_erasure _ (formed _ member _ listed)
  | applied named found whole listed =>
    have member := mem_of_entry? found
    apply TypeRef.wellFormed_substitute _ _ (formed _ member _ listed)
    intro value given
    apply TypeRef.wellFormed_typeArguments typeFormed
    exact TypeRef.mem_of_mem_values given

theorem Leads.wellFormed {graph : Graph} (formed : graph.WellFormed) {source last : TypeRef}
    (sourceFormed : source.WellFormed) (leads : graph.Leads source last) : last.WellFormed := by
  induction leads with
  | refl => exact sourceFormed
  | tail _ direct ih => exact direct.wellFormed formed ih

/-- Whether two types look alike to the search: they are shown alike, and they name the same
declaration, if any, with arguments that are shown alike. -/
structure LooksLike (first second : TypeRef) : Prop where
  display : first.display = second.display
  declaredName? : first.declaredName? = second.declaredName?
  arguments : first.typeArguments.map TypeRef.display = second.typeArguments.map TypeRef.display

theorem LooksLike.isRaw {first second : TypeRef} (alike : LooksLike first second) :
    first.isRaw = second.isRaw := by
  have bare : first.typeArguments.isEmpty = second.typeArguments.isEmpty := by
    rw [← List.isEmpty_map (f := TypeRef.display), alike.arguments, List.isEmpty_map]
  unfold TypeRef.isRaw
  rw [alike.declaredName?, bare]

theorem LooksLike.map_display_supertypesOf {first second : TypeRef}
    (alike : LooksLike first second) (graph : Graph) :
    (graph.supertypesOf first).map TypeRef.display =
      (graph.supertypesOf second).map TypeRef.display := by
  unfold supertypesOf
  rw [alike.declaredName?, alike.isRaw]
  cases second.declaredName?.bind graph.entry? with
  | none => rfl
  | some entry =>
    dsimp only
    split_ifs
    · rfl
    · rw [List.map_map, List.map_map]
      apply List.map_congr_left
      intro supertype _
      apply TypeRef.display_substitute
      intro name
      rw [TypeRef.map_display_bound?, TypeRef.map_display_bound?, alike.arguments]

theorem LooksLike.arrivesAt {first second : TypeRef} (alike : LooksLike first second)
    (target : TypeRef) : arrivesAt target first = arrivesAt target second := by
  unfold Graph.arrivesAt TypeRef.sameType
  rw [alike.display, alike.isRaw, alike.declaredName?]

theorem looksLike_of_display_eq {first second : TypeRef} (formed : first.WellFormed)
    (otherFormed : second.WellFormed) (same : first.display = second.display) :
    LooksLike first second := by
  have normal := TypeRef.normal_eq_of_display_eq first second formed.named otherFormed.named same
  have shown (type : TypeRef) :
      type.typeArguments.map TypeRef.display = type.normal.typeArguments.map TypeRef.display := by
    rw [TypeRef.typeArguments_normal, List.map_map]
    exact List.map_congr_left fun argument _ => (TypeRef.display_normal argument).symm
  refine ⟨same, ?_, ?_⟩
  · rw [← TypeRef.declaredName?_normal formed, normal, TypeRef.declaredName?_normal otherFormed]
  · rw [shown first, normal, ← shown second]

/-- Whether all that a type leads to can be told apart by how it is shown, as far as the
search is concerned. -/
def Legible (graph : Graph) (source : TypeRef) : Prop :=
  ∀ first second, graph.Leads source first → graph.Leads source second →
    first.display = second.display → LooksLike first second

/-- Well-formed types in a graph with well-formed supertypes are legible. -/
theorem WellFormed.legible {graph : Graph} (formed : graph.WellFormed) {source : TypeRef}
    (sourceFormed : source.WellFormed) : graph.Legible source := by
  intro first second leads otherLeads same
  exact looksLike_of_display_eq (leads.wellFormed formed sourceFormed)
    (otherLeads.wellFormed formed sourceFormed) same

theorem arrivesAt_iff {target current : TypeRef} (formed : current.WellFormed)
    (targetFormed : target.WellFormed) : arrivesAt target current = true ↔ Meets current target := by
  unfold arrivesAt Meets
  rw [Bool.or_eq_true, TypeRef.sameType_iff,
    TypeRef.display_eq_iff_normal_eq formed.named targetFormed.named]
  apply or_congr Iff.rfl
  simp only [TypeRef.isRaw, Bool.and_eq_true, List.isEmpty_iff, beq_iff_eq]
  constructor
  · rintro ⟨⟨named, bare⟩, same⟩
    obtain ⟨name, found⟩ := Option.isSome_iff_exists.mp named
    exact ⟨bare, name, found, same ▸ found⟩
  · rintro ⟨bare, name, found, targetFound⟩
    exact ⟨⟨by rw [found]; rfl, bare⟩, found.trans targetFound.symm⟩

end Graph

end Stencil
