import Stencil.Template

/-!
# Templates whose searches end

Matching the members of a template asks a search about every method without parameters, and
about no other member.  It gives the members that ask for an implementation exactly if all
these searches end.
-/

namespace Stencil.Graph

variable {graph : Graph} {template : QualifiedName}

/-- Whether the search for every method without parameters of a template has an end. -/
def SearchesEnd (graph : Graph) (template : QualifiedName) : Prop :=
  ∀ member ∈ graph.membersOf template, member.kind = .method → member.parameterCount = 0 →
    (graph.isAssignable member.returnType Library.listOfString).isSome = true

instance (graph : Graph) (template : QualifiedName) : Decidable (graph.SearchesEnd template) :=
  inferInstanceAs (Decidable (∀ member ∈ graph.membersOf template, _))

theorem isEligible_isSome_iff {member : MemberView} :
    (graph.isEligible member).isSome = true ↔
      (member.kind = .method → member.parameterCount = 0 →
        (graph.isAssignable member.returnType Library.listOfString).isSome = true) := by
  unfold isEligible
  by_cases method : member.kind = .method
  · by_cases bare : member.parameterCount = 0
    · rw [if_pos ⟨method, bare⟩, Option.isSome_map]
      exact ⟨fun ends _ _ => ends, fun ends => ends method bare⟩
    · rw [if_neg fun both => bare both.2]
      exact iff_of_true rfl fun _ other => absurd other bare
  · rw [if_neg fun both => method both.1]
    exact iff_of_true rfl fun other => absurd other method

theorem isEligible_eq_true_iff {member : MemberView} :
    graph.isEligible member = some true ↔
      member.kind = .method ∧ member.parameterCount = 0 ∧
        graph.isAssignable member.returnType Library.listOfString = some true ∧
        member.returnKind = .declared := by
  unfold isEligible
  by_cases shape : member.kind = .method ∧ member.parameterCount = 0
  · rw [if_pos shape, Option.map_eq_some_iff]
    simp [shape]
  · rw [if_neg shape]
    refine iff_of_false (by simp) ?_
    rintro ⟨method, bare, -⟩
    exact shape ⟨method, bare⟩

theorem keepEligible_of_known {members : List MemberView}
    (known : ∀ member ∈ members, (graph.isEligible member).isSome = true) :
    graph.keepEligible members =
      some (members.filter fun member => graph.isEligible member == some true) := by
  induction members with
  | nil => rfl
  | cons member rest ih =>
    obtain ⟨first, later⟩ := List.forall_mem_cons.mp known
    obtain ⟨answer, eligible⟩ := Option.isSome_iff_exists.mp first
    rw [keepEligible, eligible, ih later]
    cases answer with
    | true =>
      rw [List.filter_cons_of_pos (by rw [eligible]; rfl)]
      rfl
    | false =>
      rw [List.filter_cons_of_neg (by rw [eligible]; decide)]
      rfl

theorem known_of_keepEligible {members kept : List MemberView}
    (found : graph.keepEligible members = some kept) :
    ∀ member ∈ members, (graph.isEligible member).isSome = true := by
  induction members generalizing kept with
  | nil => exact fun _ absent => absurd absent List.not_mem_nil
  | cons member rest ih =>
    obtain ⟨answer, eligible, found⟩ := Option.bind_eq_some_iff.mp found
    obtain ⟨others, later, -⟩ := Option.bind_eq_some_iff.mp found
    exact List.forall_mem_cons.mpr ⟨by rw [eligible]; rfl, ih later⟩

/-- The eligible members among some are known exactly if it is known of each whether it is. -/
theorem keepEligible_eq_some_iff {members kept : List MemberView} :
    graph.keepEligible members = some kept ↔
      (∀ member ∈ members, (graph.isEligible member).isSome = true) ∧
        kept = members.filter fun member => graph.isEligible member == some true := by
  constructor
  · intro found
    have known := known_of_keepEligible found
    rw [keepEligible_of_known known] at found
    exact ⟨known, (Option.some.inj found).symm⟩
  · rintro ⟨known, rfl⟩
    exact keepEligible_of_known known

/-- The members of a template of which it is known that they ask for an implementation. -/
def askingMembers (graph : Graph) (template : QualifiedName) : List EligibleMember :=
  ((graph.membersOf template).filter fun member => graph.isEligible member == some true).map
    fun member =>
      { name := member.name
        returnType := member.returnType
        isAbstract := member.isAbstract
        sourceName := qualify ((graph.packageOf? template).getD "") member.name }

theorem eligibleMembers_eq_some_iff {members : List EligibleMember} :
    graph.eligibleMembers template = some members ↔
      graph.SearchesEnd template ∧ members = graph.askingMembers template := by
  unfold eligibleMembers askingMembers SearchesEnd
  simp only [Option.map_eq_some_iff, keepEligible_eq_some_iff, isEligible_isSome_iff]
  constructor
  · rintro ⟨kept, ⟨ends, rfl⟩, rfl⟩
    exact ⟨ends, rfl⟩
  · rintro ⟨ends, rfl⟩
    exact ⟨_, ⟨ends, rfl⟩, rfl⟩

theorem eligibleMembers_isSome_iff :
    (graph.eligibleMembers template).isSome = true ↔ graph.SearchesEnd template := by
  rw [Option.isSome_iff_exists]
  constructor
  · rintro ⟨members, found⟩
    exact (eligibleMembers_eq_some_iff.mp found).1
  · intro ends
    exact ⟨_, eligibleMembers_eq_some_iff.mpr ⟨ends, rfl⟩⟩

/-- Nothing is searched for a template that is not there. -/
theorem searchesEnd_of_entry?_eq_none (missing : graph.entry? template = none) :
    graph.SearchesEnd template := by
  intro member present
  unfold membersOf at present
  rw [missing] at present
  exact absurd present List.not_mem_nil

end Stencil.Graph
