import Stencil.Proofs.Generation
import Stencil.Proofs.Graph.Bounded
import Stencil.Proofs.Graph.Construction

/-!
# Graphs do not depend on the order of declarations

Documents that say the same in another order, or that hand out the declarations of a package
in several pieces, give graphs whose entries are permutations of each other.  Names stand for
the same declarations in such graphs, so types are assignable in the one if they are in the
other, and templates get the same outputs.  All that sees the order is the name that is
suggested for one that is not there.
-/

namespace Stencil

/-- Packages with the same declarations, handed over in another way. -/
inductive Rearranged : List Package → List Package → Prop where
  /-- The packages come in another order. -/
  | packages {first second : List Package} (permuted : first.Perm second) :
      Rearranged first second
  /-- The declarations of a package come in another order. -/
  | declarations {before after : List Package} {name : String} {first second : List Declaration}
      (permuted : first.Perm second) :
      Rearranged (before ++ ⟨name, first⟩ :: after) (before ++ ⟨name, second⟩ :: after)
  /-- A package comes in two pieces. -/
  | split {before after : List Package} {name : String} {first second : List Declaration} :
      Rearranged (before ++ ⟨name, first ++ second⟩ :: after)
        (before ++ ⟨name, first⟩ :: ⟨name, second⟩ :: after)
  /-- What can be done can be undone; so two pieces come as one package. -/
  | symm {first second : List Package} (rearranged : Rearranged first second) :
      Rearranged second first
  | trans {first second third : List Package} (former : Rearranged first second)
      (latter : Rearranged second third) : Rearranged first third

theorem Rearranged.entriesOf {first second : List Package} (rearranged : Rearranged first second)
    (library : Bool) : (entriesOf library first).Perm (entriesOf library second) := by
  induction rearranged with
  | packages permuted => exact permuted.flatMap_right _
  | declarations permuted =>
    unfold Stencil.entriesOf
    rw [List.flatMap_append, List.flatMap_append, List.flatMap_cons, List.flatMap_cons]
    exact ((permuted.map _).append_right _).append_left _
  | split =>
    unfold Stencil.entriesOf
    simp only [List.flatMap_append, List.flatMap_cons, List.map_append, List.append_assoc]
    exact List.Perm.refl _
  | symm _ ih => exact ih.symm
  | trans _ _ former latter => exact former.trans latter

namespace Graph

theorem libraryEntries_congr {first second : List QualifiedName}
    (permuted : first.Perm second) : libraryEntries first = libraryEntries second := by
  unfold libraryEntries
  apply List.filter_congr
  intro entry _
  rw [Bool.eq_iff_iff]
  simp [permuted.mem_iff]

/-- A rearranged document is indexed too, with the same entries. -/
theorem ofDocument_of_rearranged {document other : Document}
    (rearranged : Rearranged document.packages other.packages) {graph : Graph}
    (indexed : ofDocument document = .ok graph) :
    ∃ second, ofDocument other = .ok second ∧ graph.entries.Perm second.entries := by
  obtain ⟨distinct, entries⟩ := ofDocument_eq_ok_iff.mp indexed
  have own := rearranged.entriesOf false
  have ids := own.map Entry.id
  have permuted : (entriesIn document).Perm (entriesIn other) := by
    unfold entriesIn
    rw [libraryEntries_congr ids]
    exact own.append_right _
  have otherDistinct : ((entriesIn other).map Entry.id).Nodup := by
    rw [← (permuted.map Entry.id).nodup_iff, ← entries]
    exact graph.distinct
  refine ⟨⟨entriesIn other, otherDistinct⟩, ?_, entries ▸ permuted⟩
  exact ofDocument_eq_ok_iff.mpr ⟨ids.nodup_iff.mp distinct, rfl⟩

section Permuted

variable {graph other : Graph}

theorem entry?_of_perm (permuted : graph.entries.Perm other.entries) (name : QualifiedName) :
    other.entry? name = graph.entry? name := by
  apply Option.ext
  intro entry
  constructor
  · intro found
    have member := mem_of_entry? found
    rw [← id_of_entry? found]
    exact entry?_id (permuted.mem_iff.mpr member)
  · intro found
    have member := mem_of_entry? found
    rw [← id_of_entry? found]
    exact entry?_id (permuted.mem_iff.mp member)

/-- Graphs in which every name stands for the same. -/
def SameEntries (graph other : Graph) : Prop := ∀ name, other.entry? name = graph.entry? name

section SameEntries

variable (same : graph.SameEntries other)
include same

theorem supertypesOf_of_same (type : TypeRef) :
    other.supertypesOf type = graph.supertypesOf type := by
  unfold supertypesOf
  cases type.declaredName? with
  | none => rfl
  | some name => rw [Option.bind_some, Option.bind_some, same name]

theorem reachesWithin_of_same (target : TypeRef) (steps : Nat) :
    other.reachesWithin target steps = graph.reachesWithin target steps := by
  induction steps with
  | zero => rfl
  | succ steps ih =>
    funext current seen
    rw [reachesWithin, reachesWithin, ih, supertypesOf_of_same same]

theorem assignableWithin?_of_same (steps : Nat) (source target : TypeRef) :
    other.assignableWithin? steps source target = graph.assignableWithin? steps source target := by
  unfold assignableWithin?
  rw [reachesWithin_of_same same]

theorem membersOf_of_same (name : QualifiedName) : other.membersOf name = graph.membersOf name := by
  unfold membersOf
  rw [same name]

theorem simpleName?_of_same (name : QualifiedName) :
    other.simpleName? name = graph.simpleName? name := by
  unfold simpleName?
  rw [same name]

theorem lookup?_of_same (name : QualifiedName) : other.lookup? name = graph.lookup? name := by
  unfold lookup?
  rw [same name]

end SameEntries

/-- Types are assignable in a graph whatever the order of its entries. -/
theorem isAssignable_of_perm (permuted : graph.entries.Perm other.entries)
    (source target : TypeRef) : other.isAssignable source target =
      graph.isAssignable source target := by
  apply Option.ext
  intro answer
  simp only [isAssignable_eq_some_iff, assignableWithin?_of_same (entry?_of_perm permuted)]

theorem abstractMembers_of_perm (permuted : graph.entries.Perm other.entries)
    (template : QualifiedName) : other.abstractMembers template = graph.abstractMembers template := by
  have same := entry?_of_perm permuted
  have agree : graph.AgreeOnLists other template :=
    fun member _ _ _ => isAssignable_of_perm permuted _ _
  apply agree.abstractMembers_eq (membersOf_of_same same template)
  unfold packageOf?
  rw [same template]

theorem annotatedWith_of_perm (permuted : graph.entries.Perm other.entries)
    (marker : QualifiedName) : (graph.annotatedWith marker).Perm (other.annotatedWith marker) :=
  (permuted.filter _).map _

end Permuted

end Graph

/-- Errors that are alike but for the name that is suggested, if names have to be there. -/
inductive GenerationError.SameButHint (policy : LookupPolicy) :
    GenerationError → GenerationError → Prop where
  | same (error : GenerationError) : SameButHint policy error error
  | hint {template : QualifiedName} {member : String} {source : QualifiedName}
      {first second : Option String} (strict : policy = .strict) :
      SameButHint policy (.unresolvedSource template member source first)
        (.unresolvedSource template member source second)

/-- Outcomes that are alike but for the name that is suggested. -/
inductive SameOutcome (policy : LookupPolicy) {α : Type} :
    Except GenerationError α → Except GenerationError α → Prop where
  | ok (value : α) : SameOutcome policy (.ok value) (.ok value)
  | error {first second : GenerationError} (alike : first.SameButHint policy second) :
      SameOutcome policy (.error first) (.error second)

theorem SameOutcome.refl (policy : LookupPolicy) {α : Type}
    (outcome : Except GenerationError α) : SameOutcome policy outcome outcome := by
  cases outcome with
  | ok value => exact .ok value
  | error error => exact .error (.same error)

theorem SameOutcome.cases {policy : LookupPolicy} {α : Type}
    {first second : Except GenerationError α} (alike : SameOutcome policy first second) :
    (∃ value, first = .ok value ∧ second = .ok value) ∨
      ∃ error other, first = .error error ∧ second = .error other ∧
        error.SameButHint policy other := by
  cases alike with
  | ok value => exact .inl ⟨value, rfl, rfl⟩
  | error errors => exact .inr ⟨_, _, rfl, rfl, errors⟩

theorem SameOutcome.cases_of_rel {policy : LookupPolicy} {α : Type}
    {first second : Option (Except GenerationError α)}
    (related : Option.Rel (SameOutcome policy) first second) :
    (first = none ∧ second = none) ∨
      (∃ value, first = some (.ok value) ∧ second = some (.ok value)) ∨
      ∃ error other, first = some (.error error) ∧ second = some (.error other) ∧
        error.SameButHint policy other := by
  cases related with
  | none => exact .inl ⟨rfl, rfl⟩
  | some alike =>
    rcases alike.cases with ⟨value, rfl, rfl⟩ | ⟨error, other, rfl, rfl, errors⟩
    · exact .inr (.inl ⟨value, rfl, rfl⟩)
    · exact .inr (.inr ⟨error, other, rfl, rfl, errors⟩)

namespace Graph

variable {graph other : Graph}

theorem extractNames_sameOutcome (same : graph.SameEntries other) (policy : LookupPolicy)
    (template : QualifiedName) (member : String) (source : QualifiedName) :
    SameOutcome policy (graph.extractNames template member source policy)
      (other.extractNames template member source policy) := by
  have answers := lookup?_of_same same source
  by_cases kept : policy = .lenient ∨ (graph.lookup? source).isSome = true
  · have names : other.methodNames source = graph.methodNames source := by
      rw [methodNames, methodNames, membersOf_of_same same]
    rw [extractNames_congr kept answers names, extractNames_of_kept kept]
    exact .ok _
  · obtain ⟨strict, missing⟩ := not_or.mp kept
    rw [Bool.not_eq_true, Option.isSome_eq_false_iff, Option.isNone_iff_eq_none] at missing
    cases policy with
    | lenient => exact absurd rfl strict
    | strict =>
      rw [extractNames_of_missing missing, extractNames_of_missing (answers.trans missing)]
      exact .error (.hint rfl)

theorem collect_sameOutcome (same : graph.SameEntries other) (policy : LookupPolicy)
    (template : QualifiedName) (members : List EligibleMember) (collected : Collected) :
    SameOutcome policy (graph.collect template policy members collected)
      (other.collect template policy members collected) := by
  induction members generalizing collected with
  | nil => exact .ok _
  | cons first rest ih =>
    rw [collect, collect]
    rcases (extractNames_sameOutcome same policy template first.name first.sourceName).cases with
      ⟨extraction, here, there⟩ | ⟨error, second, here, there, alike⟩
    · rw [here, there]
      exact ih (collected.add first extraction)
    · rw [here, there]
      exact .error alike

theorem assemble_sameOutcome (same : graph.SameEntries other) (settings : Settings)
    (template : QualifiedName) (entry : Entry) (members : List EligibleMember) :
    SameOutcome settings.lookup (graph.assemble template settings entry members)
      (other.assemble template settings entry members) := by
  unfold assemble
  rcases (collect_sameOutcome same settings.lookup template members {}).cases with
    ⟨collected, here, there⟩ | ⟨error, second, here, there, alike⟩
  · simp only [here, there]
    exact .ok _
  · simp only [here, there]
    exact .error alike

/-- A template gets the same output whatever the order of the entries, and if it gets none,
then for the same reason. -/
theorem generate_sameOutcome (permuted : graph.entries.Perm other.entries) (settings : Settings)
    (template : QualifiedName) :
    Option.Rel (SameOutcome settings.lookup) (graph.generate template settings)
      (other.generate template settings) := by
  have same := entry?_of_perm permuted
  unfold generate
  rw [same template, abstractMembers_of_perm permuted]
  cases graph.entry? template with
  | none => exact .some (.refl _ _)
  | some entry =>
    cases graph.abstractMembers template with
    | none => exact .none
    | some members => exact .some (assemble_sameOutcome same settings template entry members)

end Graph

end Stencil
