import Mathlib.Tactic
import Stencil.Generated
import Stencil.Proofs.Template

/-!
# What an output is made from

The output of a template is determined by the template's own declaration, by
which of its members ask for an implementation, and by what their sources give.
A graph that agrees with another on these makes the same output.
-/

namespace Stencil

theorem qualify_append (package simpleName suffix : String) :
    qualify package (simpleName ++ suffix) = qualify package simpleName ++ suffix := by
  unfold qualify
  by_cases default : package = ""
  · rw [if_pos default, if_pos default]
  · rw [if_neg default, if_neg default, String.append_assoc, String.append_assoc,
      String.append_assoc]

namespace Graph

theorem lookup?_eq_some {graph : Graph} {name source : QualifiedName}
    (found : graph.lookup? name = some source) :
    source = name ∧ ∃ entry, graph.entry? name = some entry := by
  unfold lookup? at found
  obtain ⟨entry, entryFound, rfl⟩ := Option.map_eq_some_iff.mp found
  have same := id_of_entry? entryFound
  exact ⟨same, entry, entryFound⟩

theorem lookup?_isSome_iff {graph : Graph} {name : QualifiedName} :
    (graph.lookup? name).isSome = true ↔ ∃ entry, graph.entry? name = some entry := by
  unfold lookup?
  rw [Option.isSome_map]
  exact Option.isSome_iff_exists

theorem methodNames_of_none {graph : Graph} {name : QualifiedName}
    (absent : graph.lookup? name = none) : graph.methodNames name = [] := by
  have noEntry : graph.entry? name = none := Option.map_eq_none_iff.mp absent
  unfold methodNames membersOf
  rw [noEntry]
  rfl

section ExtractNames

variable {graph : Graph} {template name : QualifiedName} {member : String}
  {policy : LookupPolicy}

/-- What a source gives, unless it is refused. -/
theorem extractNames_of_kept (kept : policy = .lenient ∨ (graph.lookup? name).isSome = true) :
    graph.extractNames template member name policy =
      .ok ⟨graph.lookup? name, graph.methodNames name⟩ := by
  unfold extractNames
  cases found : graph.lookup? name with
  | some source =>
    obtain ⟨rfl, -⟩ := lookup?_eq_some found
    rfl
  | none =>
    rcases kept with rfl | known
    · rw [methodNames_of_none found]
    · rw [found] at known
      cases known

theorem extractNames_of_missing (missing : graph.lookup? name = none) :
    graph.extractNames template member name .strict =
      .error (.unresolvedSource template member name (graph.nearestName? name)) := by
  unfold extractNames
  rw [missing]

/-- Only the strict policy refuses a source, and only one that is not there. -/
theorem extractNames_eq_ok_iff {extraction : Extraction} :
    graph.extractNames template member name policy = .ok extraction ↔
      (policy = .lenient ∨ (graph.lookup? name).isSome = true) ∧
        extraction = ⟨graph.lookup? name, graph.methodNames name⟩ := by
  constructor
  · intro extracted
    have kept : policy = .lenient ∨ (graph.lookup? name).isSome = true := by
      cases policy with
      | lenient => exact .inl rfl
      | strict =>
        right
        by_contra missing
        rw [Bool.not_eq_true, Option.isSome_eq_false_iff, Option.isNone_iff_eq_none] at missing
        rw [extractNames_of_missing missing] at extracted
        cases extracted
    rw [extractNames_of_kept kept] at extracted
    exact ⟨kept, (Except.ok.inj extracted).symm⟩
  · rintro ⟨kept, rfl⟩
    exact extractNames_of_kept kept

end ExtractNames

end Graph

/-- What is collected from members: a method for every one of them, and the name
of its source among the declarations of the provenance or, once, among those that
are not there. -/
structure Collected.Holds (collected : Collected) (graph : Graph)
    (members : List EligibleMember) : Prop where
  methods : collected.methods =
    members.map fun member => ⟨member, graph.methodNames member.sourceName⟩
  provenance : ∀ name, name ∈ collected.provenance ↔
    name ∈ members.map EligibleMember.sourceName ∧ (graph.lookup? name).isSome
  unresolved : collected.unresolved = ((members.map EligibleMember.sourceName).filter
    fun name => (graph.lookup? name).isNone).eraseDups

namespace Collected

theorem holds_nil (graph : Graph) : Holds {} graph [] where
  methods := rfl
  provenance := by
    intro name
    exact iff_of_false NameSet.not_mem_empty fun known => List.not_mem_nil known.1
  unresolved := rfl

theorem Holds.mem_unresolved {graph : Graph} {collected : Collected}
    {members : List EligibleMember} (holds : collected.Holds graph members)
    {name : QualifiedName} : name ∈ collected.unresolved ↔
      name ∈ members.map EligibleMember.sourceName ∧ graph.lookup? name = none := by
  rw [holds.unresolved, List.mem_eraseDups, List.mem_filter, Option.isNone_iff_eq_none]

private theorem eraseDups_concat (names : List String) (name : String) :
    (names ++ [name]).eraseDups =
      if names.eraseDups.contains name then names.eraseDups else names.eraseDups ++ [name] := by
  have removed : [name].removeAll names = if names.contains name then [] else [name] := by
    simp only [List.removeAll, List.filter_cons, List.filter_nil, List.elem_eq_contains]
    cases names.contains name <;> rfl
  have same : names.eraseDups.contains name = names.contains name := by
    rw [Bool.eq_iff_iff, List.contains_iff_mem, List.contains_iff_mem, List.mem_eraseDups]
  rw [List.eraseDups_append, removed, same]
  split_ifs
  · exact List.append_nil _
  · rfl

theorem Holds.add {graph : Graph} {collected : Collected} {members : List EligibleMember}
    (holds : collected.Holds graph members) (member : EligibleMember) :
    (collected.add member
      ⟨graph.lookup? member.sourceName, graph.methodNames member.sourceName⟩).Holds graph
        (members ++ [member]) := by
  have methods : collected.methods ++ [⟨member, graph.methodNames member.sourceName⟩] =
      (members ++ [member]).map fun member => ⟨member, graph.methodNames member.sourceName⟩ := by
    rw [holds.methods, List.map_append]
    rfl
  have sources : (members ++ [member]).map EligibleMember.sourceName =
      members.map EligibleMember.sourceName ++ [member.sourceName] := List.map_append
  unfold Collected.add
  cases found : graph.lookup? member.sourceName with
  | some source =>
    obtain ⟨rfl, -⟩ := Graph.lookup?_eq_some found
    have there : (graph.lookup? member.sourceName).isSome = true := by rw [found]; rfl
    refine ⟨methods, fun name => ?_, ?_⟩
    · rw [NameSet.mem_insert, holds.provenance, sources, List.mem_append, List.mem_singleton]
      constructor
      · rintro (rfl | ⟨used, known⟩)
        · exact ⟨.inr rfl, there⟩
        · exact ⟨.inl used, known⟩
      · rintro ⟨used | rfl, known⟩
        · exact .inr ⟨used, known⟩
        · exact .inl rfl
    · rw [sources, List.filter_append, List.filter_cons_of_neg (by simp [found]),
        List.filter_nil, List.append_nil]
      exact holds.unresolved
  | none =>
    refine ⟨methods, fun name => ?_, ?_⟩
    · rw [holds.provenance, sources, List.mem_append, List.mem_singleton]
      constructor
      · rintro ⟨used, known⟩
        exact ⟨.inl used, known⟩
      · rintro ⟨used | rfl, known⟩
        · exact ⟨used, known⟩
        · rw [found] at known
          cases known
    · rw [sources, List.filter_append, List.filter_cons_of_pos (by rw [found]; rfl),
        List.filter_nil, eraseDups_concat, ← holds.unresolved]

end Collected

namespace Graph

theorem collect_cons_eq_ok_iff {graph : Graph} {template : QualifiedName}
    {policy : LookupPolicy} {first : EligibleMember} {rest : List EligibleMember}
    {start collected : Collected} :
    graph.collect template policy (first :: rest) start = .ok collected ↔
      ∃ extraction,
        graph.extractNames template first.name first.sourceName policy = .ok extraction ∧
        graph.collect template policy rest (start.add first extraction) = .ok collected := by
  rw [collect]
  cases graph.extractNames template first.name first.sourceName policy with
  | error error =>
    constructor
    · intro ends
      cases ends
    · rintro ⟨extraction, extracted, -⟩
      cases extracted
  | ok extraction =>
    constructor
    · intro ends
      exact ⟨extraction, rfl, ends⟩
    · rintro ⟨other, extracted, ends⟩
      cases extracted
      exact ends

theorem extractNames_of_collect {graph : Graph} {template : QualifiedName}
    {policy : LookupPolicy} {members : List EligibleMember} {start collected : Collected}
    (ends : graph.collect template policy members start = .ok collected) :
    ∀ member ∈ members, ∃ extraction,
      graph.extractNames template member.name member.sourceName policy = .ok extraction := by
  induction members generalizing start with
  | nil =>
    intro member absent
    exact absurd absent List.not_mem_nil
  | cons first rest ih =>
    obtain ⟨extraction, extracted, later⟩ := collect_cons_eq_ok_iff.mp ends
    intro member present
    rcases List.mem_cons.mp present with rfl | present
    · exact ⟨extraction, extracted⟩
    · exact ih later member present

theorem holds_of_collect {graph : Graph} {template : QualifiedName} {policy : LookupPolicy}
    {members : List EligibleMember} {start collected : Collected} {before : List EligibleMember}
    (holds : start.Holds graph before)
    (ends : graph.collect template policy members start = .ok collected) :
    collected.Holds graph (before ++ members) := by
  induction members generalizing start before with
  | nil =>
    cases ends
    rwa [List.append_nil]
  | cons first rest ih =>
    obtain ⟨extraction, extracted, later⟩ := collect_cons_eq_ok_iff.mp ends
    rw [(extractNames_eq_ok_iff.mp extracted).2] at later
    have done := ih (holds.add first) later
    rwa [List.append_assoc] at done

theorem collect_congr {graph other : Graph} {template : QualifiedName} {policy : LookupPolicy}
    {members : List EligibleMember}
    (same : ∀ member ∈ members,
      other.extractNames template member.name member.sourceName policy =
        graph.extractNames template member.name member.sourceName policy)
    (collected : Collected) :
    other.collect template policy members collected =
      graph.collect template policy members collected := by
  induction members generalizing collected with
  | nil => rfl
  | cons first rest ih =>
    rw [collect, collect, same first List.mem_cons_self]
    cases graph.extractNames template first.name first.sourceName policy with
    | error error => rfl
    | ok extraction =>
      apply ih
      intro member present
      exact same member (List.mem_cons_of_mem _ present)

/-- The members of a template of which it is known that they get a method. -/
def bodilessMembers (graph : Graph) (template : QualifiedName) : List EligibleMember :=
  (graph.askingMembers template).filter EligibleMember.isAbstract

theorem abstractMembers_eq_some_iff {graph : Graph} {template : QualifiedName}
    {members : List EligibleMember} :
    graph.abstractMembers template = some members ↔
      graph.SearchesEnd template ∧ members = graph.bodilessMembers template := by
  unfold abstractMembers bodilessMembers
  simp only [Option.map_eq_some_iff, eligibleMembers_eq_some_iff]
  constructor
  · rintro ⟨eligible, ⟨ends, rfl⟩, rfl⟩
    exact ⟨ends, rfl⟩
  · rintro ⟨ends, rfl⟩
    exact ⟨_, ⟨ends, rfl⟩, rfl⟩

section Generate

variable {graph : Graph} {template : QualifiedName} {settings : Settings} {entry : Entry}

/-- A template is made into an output, or refused, exactly if its searches end. -/
theorem generate_isSome_iff (graph : Graph) (template : QualifiedName) (settings : Settings) :
    (graph.generate template settings).isSome = true ↔ graph.SearchesEnd template := by
  unfold generate
  cases found : graph.entry? template with
  | none => exact iff_of_true rfl (searchesEnd_of_entry?_eq_none found)
  | some entry =>
    show (Option.map _ (Option.map _ _)).isSome = true ↔ _
    rw [Option.isSome_map, Option.isSome_map]
    exact eligibleMembers_isSome_iff

theorem generate_eq_none_iff (graph : Graph) (template : QualifiedName) (settings : Settings) :
    graph.generate template settings = none ↔ ¬graph.SearchesEnd template := by
  rw [← Option.not_isSome_iff_eq_none, generate_isSome_iff]

theorem searchesEnd_of_generate {result : Except GenerationError GeneratedUnit}
    (generated : graph.generate template settings = some result) : graph.SearchesEnd template :=
  (graph.generate_isSome_iff template settings).mp (by rw [generated]; rfl)

theorem generate_eq_assemble (found : graph.entry? template = some entry)
    (ends : graph.SearchesEnd template) (settings : Settings) :
    graph.generate template settings =
      some (graph.assemble template settings entry (graph.bodilessMembers template)) := by
  have members := abstractMembers_eq_some_iff.mpr ⟨ends, rfl⟩
  unfold generate
  rw [found, members]
  rfl

/-- What an output looks like: its template is a declaration, and the rest comes
from what is collected from the template's members. -/
theorem generate_eq_ok {made : GeneratedUnit}
    (generated : graph.generate template settings = some (.ok made)) :
    ∃ entry collected, graph.entry? template = some entry ∧
      graph.collect template settings.lookup (graph.bodilessMembers template) {} =
        .ok collected ∧
      made = {
        template
        qualifiedName := qualify entry.package (settings.implName entry.declaration.name)
        text := ImplementationPlan.render settings.escapeLiterals
          ⟨entry.package, entry.declaration.name, settings.implName entry.declaration.name,
            collected.methods⟩
        provenance := collected.provenance
        unresolved := collected.unresolved } := by
  have ends := searchesEnd_of_generate generated
  cases found : graph.entry? template with
  | none =>
    unfold generate at generated
    rw [found] at generated
    cases generated
  | some entry =>
    rw [generate_eq_assemble found ends, assemble] at generated
    cases collects : graph.collect template settings.lookup (graph.bodilessMembers template) {} with
    | error error =>
      rw [collects] at generated
      cases generated
    | ok collected =>
      rw [collects] at generated
      exact ⟨entry, collected, rfl, rfl, (Except.ok.inj (Option.some.inj generated)).symm⟩

/-- Whether a declaration has an output is settled by collecting from its members. -/
theorem exists_generate_of_collect (found : graph.entry? template = some entry)
    (ends : graph.SearchesEnd template) {collected : Collected}
    (collects : graph.collect template settings.lookup (graph.bodilessMembers template) {} =
      .ok collected) : ∃ made, graph.generate template settings = some (.ok made) := by
  rw [generate_eq_assemble found ends, assemble, collects]
  exact ⟨_, rfl⟩

theorem generate_of_collect_error (found : graph.entry? template = some entry)
    (ends : graph.SearchesEnd template) {error : GenerationError}
    (fails : graph.collect template settings.lookup (graph.bodilessMembers template) {} =
      .error error) : graph.generate template settings = some (.error error) := by
  rw [generate_eq_assemble found ends, assemble, fails]

theorem template_of_generate {made : GeneratedUnit}
    (generated : graph.generate template settings = some (.ok made)) :
    made.template = template := by
  obtain ⟨entry, collected, -, -, rfl⟩ := generate_eq_ok generated
  rfl

theorem qualifiedName_of_generate {made : GeneratedUnit}
    (generated : graph.generate template settings = some (.ok made)) :
    made.qualifiedName = template ++ settings.implSuffix := by
  obtain ⟨entry, collected, found, -, rfl⟩ := generate_eq_ok generated
  show qualify entry.package (entry.declaration.name ++ settings.implSuffix) = _
  have id := id_of_entry? found
  rw [qualify_append, ← id]
  rfl

/-- Different templates never share the name of their outputs. -/
theorem template_eq_of_qualifiedName_eq {other : QualifiedName} {made second : GeneratedUnit}
    (generated : graph.generate template settings = some (.ok made))
    (otherGenerated : graph.generate other settings = some (.ok second))
    (same : made.qualifiedName = second.qualifiedName) : template = other := by
  rw [qualifiedName_of_generate generated, qualifiedName_of_generate otherGenerated] at same
  exact String.append_left_inj _ |>.mp same

end Generate

theorem membersOf_congr {graph other : Graph} {name : QualifiedName} {entry second : Entry}
    (found : graph.entry? name = some entry) (otherFound : other.entry? name = some second)
    (same : second.declaration = entry.declaration) :
    other.membersOf name = graph.membersOf name := by
  unfold membersOf
  rw [found, otherFound]
  show second.declaration.members.map second.declaration.view = _
  rw [same]

/-- A source that is not refused gives a member the same in two graphs if both answer alike for
it. -/
theorem extractNames_congr {graph other : Graph} {template name : QualifiedName}
    {member : String} {policy : LookupPolicy}
    (kept : policy = .lenient ∨ (graph.lookup? name).isSome = true)
    (answers : other.lookup? name = graph.lookup? name)
    (names : other.methodNames name = graph.methodNames name) :
    other.extractNames template member name policy =
      graph.extractNames template member name policy := by
  rw [extractNames_of_kept kept, extractNames_of_kept (answers.symm ▸ kept), answers, names]

theorem lookup?_congr {graph other : Graph} {name : QualifiedName}
    (present : (other.lookup? name).isSome = (graph.lookup? name).isSome) :
    other.lookup? name = graph.lookup? name := by
  cases here : graph.lookup? name with
  | some source =>
    obtain ⟨there, found⟩ := Option.isSome_iff_exists.mp (present.trans (by rw [here]; rfl))
    obtain ⟨rfl, -⟩ := lookup?_eq_some here
    obtain ⟨rfl, -⟩ := lookup?_eq_some found
    exact found
  | none =>
    rw [here] at present
    exact Option.isNone_iff_eq_none.mp (Option.isSome_eq_false_iff.mp present)

/-- Whether two graphs agree on which methods without parameters of a template return lists
of texts, and on which of the searches for this end. -/
def AgreeOnLists (graph other : Graph) (template : QualifiedName) : Prop :=
  ∀ member ∈ graph.membersOf template, member.kind = .method → member.parameterCount = 0 →
    other.isAssignable member.returnType Library.listOfString =
      graph.isAssignable member.returnType Library.listOfString

theorem AgreeOnLists.isEligible_eq {graph other : Graph} {template : QualifiedName}
    (agree : graph.AgreeOnLists other template) {member : MemberView}
    (present : member ∈ graph.membersOf template) :
    other.isEligible member = graph.isEligible member := by
  unfold isEligible
  by_cases shape : member.kind = .method ∧ member.parameterCount = 0
  · rw [if_pos shape, if_pos shape, agree member present shape.1 shape.2]
  · rw [if_neg shape, if_neg shape]

theorem keepEligible_congr {graph other : Graph} {members : List MemberView}
    (same : ∀ member ∈ members, other.isEligible member = graph.isEligible member) :
    other.keepEligible members = graph.keepEligible members := by
  induction members with
  | nil => rfl
  | cons member rest ih =>
    obtain ⟨first, later⟩ := List.forall_mem_cons.mp same
    rw [keepEligible, keepEligible, first, ih later]

theorem AgreeOnLists.abstractMembers_eq {graph other : Graph} {template : QualifiedName}
    (agree : graph.AgreeOnLists other template)
    (members : other.membersOf template = graph.membersOf template)
    (package : other.packageOf? template = graph.packageOf? template) :
    other.abstractMembers template = graph.abstractMembers template := by
  unfold abstractMembers eligibleMembers
  rw [members, package, keepEligible_congr fun member present => agree.isEligible_eq present]

/-- The output of a template is the same in graphs that have the same template,
agree on its lists, and take the same from the sources. -/
theorem generate_congr {graph other : Graph} {template : QualifiedName} {settings : Settings}
    {entry second : Entry} (found : graph.entry? template = some entry)
    (otherFound : other.entry? template = some second)
    (samePackage : second.package = entry.package)
    (sameDeclaration : second.declaration = entry.declaration)
    (agree : graph.AgreeOnLists other template)
    (same : ∀ member ∈ graph.bodilessMembers template,
      other.extractNames template member.name member.sourceName settings.lookup =
        graph.extractNames template member.name member.sourceName settings.lookup) :
    other.generate template settings = graph.generate template settings := by
  have members := membersOf_congr found otherFound sameDeclaration
  have package : other.packageOf? template = graph.packageOf? template := by
    unfold packageOf?
    rw [found, otherFound, Option.map_some, Option.map_some, samePackage]
  unfold generate
  rw [found, otherFound, agree.abstractMembers_eq members package]
  apply Option.map_congr
  intro worked known
  obtain ⟨-, rfl⟩ := abstractMembers_eq_some_iff.mp known
  simp only [assemble, collect_congr same, samePackage, sameDeclaration]

end Graph

end Stencil
