import Stencil.Proofs.Generation.Content

/-!
# What a template reads of its graph

The output of a template depends on little of its graph: on the template itself, on
which of its methods without parameters return lists of texts, and, of every declaration
that a list is made from, on whether it is there and how its methods are called.  Graphs
that agree on this much give the template the same output, whatever else they hold.  With
strictness they also refuse the same member; only the name that is suggested in its place
may be another one.
-/

namespace Stencil

namespace Graph

/-- Two graphs have the same of what a template reads: `entry` is the template in the one
and `second` in the other. -/
structure AgreeOnFootprint (graph other : Graph) (entry second : Entry) : Prop where
  package : second.package = entry.package
  declaration : second.declaration = entry.declaration
  lists : ∀ member ∈ entry.declaration.members, member.kind = .method → member.parameters = [] →
    ∃ answer, graph.isAssignable member.returnType Library.listOfString = some answer ∧
      other.isAssignable member.returnType Library.listOfString = some answer
  /-- A source is there in both graphs, with methods of the same names, or in neither. -/
  sources : ∀ name ∈ graph.sourceNames entry,
    (other.entry? name).map (fun source => source.declaration.methodNames) =
      (graph.entry? name).map fun source => source.declaration.methodNames

variable {graph other : Graph} {template : QualifiedName} {entry second : Entry}

theorem listedNames_congr {name : QualifiedName}
    (same : (other.entry? name).map (fun source => source.declaration.methodNames) =
      (graph.entry? name).map fun source => source.declaration.methodNames) :
    other.listedNames name = graph.listedNames name ∧
      (other.lookup? name).isSome = (graph.lookup? name).isSome := by
  unfold listedNames lookup?
  cases there : other.entry? name <;> cases here : graph.entry? name <;>
    simp_all

/-- A source gives a member the same in both graphs if it is there in both with methods of
the same names, or in neither without being refused. -/
theorem extractNames_congr_of_listed {name : QualifiedName} {member : String}
    {policy : LookupPolicy} (names : other.listedNames name = graph.listedNames name)
    (present : (other.lookup? name).isSome = (graph.lookup? name).isSome)
    (kept : policy = .lenient ∨ (graph.lookup? name).isSome = true) :
    other.extractNames template member name policy =
      graph.extractNames template member name policy := by
  apply extractNames_congr kept (lookup?_congr present)
  rw [methodNames_eq_listedNames, methodNames_eq_listedNames, names]

namespace AgreeOnFootprint

variable (agree : graph.AgreeOnFootprint other entry second)
  (found : graph.entry? template = some entry) (otherFound : other.entry? template = some second)

include agree found

theorem agreeOnLists : graph.AgreeOnLists other template := by
  intro view present method bare
  unfold membersOf at present
  rw [found] at present
  obtain ⟨member, declared, rfl⟩ := List.mem_map.mp present
  obtain ⟨answer, here, there⟩ :=
    agree.lists member declared method (List.length_eq_zero_iff.mp bare)
  exact there.trans here.symm

theorem searchesEnd : graph.SearchesEnd template := by
  have id := id_of_entry? found
  have listed := mem_of_entry? found
  subst id
  rw [searchesEnd_id_iff listed]
  intro member declared method bare
  obtain ⟨answer, here, -⟩ := agree.lists member declared method bare
  rw [here]
  rfl

theorem source_congr {member : EligibleMember} (worked : member ∈ graph.bodilessMembers template) :
    other.listedNames member.sourceName = graph.listedNames member.sourceName ∧
      (other.lookup? member.sourceName).isSome = (graph.lookup? member.sourceName).isSome := by
  have id := id_of_entry? found
  subst id
  have named := List.mem_map_of_mem (f := EligibleMember.sourceName) worked
  have member := mem_of_entry? found
  rw [sourceNames_eq member] at named
  exact listedNames_congr (agree.sources _ named)

include otherFound

theorem abstractMembers_eq : other.abstractMembers template = graph.abstractMembers template := by
  apply (agree.agreeOnLists found).abstractMembers_eq
  · exact membersOf_congr found otherFound agree.declaration
  · unfold packageOf?
    rw [found, otherFound, Option.map_some, Option.map_some, agree.package]

/-- The searches end in both graphs, and the same members get a method. -/
theorem other_members : other.SearchesEnd template ∧
    other.bodilessMembers template = graph.bodilessMembers template := by
  have members := abstractMembers_eq_some_iff.mpr ⟨agree.searchesEnd found, rfl⟩
  rw [← agree.abstractMembers_eq found otherFound] at members
  obtain ⟨ends, same⟩ := abstractMembers_eq_some_iff.mp members
  exact ⟨ends, same.symm⟩

theorem generate_eq {settings : Settings}
    (kept : settings.lookup = .lenient ∨
      ∀ member ∈ graph.bodilessMembers template, (graph.lookup? member.sourceName).isSome = true) :
    other.generate template settings = graph.generate template settings := by
  apply generate_congr found otherFound agree.package agree.declaration (agree.agreeOnLists found)
  intro member worked
  obtain ⟨names, present⟩ := agree.source_congr found worked
  exact extractNames_congr_of_listed names present (kept.imp_right fun all => all member worked)

end AgreeOnFootprint

/-- Graphs that agree on what a template reads give it the same output.  With strictness
they may refuse the same member of it instead, for the same source. -/
theorem generate_within_footprint (found : graph.entry? template = some entry)
    (otherFound : other.entry? template = some second)
    (agree : graph.AgreeOnFootprint other entry second) (settings : Settings) :
    (settings.lookup = .lenient → ∃ made, graph.generate template settings = some (.ok made) ∧
      other.generate template settings = some (.ok made)) ∧
    (settings.lookup = .strict →
      (∃ made, graph.generate template settings = some (.ok made) ∧
        other.generate template settings = some (.ok made)) ∨
      ∃ member source suggestion otherSuggestion,
        graph.generate template settings =
          some (.error (.unresolvedSource template member source suggestion)) ∧
        other.generate template settings =
          some (.error (.unresolvedSource template member source otherSuggestion))) := by
  have ends := agree.searchesEnd found
  obtain ⟨otherEnds, members⟩ := agree.other_members found otherFound
  constructor
  · intro lenient
    have same := agree.generate_eq found otherFound (.inl lenient)
    obtain ⟨made, generated⟩ := exists_generate_lenient found ends lenient
    exact ⟨made, generated, same.trans generated⟩
  · intro strict
    rcases generate_strict_outcomes found ends strict with
      ⟨allFound, made, generated⟩ | ⟨member, first, refused⟩
    · have kept : ∀ member ∈ graph.bodilessMembers template,
          (graph.lookup? member.sourceName).isSome = true := by
        intro member worked
        simpa [Option.isSome_iff_ne_none] using List.find?_eq_none.mp allFound member worked
      have same : other.generate template settings = graph.generate template settings :=
        agree.generate_eq found otherFound (.inr kept)
      exact .inl ⟨made, generated, same.trans generated⟩
    · have alsoFirst : (other.bodilessMembers template).find? (fun member =>
          (other.lookup? member.sourceName).isNone) = some member := by
        rw [members, ← first]
        apply List.find?_congr
        intro member worked
        rw [← Option.not_isSome, ← Option.not_isSome, (agree.source_congr found worked).2]
      rcases generate_strict_outcomes otherFound otherEnds strict with
        ⟨allFound, -⟩ | ⟨otherMember, otherFirst, otherRefused⟩
      · exact absurd (alsoFirst.symm.trans allFound) (by simp)
      · obtain rfl := Option.some.inj (alsoFirst.symm.trans otherFirst)
        exact .inr ⟨_, _, _, _, refused, otherRefused⟩

/-- A template of which one source is there and one is not. -/
def askingTemplate : Entry where
  package := "app"
  library := false
  declaration := {
    name := "Lists"
    kind := .interfaceType
    members := [
      { name := "Source", returnType := Library.listOfString },
      { name := "Sorce", returnType := Library.listOfString }] }

/-- The template with its source, as they were first written. -/
def firstLists : Graph where
  entries := [askingTemplate, ⟨"app", {
    name := "Source"
    members := [{ name := "x", returnType := .plain "int" }, { name := "y" }] }, false⟩]
  distinct := by decide

/-- The template after its source and other declarations were edited: the methods of the
source are the same by name, and a name that was missing has a new neighbour. -/
def laterLists : Graph where
  entries := [
    ⟨"lib", { name := "Sorce", members := [{ name := "z" }] }, false⟩,
    ⟨"app", {
      name := "Source"
      annotations := ["lib.Sorce"]
      members := [
        { name := "total", kind := .field, returnType := .plain "int" },
        { name := "x", parameters := [⟨"at", .plain "int"⟩] }, { name := "y" }] }, false⟩,
    ⟨"app", { name := "sorce", kind := .enumType }, false⟩,
    askingTemplate]
  distinct := by decide

/-- The edits leave the output of the template alone, and with strictness the same member is
refused, whatever is suggested in its place. -/
theorem generate_within_footprint_laterLists :
    firstLists.AgreeOnFootprint laterLists askingTemplate askingTemplate ∧
      (∃ made, firstLists.generate "app.Lists" {} = some (.ok made) ∧
        laterLists.generate "app.Lists" {} = some (.ok made)) ∧
      ∃ suggestion, laterLists.generate "app.Lists" { lookup := .strict } =
        some (.error (.unresolvedSource "app.Lists" "Sorce" "app.Sorce" suggestion)) := by
  have found : firstLists.entry? "app.Lists" = some askingTemplate := by decide
  have otherFound : laterLists.entry? "app.Lists" = some askingTemplate := by decide
  have lists : ∀ member ∈ askingTemplate.declaration.members, member.kind = .method →
      member.parameters = [] →
      ∃ answer, firstLists.isAssignable member.returnType Library.listOfString = some answer ∧
        laterLists.isAssignable member.returnType Library.listOfString = some answer := by
    intro member declared _ _
    have returns : member.returnType = Library.listOfString := by
      revert member
      decide
    rw [returns]
    exact ⟨true, by decide +kernel, by decide +kernel⟩
  have agree : firstLists.AgreeOnFootprint laterLists askingTemplate askingTemplate :=
    ⟨rfl, rfl, lists, by decide +kernel⟩
  have refused : firstLists.generate "app.Lists" { lookup := .strict } =
      some (.error (.unresolvedSource "app.Lists" "Sorce" "app.Sorce" (some "Source"))) := by
    decide +kernel
  have same := generate_within_footprint found otherFound agree
  refine ⟨agree, (same {}).1 rfl, ?_⟩
  rcases (same { lookup := .strict }).2 rfl with
    ⟨made, generated, -⟩ | ⟨member, source, suggestion, otherSuggestion, failed, otherFailed⟩
  · exact absurd (generated.symm.trans refused) (by simp)
  · cases Except.error.inj (Option.some.inj (failed.symm.trans refused))
    exact ⟨otherSuggestion, otherFailed⟩

end Graph

end Stencil
