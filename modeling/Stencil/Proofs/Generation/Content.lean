import Stencil.Proofs.Generation
import Stencil.Proofs.Graph.Growth

/-!
# The output of a template, member by member

A template asks for a method for each of its members that has the right shape
and no body.  Everything else about the output follows from these members and
from what the declarations named after them say: the text has their methods in
order, the provenance the declarations that are there, and the unresolved names
those that are not.  Other members leave no trace.
-/

namespace Stencil

/-- The names of the methods of a declaration, in order and with repetitions. -/
def Declaration.methodNames (declaration : Declaration) : List String :=
  (declaration.members.filter fun member => member.kind = .method).map Member.name

namespace Graph

/-- Whether a declaration leaves a method to be made that returns a list of texts. -/
def Asks (graph : Graph) (declaration : Declaration) (member : Member) : Prop :=
  member.kind = .method ∧ member.parameters = [] ∧
    member.returnType.kindIn declaration.typeParameters = .declared ∧
    graph.isAssignable member.returnType Library.listOfString = some true ∧
    isAbstract declaration.kind member.kind member.modifiers = true

instance (graph : Graph) (declaration : Declaration) (member : Member) :
    Decidable (graph.Asks declaration member) := inferInstanceAs (Decidable (_ ∧ _))

/-- The members of a declaration that get a method, in order and with repetitions. -/
def askedMembers (graph : Graph) (entry : Entry) : List Member :=
  entry.declaration.members.filter fun member => graph.Asks entry.declaration member

/-- The declarations that the lists of a template are made from, whether they are
there or not. -/
def sourceNames (graph : Graph) (entry : Entry) : List QualifiedName :=
  (graph.askedMembers entry).map fun member => qualify entry.package member.name

/-- The names that go into the list of a member; a source that is not there has
none. -/
def listedNames (graph : Graph) (source : QualifiedName) : List String :=
  match graph.entry? source with
  | some entry => entry.declaration.methodNames
  | none => []

/-- The method that is made for a member. -/
def methodText (graph : Graph) (escapeLiterals : Bool) (package : String) (member : Member) :
    String :=
  let names := graph.listedNames (qualify package member.name)
  let literals := names.map fun name =>
    "\n        \"" ++ (if escapeLiterals then Literal.escape name else name) ++ "\""
  "  public " ++ member.returnType.text ++ " " ++ member.name ++ "() \x7b\n" ++
    "    return java.util.Arrays.asList(" ++ String.intercalate "," literals ++
    "\n    );\n  \x7d\n"

/-- The text that is made for a declaration.  The default package has no clause. -/
def implementationText (graph : Graph) (settings : Settings) (entry : Entry) : String :=
  let name := entry.declaration.name
  let methods := (graph.askedMembers entry).map
    (graph.methodText settings.escapeLiterals entry.package)
  (if entry.package = "" then "" else "package " ++ entry.package ++ ";\n\n") ++
    ("public final class " ++ name ++ settings.implSuffix ++ " implements " ++ name ++ " \x7b\n") ++
    String.join methods ++ "\x7d\n"

end Graph

/-- What the output of a template looks like. -/
structure GeneratedUnit.IsOutputOf (made : GeneratedUnit) (graph : Graph) (settings : Settings)
    (entry : Entry) : Prop where
  template : made.template = entry.id
  qualifiedName : made.qualifiedName = entry.id ++ settings.implSuffix
  text : made.text = graph.implementationText settings entry
  /-- The sources that are there. -/
  provenance : ∀ name, name ∈ made.provenance ↔
    name ∈ graph.sourceNames entry ∧ (graph.entry? name).isSome
  /-- The sources that are not there, each where it is named first. -/
  unresolved : made.unresolved =
    ((graph.sourceNames entry).filter fun name => (graph.entry? name).isNone).eraseDups
  disjoint : ∀ name ∈ made.provenance, name ∉ made.unresolved

namespace Graph

variable {graph : Graph} {settings : Settings} {entry : Entry}

theorem methodNames_eq_listedNames (name : QualifiedName) :
    graph.methodNames name = graph.listedNames name := by
  unfold methodNames membersOf listedNames
  cases graph.entry? name with
  | none => rfl
  | some entry =>
    show ((entry.declaration.members.map entry.declaration.view).filter _).map _ = _
    rw [List.filter_map, List.map_map]
    rfl

theorem isEligible_view_iff (declaration : Declaration) (member : Member) :
    (declaration.view member).isAbstract = true ∧
        graph.isEligible (declaration.view member) = some true ↔
      graph.Asks declaration member := by
  rw [isEligible_eq_true_iff]
  constructor
  · rintro ⟨bodiless, method, bare, list, declared⟩
    exact ⟨method, List.length_eq_zero_iff.mp bare, declared, list, bodiless⟩
  · rintro ⟨method, bare, declared, list, bodiless⟩
    exact ⟨bodiless, method, List.length_eq_zero_iff.mpr bare, list, declared⟩

theorem membersOf_id (member : entry ∈ graph.entries) :
    graph.membersOf entry.id = entry.declaration.members.map entry.declaration.view := by
  unfold membersOf
  rw [entry?_id member]

/-- The searches for a template are those for the methods without parameters of its
declaration. -/
theorem searchesEnd_id_iff (member : entry ∈ graph.entries) :
    graph.SearchesEnd entry.id ↔
      ∀ member ∈ entry.declaration.members, member.kind = .method → member.parameters = [] →
        (graph.isAssignable member.returnType Library.listOfString).isSome = true := by
  unfold SearchesEnd
  rw [membersOf_id member, List.forall_mem_map]
  constructor
  · intro ends asked present method bare
    exact ends asked present method (List.length_eq_zero_iff.mpr bare)
  · intro ends asked present method bare
    exact ends asked present method (List.length_eq_zero_iff.mp bare)

theorem bodilessMembers_id (member : entry ∈ graph.entries) :
    graph.bodilessMembers entry.id = (graph.askedMembers entry).map fun member =>
      ⟨member.name, member.returnType, true, qualify entry.package member.name⟩ := by
  have package : (graph.packageOf? entry.id).getD "" = entry.package := by
    unfold packageOf?
    rw [entry?_id member]
    rfl
  have asks : ∀ asked ∈ entry.declaration.members,
      ((entry.declaration.view asked).isAbstract &&
          graph.isEligible (entry.declaration.view asked) == some true) =
        decide (graph.Asks entry.declaration asked) := by
    intro asked _
    rw [Bool.eq_iff_iff, Bool.and_eq_true, beq_iff_eq, decide_eq_true_iff]
    exact isEligible_view_iff entry.declaration asked
  unfold bodilessMembers askingMembers askedMembers
  rw [membersOf_id member, package, List.filter_map, List.filter_filter, List.filter_map,
    List.map_map]
  refine (congrArg (List.map _) (List.filter_congr asks)).trans ?_
  apply List.map_congr_left
  intro asked present
  have bodiless : (entry.declaration.view asked).isAbstract = true :=
    (of_decide_eq_true (List.mem_filter.mp present).2).2.2.2.2
  rw [Function.comp_apply, bodiless]
  rfl

theorem sourceNames_eq (member : entry ∈ graph.entries) :
    (graph.bodilessMembers entry.id).map EligibleMember.sourceName = graph.sourceNames entry := by
  rw [bodilessMembers_id member, List.map_map]
  rfl

theorem methods_of_holds (member : entry ∈ graph.entries) {collected : Collected}
    (holds : collected.Holds graph (graph.bodilessMembers entry.id)) (escapeLiterals : Bool) :
    (collected.methods.filter fun method => method.member.isAbstract).map
        (MethodPlan.render escapeLiterals) =
      (graph.askedMembers entry).map (graph.methodText escapeLiterals entry.package) := by
  have bodiless : ∀ method ∈ collected.methods, method.member.isAbstract = true := by
    intro method present
    rw [holds.methods] at present
    obtain ⟨eligible, worked, rfl⟩ := List.mem_map.mp present
    exact (List.mem_filter.mp worked).2
  rw [List.filter_eq_self.mpr bodiless, holds.methods, bodilessMembers_id member, List.map_map,
    List.map_map]
  apply List.map_congr_left
  intro asked _
  show MethodPlan.render escapeLiterals ⟨_, graph.methodNames _⟩ = _
  rw [methodNames_eq_listedNames]
  rfl

/-- Whatever the policy, what is generated for a declaration is its output. -/
theorem isOutputOf_of_generate (member : entry ∈ graph.entries) {made : GeneratedUnit}
    (generated : graph.generate entry.id settings = some (.ok made)) :
    made.IsOutputOf graph settings entry := by
  obtain ⟨found, collected, entryFound, collects, equal⟩ := generate_eq_ok generated
  obtain rfl : entry = found := Option.some.inj ((entry?_id member).symm.trans entryFound)
  have holds : collected.Holds graph (graph.bodilessMembers entry.id) :=
    holds_of_collect (Collected.holds_nil graph) collects
  have provided : ∀ name, name ∈ made.provenance ↔
      name ∈ graph.sourceNames entry ∧ (graph.entry? name).isSome := by
    intro name
    rw [equal, holds.provenance, sourceNames_eq member, lookup?, Option.isSome_map]
  have absent : made.unresolved =
      ((graph.sourceNames entry).filter fun name => (graph.entry? name).isNone).eraseDups := by
    rw [equal]
    show collected.unresolved = _
    rw [holds.unresolved, sourceNames_eq member]
    simp only [lookup?, Option.isNone_map]
  refine ⟨template_of_generate generated, qualifiedName_of_generate generated, ?_, provided,
    absent, ?_⟩
  · rw [equal]
    unfold implementationText ImplementationPlan.render ImplementationPlan.packageClause
      ImplementationPlan.header Settings.implName
    simp only [methods_of_holds member holds]
    simp only [String.append_assoc]
  · intro name known missing
    rw [absent, List.mem_eraseDups, List.mem_filter, Option.isNone_iff_eq_none] at missing
    have there := ((provided name).mp known).2
    rw [missing.2] at there
    cases there

/-- Without strictness no member keeps the others from being collected. -/
theorem exists_collect_lenient (graph : Graph) (template : QualifiedName) (members : List EligibleMember)
    (start : Collected) :
    ∃ collected, graph.collect template .lenient members start = .ok collected := by
  induction members generalizing start with
  | nil => exact ⟨start, rfl⟩
  | cons first rest ih =>
    rw [collect, extractNames_of_kept (.inl rfl)]
    exact ih _

/-- With strictness the first member whose source is not there keeps the template from
being collected, and nothing else does. -/
theorem collect_strict_cases (graph : Graph) (template : QualifiedName)
    (members : List EligibleMember) (start : Collected) :
    (members.find? (fun member => (graph.lookup? member.sourceName).isNone) = none ∧
      ∃ collected, graph.collect template .strict members start = .ok collected) ∨
    ∃ member, members.find? (fun member => (graph.lookup? member.sourceName).isNone) =
        some member ∧
      graph.collect template .strict members start = .error (.unresolvedSource template
        member.name member.sourceName (graph.nearestName? member.sourceName)) := by
  induction members generalizing start with
  | nil => exact .inl ⟨rfl, start, rfl⟩
  | cons first rest ih =>
    rw [collect]
    cases found : graph.lookup? first.sourceName with
    | some source =>
      rw [List.find?_cons_of_neg (by simp [found]), extractNames_of_kept (.inr (by simp [found]))]
      exact ih _
    | none =>
      refine .inr ⟨first, List.find?_cons_of_pos (by simp [found]), ?_⟩
      rw [extractNames_of_missing found]

/-- With strictness a declaration has an output if all its sources are there, and otherwise
the first member whose source is missing is refused. -/
theorem generate_strict_outcomes {template : QualifiedName}
    (found : graph.entry? template = some entry) (ends : graph.SearchesEnd template)
    (strict : settings.lookup = .strict) :
    ((graph.bodilessMembers template).find? (fun member =>
        (graph.lookup? member.sourceName).isNone) = none ∧
      ∃ made, graph.generate template settings = some (.ok made)) ∨
    ∃ member, (graph.bodilessMembers template).find? (fun member =>
        (graph.lookup? member.sourceName).isNone) = some member ∧
      graph.generate template settings = some (.error (.unresolvedSource template member.name
        member.sourceName (graph.nearestName? member.sourceName))) := by
  have cases := graph.collect_strict_cases template (graph.bodilessMembers template) {}
  rw [← strict] at cases
  rcases cases with ⟨allFound, collected, collects⟩ | ⟨member, first, fails⟩
  · exact .inl ⟨allFound, exists_generate_of_collect found ends collects⟩
  · exact .inr ⟨member, first, generate_of_collect_error found ends fails⟩

theorem exists_generate_lenient {template : QualifiedName}
    (found : graph.entry? template = some entry) (ends : graph.SearchesEnd template)
    (lenient : settings.lookup = .lenient) :
    ∃ made, graph.generate template settings = some (.ok made) := by
  obtain ⟨collected, collects⟩ :=
    exists_collect_lenient graph template (graph.bodilessMembers template) {}
  rw [← lenient] at collects
  exact exists_generate_of_collect found ends collects

/-- A declaration has an output, unless one of its sources is not there. -/
theorem generate_cases {template : QualifiedName} (found : graph.entry? template = some entry)
    (ends : graph.SearchesEnd template) (settings : Settings) :
    (∃ made, graph.generate template settings = some (.ok made)) ∨
      ∃ member source hint, graph.generate template settings =
        some (.error (.unresolvedSource template member source hint)) := by
  cases policy : settings.lookup with
  | lenient => exact .inl (exists_generate_lenient found ends policy)
  | strict =>
    rcases generate_strict_outcomes found ends policy with ⟨-, generated⟩ | ⟨member, -, refused⟩
    · exact .inl generated
    · exact .inr ⟨member.name, member.sourceName, _, refused⟩

theorem entry?_of_mem_annotatedWith {template marker : QualifiedName}
    (annotated : template ∈ graph.annotatedWith marker) :
    ∃ entry, graph.entry? template = some entry := by
  obtain ⟨entry, member, rfl⟩ := List.mem_map.mp annotated
  exact ⟨entry, entry?_id (List.mem_filter.mp member).1⟩

/-- Without strictness a declaration has an output exactly if the searches for its methods
without parameters end. -/
theorem generate_lenient (member : entry ∈ graph.entries) (lenient : settings.lookup = .lenient) :
    (graph.SearchesEnd entry.id →
      ∃ made, graph.generate entry.id settings = some (.ok made) ∧
        made.IsOutputOf graph settings entry) ∧
    (¬ graph.SearchesEnd entry.id → graph.generate entry.id settings = none) := by
  constructor
  · intro ends
    obtain ⟨made, generated⟩ := exists_generate_lenient (entry?_id member) ends lenient
    exact ⟨made, generated, isOutputOf_of_generate member generated⟩
  · exact (graph.generate_eq_none_iff entry.id settings).mpr

/-- Without strictness, too, there is a declaration that nothing is made of: the result of its
method applies a type to ever larger arguments. -/
theorem generate_lenient_endless :
    ofDocument endlessDocument = .ok endless ∧
      ⟨"app", endlessTemplate, false⟩ ∈ endless.entries ∧ Settings.lookup {} = .lenient ∧
      ¬∃ made, endless.generate "app.Bad" {} = some (.ok made) := by
  refine ⟨ofDocument_endless, List.mem_cons_self, rfl, ?_⟩
  rintro ⟨made, generated⟩
  exact not_searchesEnd_endless (searchesEnd_of_generate generated)

/-- A template in a package of the library.  It names a declaration of the
library, itself, and twice one that is not there; its last three members are of
the wrong shape or have a body. -/
def namesTemplate : Entry where
  package := "java.lang"
  library := false
  declaration := {
    name := "Names"
    kind := .interfaceType
    members := [
      { name := "String", returnType := Library.listOfString },
      { name := "Missing", returnType := Library.listOfString },
      { name := "Names", returnType := .declared "java.util.ArrayList" [.plain Library.stringName] },
      { name := "Missing", returnType := Library.listOfString },
      { name := "Object", parameters := [⟨"n", .plain "int"⟩], returnType := Library.listOfString },
      { name := "Integer", kind := .field, returnType := Library.listOfString },
      { name := "Absent", returnType := Library.listOfString, modifiers := [.default] }] }

def withNames : Graph where
  entries := namesTemplate :: libraryEntries ["java.lang.Names"]
  distinct := by decide +kernel

/-- Only the first four members count, and the one that is not there once. -/
theorem generate_lenient_withNames :
    namesTemplate ∈ withNames.entries ∧ withNames.SearchesEnd "java.lang.Names" ∧
      ∃ made, withNames.generate "java.lang.Names" {} = some (.ok made) ∧
        made.qualifiedName = "java.lang.Names_Impl" ∧
        "java.lang.String" ∈ made.provenance ∧ "java.lang.Names" ∈ made.provenance ∧
        made.unresolved = ["java.lang.Missing"] := by
  have member : namesTemplate ∈ withNames.entries := List.mem_cons_self
  have direct : withNames.isAssignable Library.listOfString Library.listOfString = some true :=
    isAssignable_eq_some_iff.mpr ⟨0, rfl⟩
  have inherited : withNames.isAssignable (.declared "java.util.ArrayList"
      [.plain Library.stringName]) Library.listOfString = some true :=
    isAssignable_eq_some_iff.mpr ⟨3, rfl⟩
  have ends : withNames.SearchesEnd namesTemplate.id := by
    rw [searchesEnd_id_iff member]
    simp [namesTemplate, direct, inherited]
  have sources : withNames.sourceNames namesTemplate =
      ["java.lang.String", "java.lang.Missing", "java.lang.Names", "java.lang.Missing"] := by
    simp [sourceNames, askedMembers, namesTemplate, List.filter_cons, Asks, direct, inherited]
    decide
  obtain ⟨made, generated, output⟩ :=
    (generate_lenient member (show Settings.lookup {} = .lenient from rfl)).1 ends
  refine ⟨member, ends, made, generated, output.qualifiedName, ?_, ?_, ?_⟩
  · rw [output.provenance, sources]
    decide +kernel
  · rw [output.provenance, sources]
    decide +kernel
  · rw [output.unresolved, sources]
    decide +kernel

end Graph

end Stencil
