import Stencil.Inspection
import Stencil.Proofs.Generation.Content
import Stencil.Proofs.Round

/-!
# What an inspection foretells

An inspection looks up every source strictly and goes on where one is missing; a round
follows its policy and gives a template up at the first one that is missing.  The two
agree all the same: from the view of a template one can read which name its output
gets, whether there is an output at all, which error there is otherwise, and what the
output is made from.  And where a round has no end, the inspection has none either.
-/

namespace Stencil

/-- Whether a member gets a method whose source is there. -/
def InspectedMember.isMet (member : InspectedMember) : Bool :=
  member.isGenerated && member.resolution.isFound

/-- Whether a member gets a method whose source is not there. -/
def InspectedMember.isUnmet (member : InspectedMember) : Bool :=
  member.isGenerated && !member.resolution.isFound

/-- A method is the one that the view of a member shows: it has the same name and
result, and as many names in its list. -/
structure MethodPlan.Shown (method : MethodPlan) (member : InspectedMember) : Prop where
  name : method.member.name = member.name
  returnType : method.member.returnType.text = member.returnType
  bodiless : method.member.isAbstract = true
  literals : method.names.length = member.resolution.names

/-- An output is made from what the view of its template shows. -/
structure GeneratedUnit.IsShown (made : GeneratedUnit) (graph : Graph) (settings : Settings)
    (view : InspectedTemplate) : Prop where
  qualifiedName : made.qualifiedName = view.output
  provenance : ∀ name, name ∈ made.provenance ↔
    name ∈ (view.members.filter InspectedMember.isMet).map InspectedMember.source
  unresolved : made.unresolved =
    ((view.members.filter InspectedMember.isUnmet).map InspectedMember.source).eraseDups
  /-- The text has a method for every member that gets one, in order. -/
  methods : ∃ entry methods, graph.entry? view.template = some entry ∧
    made.text = ImplementationPlan.render settings.escapeLiterals ⟨entry.package,
      entry.declaration.name, settings.implName entry.declaration.name, methods⟩ ∧
    List.Forall₂ MethodPlan.Shown methods (view.members.filter InspectedMember.isGenerated)

/-- The view of a template foretells what is generated for it. -/
structure InspectedTemplate.Foretells (view : InspectedTemplate) (graph : Graph)
    (settings : Settings) : Prop where
  shown : ∀ made, graph.generate view.template settings = some (.ok made) →
    made.IsShown graph settings view
  lenient : settings.lookup = .lenient →
    ∃ made, graph.generate view.template settings = some (.ok made)
  strict : settings.lookup = .strict →
    ((∃ made, graph.generate view.template settings = some (.ok made)) ↔
      ∀ member ∈ view.members, member.isGenerated = true → member.resolution.isFound = true)
  /-- With strictness the error is about the first member whose source is missing. -/
  refusal : settings.lookup = .strict → ∀ error,
    graph.generate view.template settings = some (.error error) →
      ∃ member, view.members.find? InspectedMember.isUnmet = some member ∧
        error = .unresolvedSource view.template member.name member.source
          member.resolution.suggestion?

namespace Graph

variable {graph : Graph} {settings : Settings} {template : QualifiedName}

theorem resolve_of_lookup?_some {member : EligibleMember} {source : QualifiedName}
    (found : graph.lookup? member.sourceName = some source) :
    graph.resolve template member = .found (graph.methodNames member.sourceName).length := by
  unfold resolve
  rw [extractNames_of_kept (.inr (by rw [found]; rfl))]

theorem resolve_of_lookup?_none {member : EligibleMember}
    (missing : graph.lookup? member.sourceName = none) :
    graph.resolve template member = .missing (graph.nearestName? member.sourceName) := by
  unfold resolve
  rw [extractNames_of_missing missing]

theorem isFound_resolve (member : EligibleMember) :
    (graph.resolve template member).isFound = (graph.lookup? member.sourceName).isSome := by
  cases found : graph.lookup? member.sourceName with
  | some source =>
    rw [resolve_of_lookup?_some found]
    rfl
  | none =>
    rw [resolve_of_lookup?_none found]
    rfl

theorem names_resolve (member : EligibleMember) :
    (graph.resolve template member).names = (graph.methodNames member.sourceName).length := by
  cases found : graph.lookup? member.sourceName with
  | some source =>
    rw [resolve_of_lookup?_some found]
    rfl
  | none =>
    rw [resolve_of_lookup?_none found, methodNames_of_none found]
    rfl

theorem isUnmet_inspectMember (member : EligibleMember) :
    (graph.inspectMember template member).isUnmet =
      (member.isAbstract && (graph.lookup? member.sourceName).isNone) := by
  unfold InspectedMember.isUnmet inspectMember
  rw [isFound_resolve, Option.not_isSome]

/-- The view of a template, from the members of which it is known that they ask for an
implementation. -/
def viewOf (graph : Graph) (settings : Settings) (template : QualifiedName) :
    InspectedTemplate where
  template
  output := qualify ((graph.packageOf? template).getD "")
    (settings.implName ((graph.simpleName? template).getD ""))
  members := (graph.askingMembers template).map (graph.inspectMember template)

theorem inspectTemplate_eq_some_iff {view : InspectedTemplate} :
    graph.inspectTemplate settings template = some view ↔
      graph.SearchesEnd template ∧ view = graph.viewOf settings template := by
  unfold inspectTemplate
  simp only [Option.map_eq_some_iff, eligibleMembers_eq_some_iff]
  constructor
  · rintro ⟨members, ⟨ends, rfl⟩, rfl⟩
    exact ⟨ends, rfl⟩
  · rintro ⟨ends, rfl⟩
    exact ⟨_, ⟨ends, rfl⟩, rfl⟩

theorem mapM_inspectTemplate {templates : List QualifiedName} {views : List InspectedTemplate} :
    templates.mapM (graph.inspectTemplate settings) = some views ↔
      (∀ template ∈ templates, graph.SearchesEnd template) ∧
        views = templates.map (graph.viewOf settings) := by
  induction templates generalizing views with
  | nil =>
    rw [List.mapM_nil]
    exact ⟨fun same => ⟨fun _ absent => absurd absent List.not_mem_nil, (Option.some.inj same).symm⟩,
      fun both => congrArg some both.2.symm⟩
  | cons template rest ih =>
    rw [List.mapM_cons, List.forall_mem_cons, List.map_cons]
    constructor
    · intro ends
      obtain ⟨view, shown, ends⟩ := Option.bind_eq_some_iff.mp ends
      obtain ⟨others, later, same⟩ := Option.bind_eq_some_iff.mp ends
      obtain ⟨first, rfl⟩ := inspectTemplate_eq_some_iff.mp shown
      obtain ⟨restEnds, rfl⟩ := ih.mp later
      exact ⟨⟨first, restEnds⟩, (Option.some.inj same).symm⟩
    · rintro ⟨⟨first, restEnds⟩, rfl⟩
      rw [inspectTemplate_eq_some_iff.mpr ⟨first, rfl⟩, ih.mpr ⟨restEnds, rfl⟩]
      rfl

/-- An inspection ends exactly if the searches for all templates do, and then it shows the
view of each. -/
theorem inspect_eq_some_iff {views : List InspectedTemplate} :
    graph.inspect settings = some views ↔
      (∀ template ∈ graph.annotatedWith settings.trigger, graph.SearchesEnd template) ∧
        views = (graph.annotatedWith settings.trigger).map (graph.viewOf settings) :=
  mapM_inspectTemplate

/-- The members of a view that get a method are the ones that are worked on. -/
theorem filter_isGenerated (graph : Graph) (settings : Settings) (template : QualifiedName) :
    (graph.viewOf settings template).members.filter InspectedMember.isGenerated =
      (graph.bodilessMembers template).map (graph.inspectMember template) := by
  unfold viewOf bodilessMembers
  rw [List.filter_map]
  rfl

theorem map_source_filter (test : InspectedMember → Bool) (known : QualifiedName → Bool)
    (agree : ∀ member, test (graph.inspectMember template member) =
      (member.isAbstract && known member.sourceName)) :
    ((graph.viewOf settings template).members.filter test).map InspectedMember.source =
      ((graph.bodilessMembers template).map EligibleMember.sourceName).filter known := by
  unfold viewOf bodilessMembers
  rw [List.filter_map, List.map_map, List.filter_map, List.filter_filter]
  apply congrArg
  apply List.filter_congr
  intro member _
  rw [Function.comp_apply, agree, Bool.and_comm]
  rfl

theorem find?_isUnmet (graph : Graph) (settings : Settings) (template : QualifiedName) :
    (graph.viewOf settings template).members.find? InspectedMember.isUnmet =
      ((graph.bodilessMembers template).find? fun member =>
        (graph.lookup? member.sourceName).isNone).map (graph.inspectMember template) := by
  have same : InspectedMember.isUnmet ∘ graph.inspectMember template =
      fun member => member.isAbstract && (graph.lookup? member.sourceName).isNone :=
    funext isUnmet_inspectMember
  unfold viewOf bodilessMembers
  rw [List.find?_map, List.find?_filter, same]
  simp only [Bool.decide_and, Bool.decide_eq_true]

theorem forall₂_shown {collected : Collected}
    (holds : collected.Holds graph (graph.bodilessMembers template)) :
    List.Forall₂ MethodPlan.Shown collected.methods
      ((graph.bodilessMembers template).map (graph.inspectMember template)) := by
  rw [holds.methods, List.forall₂_map_left_iff, List.forall₂_map_right_iff, List.forall₂_same]
  intro member worked
  exact ⟨rfl, rfl, (List.mem_filter.mp worked).2, (names_resolve member).symm⟩

/-- An output is made from what the view of its template shows, whatever the policy. -/
theorem isShown_of_generate {made : GeneratedUnit}
    (generated : graph.generate template settings = some (.ok made)) :
    made.IsShown graph settings (graph.viewOf settings template) := by
  obtain ⟨entry, collected, found, collects, rfl⟩ := generate_eq_ok generated
  have holds : collected.Holds graph (graph.bodilessMembers template) :=
    holds_of_collect (Collected.holds_nil graph) collects
  constructor
  case qualifiedName =>
    unfold viewOf packageOf? simpleName?
    rw [found]
    rfl
  case provenance =>
    intro name
    rw [holds.provenance, map_source_filter _ (fun name => (graph.lookup? name).isSome),
      List.mem_filter]
    intro member
    unfold InspectedMember.isMet inspectMember
    rw [isFound_resolve]
  case unresolved =>
    rw [map_source_filter _ (fun name => (graph.lookup? name).isNone) isUnmet_inspectMember]
    exact holds.unresolved
  case methods =>
    refine ⟨entry, collected.methods, found, rfl, ?_⟩
    rw [filter_isGenerated]
    exact forall₂_shown holds

/-- With strictness a declaration has an output exactly if its view has no member that gets
a method and lacks its source, and otherwise the first such member is refused. -/
theorem generate_strict_cases {entry : Entry} (found : graph.entry? template = some entry)
    (ends : graph.SearchesEnd template) (strict : settings.lookup = .strict) :
    ((graph.viewOf settings template).members.find? InspectedMember.isUnmet = none ∧
      ∃ made, graph.generate template settings = some (.ok made)) ∨
    ∃ member,
      (graph.viewOf settings template).members.find? InspectedMember.isUnmet =
        some member ∧
      graph.generate template settings = some (.error (.unresolvedSource template member.name
        member.source member.resolution.suggestion?)) := by
  rw [find?_isUnmet]
  rcases generate_strict_outcomes found ends strict with
    ⟨allFound, generated⟩ | ⟨member, first, refused⟩
  · exact .inl ⟨by rw [allFound]; rfl, generated⟩
  · have missing : graph.lookup? member.sourceName = none := by
      simpa using List.find?_some first
    refine .inr ⟨graph.inspectMember template member, by rw [first]; rfl, ?_⟩
    rw [refused]
    unfold inspectMember
    rw [resolve_of_lookup?_none missing]
    rfl

theorem foretells_viewOf {entry : Entry} (found : graph.entry? template = some entry)
    (ends : graph.SearchesEnd template) :
    (graph.viewOf settings template).Foretells graph settings := by
  refine ⟨fun made generated => isShown_of_generate generated,
    fun lenient => exists_generate_lenient found ends lenient, fun strict => ?_,
    fun strict error failed => ?_⟩
  · have unmet : (∀ member ∈ (graph.viewOf settings template).members,
        member.isGenerated = true → member.resolution.isFound = true) ↔
        (graph.viewOf settings template).members.find? InspectedMember.isUnmet = none := by
      simp [InspectedMember.isUnmet]
    rw [unmet]
    rcases generate_strict_cases found ends strict with
      ⟨none_unmet, generated⟩ | ⟨member, first, failed⟩
    · exact iff_of_true generated none_unmet
    · refine iff_of_false ?_ ?_
      · rintro ⟨made, generated⟩
        exact absurd (generated.symm.trans failed) (by simp)
      · rw [first]
        simp
  · rcases generate_strict_cases found ends strict with
      ⟨-, made, generated⟩ | ⟨member, first, refused⟩
    · exact absurd (generated.symm.trans failed) (by simp)
    · exact ⟨member, first, Except.error.inj (Option.some.inj (failed.symm.trans refused))⟩

/-- An inspection foretells a round.  If the searches for the templates end, it shows the
templates that a round has its turns for, in this order, and the view of each of them
foretells what is generated for it.  If they do not, neither the inspection nor any round has
an end. -/
theorem inspect_foretells (graph : Graph) (processor : Processor) :
    ((∀ template ∈ graph.annotatedWith processor.settings.trigger, graph.SearchesEnd template) →
      ∃ views, graph.inspect processor.settings = some views ∧
        (∀ {σ ω : Type} (filer : Filer σ ω) (sink : σ), ∃ ended final turns,
          processor.process graph filer sink = some (ended, final) ∧
            TurnByTurn processor.settings graph filer (views.map InspectedTemplate.template)
              { sink } final turns) ∧
        ∀ view ∈ views, view.Foretells graph processor.settings) ∧
    ((¬∀ template ∈ graph.annotatedWith processor.settings.trigger,
        graph.SearchesEnd template) →
      graph.inspect processor.settings = none ∧
        ∀ {σ ω : Type} (filer : Filer σ ω) (sink : σ),
          processor.process graph filer sink = none) := by
  refine ⟨fun searches => ?_, fun endless => ?_⟩
  · refine ⟨_, inspect_eq_some_iff.mpr ⟨searches, rfl⟩, fun filer sink => ?_,
      List.forall_mem_map.mpr fun template annotated => ?_⟩
    · obtain ⟨ended, final, ends⟩ := processor.exists_process searches filer sink
      obtain ⟨turns, explained⟩ := Processor.process_turns ends
      refine ⟨ended, final, turns, ends, ?_⟩
      rw [List.map_map]
      exact (List.map_id _).symm ▸ explained
    · obtain ⟨entry, found⟩ := entry?_of_mem_annotatedWith annotated
      exact foretells_viewOf found (searches template annotated)
  · refine ⟨?_, fun filer sink => ?_⟩
    · apply Option.eq_none_iff_forall_ne_some.mpr
      intro views ends
      exact endless (inspect_eq_some_iff.mp ends).1
    · exact (processor.process_eq_none_iff graph filer sink).mpr endless

/-- An inspection does not come to the list of the templates if one of them has no end. -/
theorem inspect_foretells_endless :
    endless.annotatedWith "aptgen.annotation.Sample" = ["app.Bad", "app.Good"] ∧
      ¬∃ views, endless.inspect {} = some views ∧
        views.map InspectedTemplate.template = ["app.Bad", "app.Good"] := by
  refine ⟨annotatedWith_endless, ?_⟩
  rintro ⟨views, shown, -⟩
  have searches := (inspect_eq_some_iff.mp shown).1
  exact not_searchesEnd_endless
    (searches "app.Bad" (annotatedWith_endless ▸ List.mem_cons_self))

/-- A template whose second member is misspelt, like the first one, which has a body. -/
def misspelt : Graph where
  entries := entriesOf false [{
    name := "app"
    declarations := [
      { name := "Lists"
        kind := .interfaceType
        annotations := ["aptgen.annotation.Sample"]
        members := [
          { name := "Sorce", returnType := Library.listOfString, modifiers := [.default] },
          { name := "Sourse", returnType := Library.listOfString },
          { name := "Source", returnType := Library.listOfString }] },
      { name := "Source", members := [{ name := "x" }, { name := "y" }] }] }]
  distinct := by decide

/-- With strictness the misspelt member that gets a method is refused, and the view of the
template says so, with the name that was meant. -/
theorem inspect_foretells_misspelt :
    ∃ views, misspelt.inspect { lookup := .strict } = some views ∧
      ∃ view ∈ views, view.Foretells misspelt { lookup := .strict } ∧
        (view.members.find? InspectedMember.isUnmet).map (fun member =>
          (member.name, member.source, member.resolution.suggestion?)) =
            some ("Sourse", "app.Sourse", some "Source") ∧
        misspelt.generate view.template { lookup := .strict } =
          some (.error (.unresolvedSource "app.Lists" "Sourse" "app.Sourse" (some "Source"))) := by
  have shown : (misspelt.inspect { lookup := .strict }).map (fun views => views.map fun view =>
      (view.members.find? InspectedMember.isUnmet).map fun member =>
        (member.name, member.source, member.resolution.suggestion?)) =
      some [some ("Sourse", "app.Sourse", some "Source")] := by
    decide +kernel
  have answers : (misspelt.generate "app.Lists" { lookup := .strict }).isSome = true := by
    decide +kernel
  obtain ⟨views, inspected, -, foretells⟩ :=
    (inspect_foretells misspelt { settings := { lookup := .strict } }).1 (by decide +kernel)
  rw [show misspelt.inspect { lookup := .strict } = some views from inspected,
    Option.map_some, Option.some.injEq] at shown
  have templates : views.map InspectedTemplate.template = ["app.Lists"] := by
    rw [(inspect_eq_some_iff.mp inspected).2, List.map_map]
    decide +kernel
  obtain ⟨view, rest, rfl, first, -⟩ := List.map_eq_cons_iff.mp shown
  have template : view.template = "app.Lists" := List.head_eq_of_cons_eq templates
  have foretold := foretells view List.mem_cons_self
  refine ⟨_, inspected, view, List.mem_cons_self, foretold, first, ?_⟩
  obtain ⟨member, found, shape⟩ := Option.map_eq_some_iff.mp first
  obtain ⟨name, shape⟩ := Prod.mk.inj shape
  obtain ⟨source, suggestion⟩ := Prod.mk.inj shape
  obtain ⟨result, generated⟩ := Option.isSome_iff_exists.mp answers
  rw [← template] at generated
  cases result with
  | ok made =>
    have lacks := List.find?_some found
    unfold InspectedMember.isUnmet at lacks
    rw [Bool.and_eq_true, Bool.not_eq_true'] at lacks
    have met := (foretold.strict rfl).mp ⟨made, generated⟩ member
      (List.mem_of_find?_eq_some found) lacks.1
    exact absurd (met.symm.trans lacks.2) (by decide)
  | error error =>
    obtain ⟨other, same, equal⟩ := foretold.refusal rfl error generated
    obtain rfl := Option.some.inj (found.symm.trans same)
    refine generated.trans ?_
    rw [equal, name, source, suggestion, template]

end Graph

end Stencil
