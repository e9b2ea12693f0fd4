import Stencil.Proofs.Generation.Content
import Stencil.Proofs.Round.Reordering

/-!
# Templates do not compete for outputs

The name of an output is the name of its template with the suffix, whatever the suffix is.
Templates have different names, so their outputs do, and a filer that is fresh is never asked
for a name twice.  A round with fresh memory that has an end therefore comes to exactly what is
generated for each of its templates, and the sources that are not there are all that can fail.
-/

namespace Stencil

namespace Graph

theorem outcome_of_faultless (graph : Graph) (settings : Settings) (template : QualifiedName) :
    graph.outcome settings (fun _ => none) template = graph.generate template settings := by
  unfold outcome
  cases graph.generate template settings with
  | none => rfl
  | some result =>
    cases result with
    | error error => rfl
    | ok made => rfl

end Graph

/-- A round in which no template takes anything from another one. -/
structure RoundState.Separate (settings : Settings) (graph : Graph) (final : RoundState Memory) :
    Prop where
  /-- What is reported of a template, and what is said of it, is what its generation alone
  comes to. -/
  reports : Reports settings graph (fun template => graph.generate template settings) final
  /-- No template is unknown, and no output is refused: what fails is a source that is not
  there. -/
  failures : ∀ failure ∈ final.report.failures, ∃ member source hint,
    graph.generate failure.template settings =
        some (.error (.unresolvedSource failure.template member source hint)) ∧
      failure.message =
        (GenerationError.unresolvedSource failure.template member source hint).message
  committed : ∀ template ∈ graph.annotatedWith settings.trigger, ∀ made,
    graph.generate template settings = some (.ok made) →
      made ∈ final.report.generated ∧
        final.sink.outputs.get? (template ++ settings.implSuffix) = some (Memory.entryOf made)

namespace Memory

section FreshRound

variable {settings : Settings} {graph : Graph} {fresh : RoundState Memory}
  (ends : freshRound settings graph = some fresh)
include ends

theorem reports_generate :
    Reports settings graph (fun template => graph.generate template settings) fresh := by
  have reports := reports_freshRound ends
  rw [funext (graph.outcome_of_faultless settings)] at reports
  exact reports

theorem generated_freshRound {template : QualifiedName}
    (annotated : template ∈ graph.annotatedWith settings.trigger) {made : GeneratedUnit}
    (generated : graph.generate template settings = some (.ok made)) :
    made ∈ fresh.report.generated := by
  rw [(reports_generate ends).generated]
  apply List.mem_filterMap.mpr
  refine ⟨template, annotated, ?_⟩
  rw [generated]
  rfl

theorem unresolved_of_failure {failure : TemplateFailure}
    (failed : failure ∈ fresh.report.failures) :
    ∃ member source hint,
      graph.generate failure.template settings =
          some (.error (.unresolvedSource failure.template member source hint)) ∧
        failure.message =
          (GenerationError.unresolvedSource failure.template member source hint).message := by
  have reports := reports_generate ends
  rw [reports.failures] at failed
  obtain ⟨template, annotated, reported⟩ := List.mem_filterMap.mp failed
  obtain ⟨entry, found⟩ := Graph.entry?_of_mem_annotatedWith annotated
  have searches := (graph.generate_isSome_iff template settings).mp
    (reports.known template annotated)
  rcases Graph.generate_cases found searches settings with
    ⟨made, generated⟩ | ⟨member, source, hint, refused⟩
  · rw [generated] at reported
    cases reported
  · rw [refused] at reported
    cases reported
    exact ⟨member, source, hint, refused, rfl⟩

theorem separate_freshRound : fresh.Separate settings graph where
  reports := reports_generate ends
  failures _ failed := unresolved_of_failure ends failed
  committed template annotated made generated := by
    have member := generated_freshRound ends annotated generated
    refine ⟨member, (get?_freshRound ends).mpr ⟨made, member, ?_, rfl⟩⟩
    exact Graph.qualifiedName_of_generate generated

end FreshRound

end Memory

/-- Templates never compete for an output: every output has the name of its template with the
suffix.  With fresh memory a round whose searches end comes, for every template, to what is
generated for it: if that is an output, the output is kept under its name, and no template
fails but for a source of its own. -/
theorem Processor.process_separate (processor : Processor) (graph : Graph) :
    (∀ first second made other,
      graph.generate first processor.settings = some (.ok made) →
      graph.generate second processor.settings = some (.ok other) →
        made.qualifiedName = first ++ processor.settings.implSuffix ∧
          (first ≠ second → made.qualifiedName ≠ other.qualifiedName)) ∧
    ((∀ template ∈ graph.annotatedWith processor.settings.trigger, graph.SearchesEnd template) →
      ∃ ended final, processor.process graph Memory.filer {} = some (ended, final) ∧
        final.Separate processor.settings graph) := by
  constructor
  · intro first second made other generated otherGenerated
    refine ⟨Graph.qualifiedName_of_generate generated, fun different same => ?_⟩
    exact different (Graph.template_eq_of_qualifiedName_eq generated otherGenerated same)
  · intro searches
    obtain ⟨ended, final, ends⟩ := exists_process processor searches Memory.filer {}
    exact ⟨ended, final, ends, Memory.separate_freshRound (freshRound_of_process ends)⟩

/-- A template without an end keeps another one, which has an output, from having it kept. -/
theorem Processor.process_separate_endless :
    "app.Good" ∈ Graph.endless.annotatedWith "aptgen.annotation.Sample" ∧
      (∃ result ∈ Graph.endless.generate "app.Good" {}, ∃ made ∈ result.toOption,
        made.qualifiedName = "app.Good_Impl") ∧
      ¬∃ ended final, process { settings := {} } Graph.endless Memory.filer {} =
          some (ended, final) ∧
        (final.sink.outputs.get? "app.Good_Impl").isSome = true := by
  refine ⟨Graph.annotatedWith_endless ▸ List.mem_cons_of_mem _ List.mem_cons_self,
    Graph.generate_idleTemplate, ?_⟩
  rintro ⟨ended, final, ends, -⟩
  rw [process_endlessTemplate] at ends
  cases ends

/-- Without a suffix the outputs have the names of their templates. -/
theorem Processor.process_separate_unsuffixed :
    (∀ template ∈ Graph.twoTemplates.annotatedWith "aptgen.annotation.Sample",
      Graph.twoTemplates.SearchesEnd template) ∧
    ∃ ended final, process { settings := { implSuffix := "" } } Graph.twoTemplates Memory.filer {} =
        some (ended, final) ∧
      final.Separate { implSuffix := "" } Graph.twoTemplates ∧
      final.sink.outputs.names = ["app.A", "app.B"] := by
  obtain ⟨ended, final, ends, separate⟩ :=
    (process_separate { settings := { implSuffix := "" } } Graph.twoTemplates).2
      Graph.searchesEnd_twoTemplates
  have computed : (process { settings := { implSuffix := "" } } Graph.twoTemplates
      Memory.filer {}).map (fun round => round.2.sink.outputs.names) =
      some ["app.A", "app.B"] := by
    decide +kernel
  rw [ends] at computed
  exact ⟨Graph.searchesEnd_twoTemplates, ended, final, ends, separate,
    Option.some.inj computed⟩

end Stencil
