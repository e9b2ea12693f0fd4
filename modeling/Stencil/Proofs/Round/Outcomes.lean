import Stencil.Proofs.Round

/-!
# Reports of rounds, template by template

If a filer answers for every output on its own, then every template has an outcome that
does not depend on its place in the round, and the report is put together from these
outcomes in the order of the templates.
-/

namespace Stencil

variable {σ ω : Type}

/-- What a template that came to an outcome reports as a failure. -/
def Graph.failureOf? (template : QualifiedName) :
    Except GenerationError GeneratedUnit → Option TemplateFailure
  | .ok _ => none
  | .error error => some ⟨template, error.message⟩

/-- A round reports the outcome of every template, in order. -/
structure Reports (settings : Settings) (graph : Graph)
    (outcome : QualifiedName → Option (Except GenerationError GeneratedUnit))
    (final : RoundState σ) : Prop where
  known : ∀ template ∈ graph.annotatedWith settings.trigger, (outcome template).isSome = true
  generated : final.report.generated =
    (graph.annotatedWith settings.trigger).filterMap fun template =>
      (outcome template).bind Except.toOption
  failures : final.report.failures =
    (graph.annotatedWith settings.trigger).filterMap fun template =>
      (outcome template).bind (Graph.failureOf? template)
  diagnostics : final.diagnostics =
    (graph.annotatedWith settings.trigger).flatMap fun template =>
      (outcome template).elim [] (graph.messages settings template)

section Turns

variable {settings : Settings} {graph : Graph} {filer : Filer σ ω}

/-- A filer that is ready gives every turn the outcome that its template has alone. -/
theorem TurnByTurn.result_eq {start final : RoundState σ} {turns : List (Turn σ)}
    (explained : TurnByTurn settings graph filer (graph.annotatedWith settings.trigger) start
      final turns)
    {ready : σ → QualifiedName → Prop} {fault : QualifiedName → Option FileError}
    (independent : filer.Independent ready fault)
    (prepared : ∀ template made, graph.generate template settings = some (.ok made) →
      ready start.sink made.qualifiedName) :
    ∀ turn ∈ turns, graph.outcome settings fault turn.template = some turn.result := by
  have once : (turns.map Turn.template).Nodup :=
    explained.order.symm ▸ graph.annotatedWith_nodup settings.trigger
  have results := explained.linked.results_eq independent explained.runs once
    fun turn _ => prepared turn.template
  rw [List.map_map] at results
  exact List.map_inj_left.mp results

/-- Turns with outcomes of their own report these outcomes. -/
theorem TurnByTurn.reports {sink : σ} {final : RoundState σ} {turns : List (Turn σ)}
    (explained : TurnByTurn settings graph filer (graph.annotatedWith settings.trigger) { sink }
      final turns)
    {outcome : QualifiedName → Option (Except GenerationError GeneratedUnit)}
    (results : ∀ turn ∈ turns, outcome turn.template = some turn.result) :
    Reports settings graph outcome final := by
  constructor
  · rw [← explained.order, List.forall_mem_map]
    intro turn member
    rw [results turn member]
    rfl
  · rw [explained.generated, ← explained.order, List.filterMap_map, List.nil_append]
    apply List.filterMap_congr
    intro turn member
    rw [Function.comp_apply, results turn member]
    exact turn.generated?_eq
  · rw [explained.failures, ← explained.order, List.filterMap_map, List.nil_append]
    apply List.filterMap_congr
    intro turn member
    rw [Function.comp_apply, results turn member]
    rfl
  · rw [explained.diagnostics, ← explained.order, List.flatMap_map, List.nil_append]
    apply List.flatMap_congr
    intro turn member
    rw [results turn member]
    rfl

end Turns

end Stencil
