import Stencil.Proofs.Filer.Emission
import Stencil.Proofs.Generation
import Stencil.Proofs.Graph.Growth
import Stencil.Round

/-!
# What a round does, turn by turn

A round gives every template one turn.  A turn starts from the filer state that
the turn before it left.  It ends with an output or with an error, and which of
the two it is depends on the template's generation and on the calls for its own
output.  What the round reports is put together from its turns.

A round ends exactly if the searches for all its templates do.
-/

namespace Stencil

variable {σ ω : Type}

/-- What is said about a template that came to a result: nothing but the error if nothing
was generated, and otherwise one message for every originating element, in the order of
their names, followed by the error if there is one. -/
def Graph.messages (graph : Graph) (settings : Settings) (template : QualifiedName)
    (result : Except GenerationError GeneratedUnit) : List Diagnostic :=
  (match graph.generate template settings with
    | some (.ok made) => made.provenance.names.map fun name =>
        ⟨settings.provenanceSeverity,
          "originating element: " ++ (graph.simpleName? name).getD name⟩
    | _ => []) ++
  match result with
  | .ok _ => []
  | .error error => [⟨.error, error.message⟩]

/-- The turn of one template in a round. -/
structure Turn (σ : Type) where
  template : QualifiedName
  before : σ
  result : Except GenerationError GeneratedUnit
  after : σ

namespace Turn

/-- How a turn comes to its result. -/
inductive Runs (settings : Settings) (graph : Graph) (filer : Filer σ ω) : Turn σ → Prop where
  /-- Nothing was generated, and the filer was not asked. -/
  | ungenerated {template : QualifiedName} {error : GenerationError} {state : σ}
      (failed : graph.generate template settings = some (.error error)) :
      Runs settings graph filer ⟨template, state, .error error, state⟩
  /-- The filer refused the output at one of its calls. -/
  | refused {template : QualifiedName} {generated : GeneratedUnit} {error : FileError}
      {before after : σ} (made : graph.generate template settings = some (.ok generated))
      (refuses : filer.Refuses generated before error after) :
      Runs settings graph filer
        ⟨template, before, .error (.notWritten generated.qualifiedName error), after⟩
  /-- The filer took the output in. -/
  | emitted {template : QualifiedName} {generated : GeneratedUnit} {before after : σ}
      (made : graph.generate template settings = some (.ok generated))
      (emits : filer.Emits generated before after) :
      Runs settings graph filer ⟨template, before, .ok generated, after⟩

def generated? (turn : Turn σ) : Option GeneratedUnit :=
  match turn.result with
  | .ok generated => some generated
  | .error _ => none

def failure? (turn : Turn σ) : Option TemplateFailure :=
  match turn.result with
  | .ok _ => none
  | .error error => some ⟨turn.template, error.message⟩

/-- A turn has an output exactly if its template is generated and the calls for
this output succeed. -/
theorem Runs.result_eq_ok_iff {settings : Settings} {graph : Graph} {filer : Filer σ ω}
    {turn : Turn σ} (runs : turn.Runs settings graph filer) {made : GeneratedUnit} :
    turn.result = .ok made ↔
      graph.generate turn.template settings = some (.ok made) ∧
        filer.Emits made turn.before turn.after := by
  cases runs with
  | ungenerated failed =>
    constructor
    · intro absurdity
      cases absurdity
    · rintro ⟨generated, -⟩
      rw [failed] at generated
      cases generated
  | refused generated refuses =>
    constructor
    · intro absurdity
      cases absurdity
    · rintro ⟨other, emits⟩
      rw [generated] at other
      cases other
      have refusal := refuses.emit_eq
      rw [emits.emit_eq] at refusal
      cases refusal
  | emitted generated emits =>
    constructor
    · intro equal
      cases equal
      exact ⟨generated, emits⟩
    · rintro ⟨other, -⟩
      rw [generated] at other
      cases other
      rfl

theorem Runs.generated?_eq_some {settings : Settings} {graph : Graph} {filer : Filer σ ω}
    {turn : Turn σ} (runs : turn.Runs settings graph filer) {made : GeneratedUnit}
    (given : turn.generated? = some made) :
    graph.generate turn.template settings = some (.ok made) ∧
      filer.Emits made turn.before turn.after := by
  apply runs.result_eq_ok_iff.mp
  unfold generated? at given
  split at given
  · rename_i generated result
    cases given
    exact result
  · cases given

theorem Runs.template_of_generated? {settings : Settings} {graph : Graph} {filer : Filer σ ω}
    {turn : Turn σ} (runs : turn.Runs settings graph filer) {made : GeneratedUnit}
    (given : turn.generated? = some made) : made.template = turn.template :=
  Graph.template_of_generate (runs.generated?_eq_some given).1

end Turn

/-- Turns that start where the one before ended. -/
inductive Linked : σ → List (Turn σ) → σ → Prop where
  | nil {state : σ} : Linked state [] state
  | cons {state : σ} {turn : Turn σ} {rest : List (Turn σ)} {final : σ}
      (starts : turn.before = state) (links : Linked turn.after rest final) :
      Linked state (turn :: rest) final

theorem Linked.append {start middle final : σ} {first second : List (Turn σ)}
    (head : Linked start first middle) (tail : Linked middle second final) :
    Linked start (first ++ second) final := by
  induction head with
  | nil => exact tail
  | cons starts _ ih => exact .cons starts (ih tail)

/-- The turns of some templates explain what a round adds to a state. -/
structure TurnByTurn (settings : Settings) (graph : Graph) (filer : Filer σ ω)
    (templates : List QualifiedName) (start final : RoundState σ) (turns : List (Turn σ)) :
    Prop where
  order : turns.map Turn.template = templates
  linked : Linked start.sink turns final.sink
  runs : ∀ turn ∈ turns, turn.Runs settings graph filer
  generated : final.report.generated =
    start.report.generated ++ turns.filterMap Turn.generated?
  failures : final.report.failures = start.report.failures ++ turns.filterMap Turn.failure?
  diagnostics : final.diagnostics =
    start.diagnostics ++ turns.flatMap fun turn =>
      graph.messages settings turn.template turn.result
  claimed : final.report.claimed = start.report.claimed

namespace RoundState

theorem receive_turn {settings : Settings} {graph : Graph} {template : QualifiedName}
    {result : Except GenerationError GeneratedUnit}
    (generates : graph.generate template settings = some result) (filer : Filer σ ω)
    (state : RoundState σ) :
    ∃ turn, TurnByTurn settings graph filer [template] state
      (state.receive settings graph filer template result) [turn] := by
  cases result with
  | error error =>
    refine ⟨⟨template, state.sink, .error error, state.sink⟩, rfl, .cons rfl .nil, ?_, ?_, ?_,
      ?_, rfl⟩
    · exact List.forall_mem_singleton.mpr (.ungenerated generates)
    · simp [receive, fail, Turn.generated?]
    · simp [receive, fail, Turn.failure?]
    · simp [receive, fail, Graph.messages, generates]
  | ok generated =>
    unfold receive
    rcases filer.emit_cases generated state.sink with
      ⟨after, ends, emits⟩ | ⟨error, after, ends, refuses⟩
    · simp only [ends]
      refine ⟨⟨template, state.sink, .ok generated, after⟩, rfl, .cons rfl .nil, ?_, ?_, ?_,
        ?_, rfl⟩
      · exact List.forall_mem_singleton.mpr (.emitted generates emits)
      · simp [commit, Turn.generated?]
      · simp [commit, Turn.failure?]
      · simp [commit, Graph.messages, generates, Provenance.diagnostics]
    · simp only [ends]
      refine ⟨⟨template, state.sink, .error (.notWritten generated.qualifiedName error), after⟩,
        rfl, .cons rfl .nil, ?_, ?_, ?_, ?_, rfl⟩
      · exact List.forall_mem_singleton.mpr (.refused generates refuses)
      · simp [fail, Turn.generated?]
      · simp [fail, Turn.failure?]
      · simp [fail, Graph.messages, generates, Provenance.diagnostics]

theorem handle_turn {settings : Settings} {graph : Graph} {filer : Filer σ ω}
    {state next : RoundState σ} {template : QualifiedName}
    (ends : state.handle settings graph filer template = some next) :
    ∃ turn, TurnByTurn settings graph filer [template] state next [turn] := by
  obtain ⟨result, generates, rfl⟩ := Option.map_eq_some_iff.mp ends
  exact receive_turn generates filer state

theorem foldlM_handle_turns {settings : Settings} {graph : Graph} {filer : Filer σ ω}
    {templates : List QualifiedName} {state final : RoundState σ}
    (ends : templates.foldlM (handle settings graph filer) state = some final) :
    ∃ turns, TurnByTurn settings graph filer templates state final turns := by
  induction templates generalizing state with
  | nil =>
    obtain rfl := Option.some.inj ends
    refine ⟨[], rfl, .nil, ?_, ?_, ?_, ?_, rfl⟩
    · exact fun turn absent => absurd absent List.not_mem_nil
    · simp
    · simp
    · simp
  | cons template rest ih =>
    rw [List.foldlM_cons] at ends
    obtain ⟨next, handled, ends⟩ := Option.bind_eq_some_iff.mp ends
    obtain ⟨turn, first⟩ := handle_turn handled
    obtain ⟨turns, later⟩ := ih ends
    refine ⟨turn :: turns, ?_⟩
    constructor
    case order =>
      rw [List.map_cons, later.order]
      exact congrArg (· ++ rest) first.order
    case linked => exact first.linked.append later.linked
    case runs =>
      intro other member
      rcases List.mem_cons.mp member with rfl | member
      · exact first.runs _ List.mem_cons_self
      · exact later.runs other member
    case generated =>
      rw [later.generated, first.generated, List.append_assoc, ← List.filterMap_append]
      rfl
    case failures =>
      rw [later.failures, first.failures, List.append_assoc, ← List.filterMap_append]
      rfl
    case diagnostics =>
      rw [later.diagnostics, first.diagnostics, List.append_assoc, ← List.flatMap_append]
      rfl
    case claimed => rw [later.claimed, first.claimed]

/-- Templates are worked through exactly if the searches for all of them end. -/
theorem foldlM_handle_isSome_iff (settings : Settings) (graph : Graph) (filer : Filer σ ω)
    (templates : List QualifiedName) (state : RoundState σ) :
    (templates.foldlM (handle settings graph filer) state).isSome = true ↔
      ∀ template ∈ templates, graph.SearchesEnd template := by
  induction templates generalizing state with
  | nil => exact iff_of_true rfl fun _ absent => absurd absent List.not_mem_nil
  | cons template rest ih =>
    rw [List.foldlM_cons, List.forall_mem_cons, ← graph.generate_isSome_iff template settings,
      handle]
    cases graph.generate template settings with
    | none => exact iff_of_false Bool.false_ne_true fun both => Bool.false_ne_true both.1
    | some result => exact (ih _).trans (and_iff_right rfl).symm

end RoundState

theorem Graph.annotatedWith_nodup (graph : Graph) (marker : QualifiedName) :
    (graph.annotatedWith marker).Nodup :=
  List.Nodup.sublist (List.filter_sublist.map Entry.id) graph.distinct

section Turns

variable {settings : Settings} {graph : Graph} {filer : Filer σ ω}

theorem generated_sublist {turns : List (Turn σ)}
    (runs : ∀ turn ∈ turns, turn.Runs settings graph filer) :
    ((turns.filterMap Turn.generated?).map GeneratedUnit.template).Sublist
      (turns.map Turn.template) := by
  induction turns with
  | nil => exact List.Sublist.refl _
  | cons turn rest ih =>
    have later := ih fun other member => runs other (List.mem_cons_of_mem _ member)
    rw [List.map_cons]
    cases given : turn.generated? with
    | none =>
      rw [List.filterMap_cons_none given]
      exact later.cons _
    | some made =>
      rw [List.filterMap_cons_some given, List.map_cons,
        (runs turn List.mem_cons_self).template_of_generated? given]
      exact later.cons_cons _

theorem failures_sublist (turns : List (Turn σ)) :
    ((turns.filterMap Turn.failure?).map TemplateFailure.template).Sublist
      (turns.map Turn.template) := by
  induction turns with
  | nil => exact List.Sublist.refl _
  | cons turn rest ih =>
    rw [List.map_cons]
    cases result : turn.result with
    | ok made =>
      rw [List.filterMap_cons_none (by simp [Turn.failure?, result])]
      exact ih.cons _
    | error error =>
      rw [List.filterMap_cons_some (by simp [Turn.failure?, result]; rfl), List.map_cons]
      exact ih.cons_cons _

/-- Every turn gives an output or a failure, and never both. -/
theorem generated_append_failures_perm {turns : List (Turn σ)}
    (runs : ∀ turn ∈ turns, turn.Runs settings graph filer) :
    ((turns.filterMap Turn.generated?).map GeneratedUnit.template ++
      (turns.filterMap Turn.failure?).map TemplateFailure.template).Perm
      (turns.map Turn.template) := by
  induction turns with
  | nil => exact List.Perm.refl _
  | cons turn rest ih =>
    have later := ih fun other member => runs other (List.mem_cons_of_mem _ member)
    rw [List.map_cons]
    cases result : turn.result with
    | ok made =>
      have given : turn.generated? = some made := by simp [Turn.generated?, result]
      rw [List.filterMap_cons_some given,
        List.filterMap_cons_none (by simp [Turn.failure?, result]), List.map_cons,
        (runs turn List.mem_cons_self).template_of_generated? given, List.cons_append]
      exact later.cons _
    | error error =>
      have failed : turn.failure? = some ⟨turn.template, error.message⟩ := by
        simp [Turn.failure?, result]
      rw [List.filterMap_cons_none (by simp [Turn.generated?, result]),
        List.filterMap_cons_some failed, List.map_cons]
      exact List.perm_middle.trans (later.cons _)

/-- What a turn changes of what the filer shows. -/
theorem Turn.Runs.shown_after {α : Type} {shown : σ → QualifiedName → Option α}
    {entry : GeneratedUnit → α} (records : filer.Records shown entry) {turn : Turn σ}
    (runs : turn.Runs settings graph filer) (name : QualifiedName) :
    shown turn.after name =
      match turn.generated? with
      | some made =>
        if name = made.qualifiedName then some (entry made) else shown turn.before name
      | none => shown turn.before name := by
  cases runs with
  | ungenerated failed => rfl
  | refused made refuses => exact congrFun (records.refused refuses.emit_eq) name
  | emitted made emits => exact records.emitted emits.emit_eq name

/-- No later output has the name of an output: its template would have come before. -/
theorem Turn.Runs.not_mem_later {turn : Turn σ} {rest : List (Turn σ)}
    (runs : turn.Runs settings graph filer)
    (runsRest : ∀ other ∈ rest, other.Runs settings graph filer)
    (once : turn.template ∉ rest.map Turn.template) {made : GeneratedUnit}
    (given : turn.generated? = some made) :
    made.qualifiedName ∉ (rest.filterMap Turn.generated?).map GeneratedUnit.qualifiedName := by
  intro member
  obtain ⟨other, present, named⟩ := List.mem_map.mp member
  obtain ⟨second, later, secondGiven⟩ := List.mem_filterMap.mp present
  have sameTemplate := Graph.template_eq_of_qualifiedName_eq (runs.generated?_eq_some given).1
    ((runsRest second later).generated?_eq_some secondGiven).1 named.symm
  exact once (sameTemplate ▸ List.mem_map_of_mem later)

/-- After linked turns a filer shows the outputs of these turns, and besides them
what it showed before. -/
theorem Linked.shown_final {α : Type} {shown : σ → QualifiedName → Option α}
    {entry : GeneratedUnit → α} (records : filer.Records shown entry)
    {start final : σ} {turns : List (Turn σ)} (links : Linked start turns final)
    (runs : ∀ turn ∈ turns, turn.Runs settings graph filer)
    (once : (turns.map Turn.template).Nodup) (name : QualifiedName) :
    shown final name =
      (((turns.filterMap Turn.generated?).find? fun made =>
        decide (made.qualifiedName = name)).map entry).or (shown start name) := by
  induction links with
  | nil => rfl
  | @cons state turn rest final starts links ih =>
    rw [List.map_cons, List.nodup_cons] at once
    have runsFirst := runs turn List.mem_cons_self
    have runsRest : ∀ other ∈ rest, other.Runs settings graph filer :=
      fun other member => runs other (List.mem_cons_of_mem _ member)
    rw [ih runsRest once.2, runsFirst.shown_after records, starts]
    cases given : turn.generated? with
    | none => rw [List.filterMap_cons_none given]
    | some made =>
      rw [List.filterMap_cons_some given]
      by_cases same : name = made.qualifiedName
      · have absent : (rest.filterMap Turn.generated?).find?
            (fun other => decide (other.qualifiedName = name)) = none := by
          rw [List.find?_eq_none, same]
          intro other member equal
          apply runsFirst.not_mem_later runsRest once.1 given
          exact List.mem_map.mpr ⟨other, member, of_decide_eq_true equal⟩
        rw [absent, List.find?_cons_of_pos (by simpa using same.symm)]
        simp only [if_pos same, Option.map_none, Option.map_some, Option.none_or, Option.some_or]
      · rw [List.find?_cons_of_neg (by simpa using Ne.symm same)]
        simp only [if_neg same]

/-- What becomes of a template if the filer answers with faults. -/
def Graph.outcome (graph : Graph) (settings : Settings)
    (fault : QualifiedName → Option FileError) (template : QualifiedName) :
    Option (Except GenerationError GeneratedUnit) :=
  (graph.generate template settings).map fun
    | .error error => .error error
    | .ok made =>
      match fault made.qualifiedName with
      | none => .ok made
      | some error => .error (.notWritten made.qualifiedName error)

/-- A filer that answers for every output on its own gives a template the outcome
that it has alone. -/
theorem Turn.Runs.result_eq {ready : σ → QualifiedName → Prop}
    {fault : QualifiedName → Option FileError} (independent : filer.Independent ready fault)
    {turn : Turn σ} (runs : turn.Runs settings graph filer)
    (prepared : ∀ made, graph.generate turn.template settings = some (.ok made) →
      ready turn.before made.qualifiedName) :
    graph.outcome settings fault turn.template = some turn.result := by
  unfold Graph.outcome
  cases runs with
  | ungenerated failed =>
    rw [failed]
    rfl
  | @refused _ generated _ _ _ made refuses =>
    have answer := independent.answers (prepared _ made)
    rw [refuses.emit_eq] at answer
    cases fails : fault generated.qualifiedName with
    | none =>
      rw [fails] at answer
      cases answer
    | some error =>
      rw [fails] at answer
      cases answer
      simp only [made, fails, Option.map_some]
  | @emitted _ generated _ _ made emits =>
    have answer := independent.answers (prepared _ made)
    rw [emits.emit_eq] at answer
    cases fails : fault generated.qualifiedName with
    | none => simp only [made, fails, Option.map_some]
    | some error =>
      rw [fails] at answer
      cases answer

theorem Turn.Runs.ready_after {ready : σ → QualifiedName → Prop}
    {fault : QualifiedName → Option FileError} (independent : filer.Independent ready fault)
    {turn : Turn σ} (runs : turn.Runs settings graph filer)
    (prepared : ∀ made, graph.generate turn.template settings = some (.ok made) →
      ready turn.before made.qualifiedName)
    {name : QualifiedName} (different : ∀ made,
      graph.generate turn.template settings = some (.ok made) → name ≠ made.qualifiedName)
    (waits : ready turn.before name) : ready turn.after name := by
  cases runs with
  | ungenerated failed => exact waits
  | refused made refuses =>
    have kept := independent.others (different _ made) (prepared _ made) waits
    rw [refuses.emit_eq] at kept
    exact kept
  | emitted made emits =>
    have kept := independent.others (different _ made) (prepared _ made) waits
    rw [emits.emit_eq] at kept
    exact kept

/-- After a turn the filer is as ready as before for the outputs of the turns to come. -/
theorem Turn.Runs.ready_rest {ready : σ → QualifiedName → Prop}
    {fault : QualifiedName → Option FileError} (independent : filer.Independent ready fault)
    {turn : Turn σ} {rest : List (Turn σ)} (runs : turn.Runs settings graph filer)
    (once : turn.template ∉ rest.map Turn.template)
    (prepared : ∀ other ∈ turn :: rest, ∀ made,
      graph.generate other.template settings = some (.ok made) →
      ready turn.before made.qualifiedName) :
    ∀ other ∈ rest, ∀ made, graph.generate other.template settings = some (.ok made) →
      ready turn.after made.qualifiedName := by
  intro other member made generated
  apply runs.ready_after independent (prepared turn List.mem_cons_self)
  · intro own ownGenerated same
    have sameTemplate := Graph.template_eq_of_qualifiedName_eq generated ownGenerated same
    exact once (sameTemplate ▸ List.mem_map_of_mem member)
  · exact prepared other (List.mem_cons_of_mem _ member) made generated

theorem Linked.results_eq {ready : σ → QualifiedName → Prop}
    {fault : QualifiedName → Option FileError} (independent : filer.Independent ready fault)
    {start final : σ} {turns : List (Turn σ)} (links : Linked start turns final)
    (runs : ∀ turn ∈ turns, turn.Runs settings graph filer)
    (once : (turns.map Turn.template).Nodup)
    (prepared : ∀ turn ∈ turns, ∀ made, graph.generate turn.template settings = some (.ok made) →
      ready start made.qualifiedName) :
    (turns.map Turn.template).map (graph.outcome settings fault) =
      turns.map fun turn => some turn.result := by
  induction links with
  | nil => rfl
  | @cons state turn rest final starts links ih =>
    rw [List.map_cons, List.nodup_cons] at once
    have runsFirst := runs turn List.mem_cons_self
    have runsRest : ∀ other ∈ rest, other.Runs settings graph filer :=
      fun other member => runs other (List.mem_cons_of_mem _ member)
    subst starts
    have preparedRest := runsFirst.ready_rest independent once.1 prepared
    rw [List.map_cons, List.map_cons, List.map_cons,
      runsFirst.result_eq independent (prepared turn List.mem_cons_self),
      ih runsRest once.2 preparedRest]

end Turns

/-- What a round of a processor amounts to, whatever the filer answers. -/
structure Processor.Orderly (processor : Processor) (graph : Graph) (filer : Filer σ ω)
    (sink : σ) (ended : Processor) (final : RoundState σ) (turns : List (Turn σ)) : Prop where
  /-- No template comes twice. -/
  once : (graph.annotatedWith processor.settings.trigger).Nodup
  /-- Every template has one turn, in order, and what is reported comes from the
  turns. -/
  turnByTurn : TurnByTurn processor.settings graph filer
    (graph.annotatedWith processor.settings.trigger) { sink } final turns
  /-- A template has its output exactly if it is generated and its own calls
  succeed. -/
  succeeds : ∀ turn ∈ turns, ∀ made,
    made ∈ final.report.generated ∧ made.template = turn.template ↔
      graph.generate turn.template processor.settings = some (.ok made) ∧
        filer.Emits made turn.before turn.after
  generatedInOrder : (final.report.generated.map GeneratedUnit.template).Sublist
    (graph.annotatedWith processor.settings.trigger)
  failuresInOrder : (final.report.failures.map TemplateFailure.template).Sublist
    (graph.annotatedWith processor.settings.trigger)
  /-- Every template is generated or failed, and only once. -/
  complete : (final.report.generated.map GeneratedUnit.template ++
    final.report.failures.map TemplateFailure.template).Perm
      (graph.annotatedWith processor.settings.trigger)
  /-- What the filer shows in the end are the generated outputs, and besides them
  what it showed before. -/
  committed : ∀ {α : Type} {shown : σ → QualifiedName → Option α} {entry : GeneratedUnit → α},
    filer.Records shown entry → ∀ name, shown final.sink name =
      ((final.report.generated.find? fun made => decide (made.qualifiedName = name)).map
        entry).or (shown sink name)
  /-- If the filer answers for every output on its own, so does the round. -/
  independent : ∀ {ready : σ → QualifiedName → Prop} {fault : QualifiedName → Option FileError},
    filer.Independent ready fault →
    (∀ template ∈ graph.annotatedWith processor.settings.trigger, ∀ made,
      graph.generate template processor.settings = some (.ok made) → ready sink made.qualifiedName) →
    (graph.annotatedWith processor.settings.trigger).map
      (graph.outcome processor.settings fault) = turns.map fun turn => some turn.result
  idle : ended.phase = .idle
  unchanged : ended.settings = processor.settings
  unclaimed : final.report.claimed = false

namespace Processor

/-- A state that a round comes to with the first of its templates, be it that it has an end
or not. -/
def Passes (processor : Processor) (graph : Graph) (filer : Filer σ ω) (sink : σ)
    (state : RoundState σ) : Prop :=
  ∃ templates, templates <+: graph.annotatedWith processor.settings.trigger ∧
    templates.foldlM (RoundState.handle processor.settings graph filer) { sink } = some state

section Process

variable {processor ended : Processor} {graph : Graph} {filer : Filer σ ω} {sink : σ}
  {final : RoundState σ}

/-- A round works its templates through, also when there are none. -/
theorem process_eq (processor : Processor) (graph : Graph) (filer : Filer σ ω) (sink : σ) :
    processor.process graph filer sink =
      ((graph.annotatedWith processor.settings.trigger).foldlM
        (RoundState.handle processor.settings graph filer) { sink }).map fun final =>
          (if (graph.annotatedWith processor.settings.trigger).isEmpty then processor
            else { processor with phase := .idle }, final) := by
  unfold process
  cases graph.annotatedWith processor.settings.trigger with
  | nil => rfl
  | cons template rest => rfl

theorem foldlM_of_process (ends : processor.process graph filer sink = some (ended, final)) :
    (graph.annotatedWith processor.settings.trigger).foldlM
      (RoundState.handle processor.settings graph filer) { sink } = some final := by
  rw [process_eq] at ends
  obtain ⟨state, worked, same⟩ := Option.map_eq_some_iff.mp ends
  obtain ⟨-, rfl⟩ := Prod.mk.inj same
  exact worked

/-- A round is the turns of its templates. -/
theorem process_turns (ends : processor.process graph filer sink = some (ended, final)) :
    ∃ turns, TurnByTurn processor.settings graph filer
      (graph.annotatedWith processor.settings.trigger) { sink } final turns :=
  RoundState.foldlM_handle_turns (foldlM_of_process ends)

theorem passes_of_process (ends : processor.process graph filer sink = some (ended, final)) :
    processor.Passes graph filer sink final :=
  ⟨_, List.prefix_rfl, foldlM_of_process ends⟩

theorem settings_of_process (ends : processor.process graph filer sink = some (ended, final)) :
    ended.settings = processor.settings := by
  rw [process_eq] at ends
  obtain ⟨state, -, same⟩ := Option.map_eq_some_iff.mp ends
  obtain ⟨rfl, -⟩ := Prod.mk.inj same
  split_ifs <;> rfl

theorem phase_of_process (idle : processor.phase = .idle)
    (ends : processor.process graph filer sink = some (ended, final)) : ended.phase = .idle := by
  rw [process_eq] at ends
  obtain ⟨state, -, same⟩ := Option.map_eq_some_iff.mp ends
  obtain ⟨rfl, -⟩ := Prod.mk.inj same
  split_ifs
  · exact idle
  · rfl

/-- A round with one template is the turn of this template. -/
theorem process_of_single {template : QualifiedName}
    (single : graph.annotatedWith processor.settings.trigger = [template])
    {result : Except GenerationError GeneratedUnit}
    (generates : graph.generate template processor.settings = some result) (filer : Filer σ ω)
    (sink : σ) : processor.process graph filer sink = some ({ processor with phase := .idle },
      RoundState.receive processor.settings graph filer { sink } template result) := by
  unfold process
  rw [single]
  simp only [List.isEmpty_cons, List.foldlM_cons, List.foldlM_nil, RoundState.handle, generates,
    Option.map_some, Option.bind_eq_bind, Option.bind_some, Option.pure_def, Bool.false_eq_true,
    if_false]

/-- A round ends exactly if the searches for all its templates do, whatever the filer. -/
theorem process_isSome_iff (processor : Processor) (graph : Graph) (filer : Filer σ ω)
    (sink : σ) : (processor.process graph filer sink).isSome = true ↔
      ∀ template ∈ graph.annotatedWith processor.settings.trigger,
        graph.SearchesEnd template := by
  rw [process_eq, Option.isSome_map]
  exact RoundState.foldlM_handle_isSome_iff processor.settings graph filer _ { sink }

theorem process_eq_none_iff (processor : Processor) (graph : Graph) (filer : Filer σ ω)
    (sink : σ) : processor.process graph filer sink = none ↔
      ¬∀ template ∈ graph.annotatedWith processor.settings.trigger,
        graph.SearchesEnd template := by
  rw [← Option.not_isSome_iff_eq_none, process_isSome_iff]

theorem searchesEnd_of_process (ends : processor.process graph filer sink = some (ended, final)) :
    ∀ template ∈ graph.annotatedWith processor.settings.trigger, graph.SearchesEnd template :=
  (processor.process_isSome_iff graph filer sink).mp (by rw [ends]; rfl)

theorem exists_process (processor : Processor)
    (ends : ∀ template ∈ graph.annotatedWith processor.settings.trigger,
      graph.SearchesEnd template) (filer : Filer σ ω) (sink : σ) :
    ∃ ended final, processor.process graph filer sink = some (ended, final) := by
  have some := (processor.process_isSome_iff graph filer sink).mpr ends
  obtain ⟨⟨ended, final⟩, same⟩ := Option.isSome_iff_exists.mp some
  exact ⟨ended, final, same⟩

end Process

theorem generated_mem_iff {settings : Settings} {graph : Graph} {filer : Filer σ ω}
    {turns : List (Turn σ)} (runs : ∀ turn ∈ turns, turn.Runs settings graph filer)
    (once : (turns.map Turn.template).Nodup) {turn : Turn σ} (member : turn ∈ turns)
    (made : GeneratedUnit) :
    made ∈ turns.filterMap Turn.generated? ∧ made.template = turn.template ↔
      graph.generate turn.template settings = some (.ok made) ∧
        filer.Emits made turn.before turn.after := by
  rw [← (runs turn member).result_eq_ok_iff]
  constructor
  · rintro ⟨present, same⟩
    obtain ⟨other, otherMember, given⟩ := List.mem_filterMap.mp present
    have template := (runs other otherMember).template_of_generated? given
    have equal : other = turn :=
      List.inj_on_of_nodup_map once otherMember member (template.symm.trans same)
    rw [← equal]
    exact (runs other otherMember).result_eq_ok_iff.mpr
      ((runs other otherMember).generated?_eq_some given)
  · intro result
    have given : turn.generated? = some made := by
      unfold Turn.generated?
      rw [result]
    exact ⟨List.mem_filterMap.mpr ⟨turn, member, given⟩,
      (runs turn member).template_of_generated? given⟩

theorem exists_orderly {processor ended : Processor} (idle : processor.phase = .idle)
    {graph : Graph} {filer : Filer σ ω} {sink : σ} {final : RoundState σ}
    (ends : processor.process graph filer sink = some (ended, final)) :
    ∃ turns, processor.Orderly graph filer sink ended final turns := by
  obtain ⟨turns, explained⟩ := process_turns ends
  have once := graph.annotatedWith_nodup processor.settings.trigger
  have turnsOnce : (turns.map Turn.template).Nodup := explained.order.symm ▸ once
  have generated : final.report.generated = turns.filterMap Turn.generated? :=
    explained.generated
  have failures : final.report.failures = turns.filterMap Turn.failure? := explained.failures
  refine ⟨turns, ?_⟩
  constructor
  case once => exact once
  case turnByTurn => exact explained
  case succeeds =>
    intro turn member made
    rw [generated]
    exact generated_mem_iff explained.runs turnsOnce member made
  case generatedInOrder =>
    rw [generated, ← explained.order]
    exact generated_sublist explained.runs
  case failuresInOrder =>
    rw [failures, ← explained.order]
    exact failures_sublist turns
  case complete =>
    rw [generated, failures, ← explained.order]
    exact generated_append_failures_perm explained.runs
  case committed =>
    intro α shown entry records name
    rw [generated]
    exact explained.linked.shown_final records explained.runs turnsOnce name
  case independent =>
    intro ready fault independent prepared
    rw [← explained.order]
    apply explained.linked.results_eq independent explained.runs turnsOnce
    intro turn member
    apply prepared
    rw [← explained.order]
    exact List.mem_map_of_mem member
  case idle => exact phase_of_process idle ends
  case unchanged => exact settings_of_process ends
  case unclaimed => exact explained.claimed

private theorem find?_eq_some_of_nodup {α : Type} {name : α → String} {list : List α}
    (distinct : (list.map name).Nodup) {a : α} (member : a ∈ list) :
    list.find? (fun other => decide (name other = name a)) = some a := by
  cases found : list.find? fun other => decide (name other = name a) with
  | none =>
    have absent := List.find?_eq_none.mp found a member
    simp at absent
  | some other =>
    have same : name other = name a := by simpa using List.find?_some found
    rw [List.inj_on_of_nodup_map distinct (List.mem_of_find?_eq_some found) member same]

/-- What is left of a list without repetitions, if some of it is taken out. -/
private theorem eq_filter_not_mem {taken left all : List String} (inOrder : left.Sublist all)
    (distinct : all.Nodup) (complete : (taken ++ left).Perm all) :
    left = all.filter fun item => decide (item ∉ taken) := by
  let keep : String → Bool := fun item => decide (item ∉ taken)
  have apart := List.disjoint_of_nodup_append (complete.nodup_iff.mpr distinct)
  have none_taken : taken.filter keep = [] :=
    List.filter_eq_nil_iff.mpr fun item member => by simpa [keep] using member
  have all_left : left.filter keep = left :=
    List.filter_eq_self.mpr fun item member => decide_eq_true fun other => apart other member
  have sublist := inOrder.filter keep
  have same := complete.filter keep
  rw [List.filter_append, none_taken, all_left, List.nil_append] at same
  rw [all_left] at sublist
  exact sublist.eq_of_length same.length_eq

namespace Orderly

variable {processor ended : Processor} {graph : Graph} {filer : Filer σ ω} {sink : σ}
  {final : RoundState σ} {turns : List (Turn σ)}

theorem generate_of_mem (orderly : processor.Orderly graph filer sink ended final turns)
    {made : GeneratedUnit} (member : made ∈ final.report.generated) :
    graph.generate made.template processor.settings = some (.ok made) := by
  have generated := orderly.turnByTurn.generated
  rw [List.nil_append] at generated
  rw [generated] at member
  obtain ⟨turn, present, given⟩ := List.mem_filterMap.mp member
  have runs := orderly.turnByTurn.runs turn present
  rw [runs.template_of_generated? given]
  exact (runs.generated?_eq_some given).1

theorem failures_eq (orderly : processor.Orderly graph filer sink ended final turns) :
    final.report.failures.map TemplateFailure.template =
      (graph.annotatedWith processor.settings.trigger).filter fun template =>
        decide (template ∉ final.report.generated.map GeneratedUnit.template) :=
  eq_filter_not_mem orderly.failuresInOrder orderly.once orderly.complete

theorem qualifiedNames_nodup (orderly : processor.Orderly graph filer sink ended final turns) :
    (final.report.generated.map GeneratedUnit.qualifiedName).Nodup := by
  have templates := orderly.once.sublist orderly.generatedInOrder
  rw [List.Nodup, List.pairwise_map] at templates ⊢
  apply templates.imp_of_mem
  intro made other member otherMember different same
  apply different
  exact Graph.template_eq_of_qualifiedName_eq (orderly.generate_of_mem member)
    (orderly.generate_of_mem otherMember) same

theorem shown_of_mem (orderly : processor.Orderly graph filer sink ended final turns)
    {α : Type} {shown : σ → QualifiedName → Option α} {entry : GeneratedUnit → α}
    (records : filer.Records shown entry) {made : GeneratedUnit}
    (member : made ∈ final.report.generated) :
    shown final.sink made.qualifiedName = some (entry made) := by
  rw [orderly.committed records,
    find?_eq_some_of_nodup orderly.qualifiedNames_nodup member]
  rfl

end Orderly

end Processor

theorem Turn.generated?_eq (turn : Turn σ) : turn.generated? = turn.result.toOption := by
  unfold Turn.generated?
  cases turn.result with
  | ok made => rfl
  | error error => rfl

theorem Turn.filterMap_generated? (turns : List (Turn σ)) :
    turns.filterMap Turn.generated? =
      (turns.map fun turn => some turn.result).filterMap (·.bind Except.toOption) := by
  rw [List.filterMap_map]
  congr 1
  funext turn
  exact turn.generated?_eq

/-- A round with a filer in memory that is made to fail for the names of a plan
generates what is not made to fail, and keeps exactly what it generated. -/
structure Memory.KeepsGenerated (settings : Settings) (graph : Graph)
    (plan : QualifiedName → Option FilerCall) (error : FileError) (final : RoundState Memory) :
    Prop where
  generated : final.report.generated =
    (graph.annotatedWith settings.trigger).filterMap fun template =>
      (graph.outcome settings (fun name => if (plan name).isSome then some error else none)
        template).bind Except.toOption
  outputs : ∀ name, final.sink.outputs.get? name =
    (final.report.generated.find? fun made => decide (made.qualifiedName = name)).map
      Memory.entryOf

theorem Memory.keepsGenerated_of_process {processor ended : Processor}
    (idle : processor.phase = .idle) {graph : Graph} {plan : QualifiedName → Option FilerCall}
    {error : FileError} {final : RoundState Memory}
    (ends : processor.process graph (Memory.filer.failing plan error) {} = some (ended, final)) :
    Memory.KeepsGenerated processor.settings graph plan error final := by
  obtain ⟨turns, orderly⟩ := Processor.exists_orderly idle ends
  constructor
  · have results := orderly.independent (Memory.filer_independent.failing plan error)
      fun template _ made _ => rfl
    have generated := orderly.turnByTurn.generated
    rw [List.nil_append] at generated
    rw [generated, Turn.filterMap_generated?, ← results, List.filterMap_map]
    rfl
  · intro name
    have committed := orderly.committed (Memory.filer_records.failing plan error) name
    rw [show Memory.shown {} name = none from rfl, Option.or_none] at committed
    exact committed

/-- Rounds whose searches end are orderly with every filer, whichever of its calls fail.
In particular a fresh filer in memory, made to fail for some names at any of the
calls, keeps exactly the outputs of the other templates that are generated. -/
theorem Processor.process_orderly (processor : Processor) (idle : processor.phase = .idle)
    (graph : Graph) (searches : ∀ template ∈ graph.annotatedWith processor.settings.trigger,
      graph.SearchesEnd template) :
    (∀ {σ ω : Type} (filer : Filer σ ω) (sink : σ), ∃ ended final turns,
      processor.process graph filer sink = some (ended, final) ∧
        processor.Orderly graph filer sink ended final turns) ∧
    ∀ (plan : QualifiedName → Option FilerCall) (error : FileError), ∃ ended final,
      processor.process graph (Memory.filer.failing plan error) {} = some (ended, final) ∧
        Memory.KeepsGenerated processor.settings graph plan error final := by
  constructor
  · intro σ ω filer sink
    obtain ⟨ended, final, ends⟩ := exists_process processor searches filer sink
    obtain ⟨turns, orderly⟩ := exists_orderly idle ends
    exact ⟨ended, final, turns, ends, orderly⟩
  · intro plan error
    obtain ⟨ended, final, ends⟩ :=
      exists_process processor searches (Memory.filer.failing plan error) {}
    exact ⟨ended, final, ends, Memory.keepsGenerated_of_process idle ends⟩

/-- A round does not come to an end if it has a template without one, whatever becomes of the
others. -/
theorem Processor.process_endless {processor : Processor} {graph : Graph}
    {template : QualifiedName} (annotated : template ∈ graph.annotatedWith processor.settings.trigger)
    (endless : ¬graph.SearchesEnd template) (filer : Filer σ ω) (sink : σ) :
    processor.process graph filer sink = none :=
  (processor.process_eq_none_iff graph filer sink).mpr
    fun searches => endless (searches template annotated)

/-- The other template of the endless graph has an output. -/
theorem Graph.generate_idleTemplate :
    ∃ result ∈ endless.generate "app.Good" {}, ∃ made ∈ result.toOption,
      made.qualifiedName = "app.Good_Impl" := by
  decide +kernel

/-- No filer makes a round on the endless template come to an end. -/
theorem Processor.process_endlessTemplate (filer : Filer σ ω) (sink : σ) :
    process { settings := {} } Graph.endless filer sink = none :=
  process_endless (Graph.annotatedWith_endless ▸ List.mem_cons_self)
    Graph.not_searchesEnd_endless filer sink

/-- No state of a processor comes after a round on a template that has no end, and no report
has the other template. -/
theorem Processor.process_orderly_endless :
    Graph.endless.annotatedWith "aptgen.annotation.Sample" = ["app.Bad", "app.Good"] ∧
      ({ settings := {} } : Processor).phase = .idle ∧
      ¬∃ ended final turns,
        process { settings := {} } Graph.endless Memory.filer {} = some (ended, final) ∧
          Orderly { settings := {} } Graph.endless Memory.filer {} ended final turns := by
  refine ⟨Graph.annotatedWith_endless, rfl, ?_⟩
  rintro ⟨ended, final, turns, ends, -⟩
  rw [process_endlessTemplate] at ends
  cases ends

/-- Two templates: `A` names two sources, the later one first, and `B` names one that is not
there. -/
def Graph.twoTemplates : Graph where
  entries := entriesOf false [{
    name := "app"
    declarations := [
      { name := "A"
        kind := .interfaceType
        annotations := ["aptgen.annotation.Sample"]
        members := [
          { name := "Second", returnType := Library.listOfString },
          { name := "First", returnType := Library.listOfString }] },
      { name := "B"
        kind := .interfaceType
        annotations := ["aptgen.annotation.Sample"]
        members := [{ name := "Missing", returnType := Library.listOfString }] },
      { name := "First" },
      { name := "Second", members := [{ name := "x" }] }] }]
  distinct := by decide

theorem Graph.searchesEnd_twoTemplates :
    ∀ template ∈ twoTemplates.annotatedWith "aptgen.annotation.Sample",
      twoTemplates.SearchesEnd template := by
  decide +kernel

/-- A filer in memory that fails when the output of `A` is written. -/
def Memory.failingForA : Filer Memory (FaultyWriter MemoryWriter) :=
  filer.failing (fun name => if name = "app.A_Impl" then some .write else none) .diskFull

/-- `B` gets its output although `A` does not.  What is said about `A` are its sources, in the
order of their names, and then why it failed. -/
theorem Processor.process_orderly_twoTemplates :
    ({ settings := {} } : Processor).phase = .idle ∧
      (∀ template ∈ Graph.twoTemplates.annotatedWith "aptgen.annotation.Sample",
        Graph.twoTemplates.SearchesEnd template) ∧
      ∃ ended final turns, process { settings := {} } Graph.twoTemplates Memory.failingForA {} =
          some (ended, final) ∧
        Orderly { settings := {} } Graph.twoTemplates Memory.failingForA {} ended final turns ∧
        final.sink.outputs.names = ["app.B_Impl"] ∧
        final.diagnostics = [
          ⟨.mandatoryWarning, "originating element: First"⟩,
          ⟨.mandatoryWarning, "originating element: Second"⟩,
          ⟨.error, "Failed to write app.A_Impl: disk full"⟩] := by
  obtain ⟨ended, final, turns, ends, orderly⟩ :=
    (process_orderly { settings := {} } rfl Graph.twoTemplates
      Graph.searchesEnd_twoTemplates).1 Memory.failingForA {}
  have computed : (process { settings := {} } Graph.twoTemplates Memory.failingForA {}).map
      (fun round => (round.2.sink.outputs.names, round.2.diagnostics)) =
      some (["app.B_Impl"], [
        ⟨.mandatoryWarning, "originating element: First"⟩,
        ⟨.mandatoryWarning, "originating element: Second"⟩,
        ⟨.error, "Failed to write app.A_Impl: disk full"⟩]) := by
    decide +kernel
  rw [ends] at computed
  obtain ⟨names, diagnostics⟩ := Prod.mk.inj (Option.some.inj computed)
  exact ⟨rfl, Graph.searchesEnd_twoTemplates, ended, final, turns, ends, orderly, names,
    diagnostics⟩

end Stencil
