import Stencil.Proofs.Graph.Reordering
import Stencil.Proofs.Names.Map
import Stencil.Proofs.Round.History

/-!
# Rounds do not depend on the order of declarations

A round goes over its templates in the order of the document, and the filer is used by all of
them.  With a filer that is fresh no template can tell what came before it.  So documents that
are rearrangements of each other lead to the same outputs and to the same failures, and what
is different is the order of the lists and the names that are suggested.
-/

namespace Stencil

/-- Whether two lists match member by member once one of them is reordered. -/
def AlikeInSomeOrder {α : Type} (alike : α → α → Prop) (first second : List α) : Prop :=
  ∃ reordered, first.Perm reordered ∧ List.Forall₂ alike reordered second

section Lists

variable {α β : Type} {alike : β → β → Prop} {first second : List α}

theorem alikeInSomeOrder_filterMap {f g : α → Option β} (permuted : first.Perm second)
    (related : ∀ item, Option.Rel alike (f item) (g item)) :
    AlikeInSomeOrder alike (first.filterMap f) (second.filterMap g) := by
  refine ⟨second.filterMap f, permuted.filterMap f, ?_⟩
  apply List.rel_filterMap (R := Eq) _ (List.forall₂_refl second)
  rintro item _ rfl
  exact related item

theorem alikeInSomeOrder_flatMap {f g : α → List β} (permuted : first.Perm second)
    (related : ∀ item, List.Forall₂ alike (f item) (g item)) :
    AlikeInSomeOrder alike (first.flatMap f) (second.flatMap g) := by
  refine ⟨second.flatMap f, permuted.flatMap_right f, ?_⟩
  apply List.rel_flatMap (R := Eq) (List.forall₂_refl second)
  rintro item _ rfl
  exact related item

theorem map_eq_of_forall₂ {γ : Type} {key : β → γ} {first second : List β}
    (related : List.Forall₂ alike first second) (same : ∀ a b, alike a b → key a = key b) :
    first.map key = second.map key := by
  induction related with
  | nil => rfl
  | cons head _ ih => rw [List.map_cons, List.map_cons, same _ _ head, ih]

theorem AlikeInSomeOrder.map_perm {γ : Type} {key : β → γ} {first second : List β}
    (matched : AlikeInSomeOrder alike first second)
    (same : ∀ a b, alike a b → key a = key b) : (first.map key).Perm (second.map key) := by
  obtain ⟨reordered, permuted, related⟩ := matched
  exact map_eq_of_forall₂ related same ▸ permuted.map key

end Lists

/-- Failures of one template that are alike but for the name that is suggested. -/
inductive TemplateFailure.SameButHint (policy : LookupPolicy) :
    TemplateFailure → TemplateFailure → Prop where
  | intro (template : QualifiedName) {first second : GenerationError}
      (alike : first.SameButHint policy second) :
      SameButHint policy ⟨template, first.message⟩ ⟨template, second.message⟩

/-- Messages that are alike but for the name that is suggested. -/
inductive Diagnostic.SameButHint (policy : LookupPolicy) : Diagnostic → Diagnostic → Prop where
  | same (diagnostic : Diagnostic) : SameButHint policy diagnostic diagnostic
  | error {first second : GenerationError} (alike : first.SameButHint policy second) :
      SameButHint policy ⟨.error, first.message⟩ ⟨.error, second.message⟩

/-- Rounds with the same results, reported in any order. -/
structure RoundState.Agree (policy : LookupPolicy) (first second : RoundState Memory) :
    Prop where
  outputs : first.sink.outputs = second.sink.outputs
  created : first.sink.created = second.sink.created
  generated : first.report.generated.Perm second.report.generated
  failed : (first.report.failures.map TemplateFailure.template).Perm
    (second.report.failures.map TemplateFailure.template)
  failures : AlikeInSomeOrder (TemplateFailure.SameButHint policy) first.report.failures
    second.report.failures
  diagnostics : AlikeInSomeOrder (Diagnostic.SameButHint policy) first.diagnostics
    second.diagnostics
  claimed : first.report.claimed = second.report.claimed

namespace Memory

/-- Every name that was created has an output, and no other has one. -/
def Exact (memory : Memory) : Prop :=
  ∀ name, name ∈ memory.created ↔ (memory.outputs.get? name).isSome

theorem exact_empty : Exact {} := by
  intro name
  exact iff_of_false NameSet.not_mem_empty Bool.false_ne_true

theorem emit_exact {before : Memory} (exact : before.Exact) (generated : GeneratedUnit) :
    (filer.emit generated before).2.Exact := by
  rcases emit_cases generated before with ⟨-, ends⟩ | ⟨-, ends⟩
  · rw [ends]
    exact exact
  · rw [ends]
    intro name
    rw [NameSet.mem_insert, NameMap.get?_insert, exact name]
    by_cases same : name = generated.qualifiedName
    · simp [same]
    · simp [same]

end Memory

section Turns

variable {settings : Settings} {graph : Graph}

theorem Turn.Runs.exact {turn : Turn Memory} (runs : turn.Runs settings graph Memory.filer)
    (exact : turn.before.Exact) : turn.after.Exact := by
  cases runs with
  | ungenerated failed => exact exact
  | @refused _ generated _ _ _ _ refuses =>
    have step := Memory.emit_exact exact generated
    rw [refuses.emit_eq] at step
    exact step
  | @emitted _ generated _ _ _ emits =>
    have step := Memory.emit_exact exact generated
    rw [emits.emit_eq] at step
    exact step

theorem Linked.exact {start final : Memory} {turns : List (Turn Memory)}
    (links : Linked start turns final)
    (runs : ∀ turn ∈ turns, turn.Runs settings graph Memory.filer) (exact : start.Exact) :
    final.Exact := by
  induction links with
  | nil => exact exact
  | @cons start turn rest final starts links ih =>
    subst starts
    apply ih fun other member => runs other (List.mem_cons_of_mem _ member)
    exact (runs turn List.mem_cons_self).exact exact

end Turns

namespace Memory

section FreshRound

variable {settings : Settings} {graph : Graph} {fresh : RoundState Memory}
  (ends : freshRound settings graph = some fresh)
include ends

theorem orderly_freshRound : ∃ ended turns,
    ({ settings } : Processor).Orderly graph Memory.filer {} ended fresh turns := by
  obtain ⟨⟨ended, _⟩, process, rfl⟩ := Option.map_eq_some_iff.mp ends
  exact ⟨ended, Processor.exists_orderly rfl process⟩

theorem get?_freshRound {name : QualifiedName} {output : MemoryOutput} :
    fresh.sink.outputs.get? name = some output ↔
      ∃ made ∈ fresh.report.generated, made.qualifiedName = name ∧ entryOf made = output := by
  obtain ⟨_, turns, orderly⟩ := orderly_freshRound ends
  constructor
  · intro shown
    have committed := orderly.committed Memory.filer_records name
    rw [show Memory.shown {} name = none from rfl, Option.or_none] at committed
    rw [show fresh.sink.outputs.get? name = _ from committed] at shown
    obtain ⟨made, found, entry⟩ := Option.map_eq_some_iff.mp shown
    exact ⟨made, List.mem_of_find?_eq_some found, by simpa using List.find?_some found, entry⟩
  · rintro ⟨made, member, rfl, rfl⟩
    exact orderly.shown_of_mem Memory.filer_records member

theorem exact_freshRound : fresh.sink.Exact := by
  obtain ⟨_, turns, orderly⟩ := orderly_freshRound ends
  exact orderly.turnByTurn.linked.exact orderly.turnByTurn.runs exact_empty

end FreshRound

end Memory

section Permuted

variable {graph other : Graph} (permuted : graph.entries.Perm other.entries)
include permuted

theorem Graph.outcome_sameOutcome (settings : Settings) (template : QualifiedName) :
    Option.Rel (SameOutcome settings.lookup) (graph.outcome settings (fun _ => none) template)
      (other.outcome settings (fun _ => none) template) := by
  unfold Graph.outcome
  rcases SameOutcome.cases_of_rel (generate_sameOutcome permuted settings template) with
    ⟨here, there⟩ | ⟨made, here, there⟩ | ⟨error, second, here, there, alike⟩
  · rw [here, there]
    exact .none
  · rw [here, there]
    exact .some (.ok made)
  · rw [here, there]
    exact .some (.error alike)

theorem Graph.messages_sameButHint (settings : Settings) (template : QualifiedName) :
    List.Forall₂ (Diagnostic.SameButHint settings.lookup)
      ((graph.outcome settings (fun _ => none) template).elim []
        (graph.messages settings template))
      ((other.outcome settings (fun _ => none) template).elim []
        (other.messages settings template)) := by
  unfold messages outcome
  rcases SameOutcome.cases_of_rel (generate_sameOutcome permuted settings template) with
    ⟨here, there⟩ | ⟨made, here, there⟩ | ⟨error, second, here, there, alike⟩
  · rw [here, there]
    exact .nil
  · simp only [here, there, Option.map_some, Option.elim_some, List.append_nil,
      simpleName?_of_same (entry?_of_perm permuted)]
    exact List.forall₂_same.mpr fun diagnostic _ => .same diagnostic
  · simp only [here, there, Option.map_some, Option.elim_some, List.nil_append]
    exact .cons (.error alike) .nil

theorem Graph.searchesEnd_of_perm (template : QualifiedName) :
    graph.SearchesEnd template ↔ other.SearchesEnd template := by
  rw [← graph.generate_isSome_iff template {}, ← other.generate_isSome_iff template {}]
  rcases SameOutcome.cases_of_rel (generate_sameOutcome permuted {} template) with
    ⟨here, there⟩ | ⟨made, here, there⟩ | ⟨error, second, here, there, -⟩
  · rw [here, there]
  · rw [here, there]
  · rw [here, there]
    exact Iff.rfl

/-- The searches for the templates of the one graph end exactly if those of the other do. -/
theorem Graph.searchesEnd_annotatedWith_of_perm (trigger : QualifiedName) :
    (∀ template ∈ graph.annotatedWith trigger, graph.SearchesEnd template) ↔
      ∀ template ∈ other.annotatedWith trigger, other.SearchesEnd template := by
  simp only [(Graph.annotatedWith_of_perm permuted trigger).mem_iff,
    Graph.searchesEnd_of_perm permuted]

section Ended

variable {settings : Settings} {first second : RoundState Memory}
  (ends : Memory.freshRound settings graph = some first)
  (otherEnds : Memory.freshRound settings other = some second)
include ends otherEnds

theorem Memory.generated_freshRound_perm :
    first.report.generated.Perm second.report.generated := by
  rw [(reports_freshRound ends).generated, (reports_freshRound otherEnds).generated]
  have outcomes : ∀ template,
      (graph.outcome settings (fun _ => none) template).bind Except.toOption =
        (other.outcome settings (fun _ => none) template).bind Except.toOption := by
    intro template
    rcases SameOutcome.cases_of_rel (Graph.outcome_sameOutcome permuted settings template) with
      ⟨here, there⟩ | ⟨made, here, there⟩ | ⟨error, second, here, there, -⟩
    · rw [here, there]
    · rw [here, there]
    · rw [here, there]
      rfl
  simp only [outcomes]
  exact (Graph.annotatedWith_of_perm permuted settings.trigger).filterMap _

theorem Memory.outputs_freshRound_eq : first.sink.outputs = second.sink.outputs := by
  apply NameMap.ext_get?
  intro name
  apply Option.ext
  intro output
  rw [get?_freshRound ends, get?_freshRound otherEnds]
  simp only [(generated_freshRound_perm permuted ends otherEnds).mem_iff]

theorem Memory.created_freshRound_eq : first.sink.created = second.sink.created := by
  apply NameSet.ext_of_mem
  intro name
  rw [exact_freshRound ends name, exact_freshRound otherEnds name,
    outputs_freshRound_eq permuted ends otherEnds]

theorem Memory.failures_freshRound :
    AlikeInSomeOrder (TemplateFailure.SameButHint settings.lookup) first.report.failures
      second.report.failures := by
  rw [(reports_freshRound ends).failures, (reports_freshRound otherEnds).failures]
  apply alikeInSomeOrder_filterMap (Graph.annotatedWith_of_perm permuted settings.trigger)
  intro template
  rcases SameOutcome.cases_of_rel (Graph.outcome_sameOutcome permuted settings template) with
    ⟨here, there⟩ | ⟨made, here, there⟩ | ⟨error, second, here, there, alike⟩
  · rw [here, there]
    exact .none
  · rw [here, there]
    exact .none
  · rw [here, there]
    exact .some (.intro template alike)

/-- Fresh rounds on graphs with the same entries agree. -/
theorem Memory.agree_freshRound : RoundState.Agree settings.lookup first second := by
  have failures := failures_freshRound permuted ends otherEnds
  refine ⟨outputs_freshRound_eq permuted ends otherEnds,
    created_freshRound_eq permuted ends otherEnds,
    generated_freshRound_perm permuted ends otherEnds, ?_, failures, ?_, ?_⟩
  · apply failures.map_perm
    intro first second alike
    cases alike
    rfl
  · rw [(reports_freshRound ends).diagnostics, (reports_freshRound otherEnds).diagnostics]
    exact alikeInSomeOrder_flatMap (Graph.annotatedWith_of_perm permuted settings.trigger)
      fun template => Graph.messages_sameButHint permuted settings template
  · obtain ⟨_, _, orderly⟩ := orderly_freshRound ends
    obtain ⟨_, _, otherOrderly⟩ := orderly_freshRound otherEnds
    exact orderly.unclaimed.trans otherOrderly.unclaimed.symm

end Ended

end Permuted

/-- Documents that are rearrangements of each other are indexed together, and processors agree
on them whatever their settings are: either both rounds have an end and come to the same, as
they do if the searches for the templates of one of them end, or neither round has an end. -/
theorem Processor.agree_of_rearranged {document other : Document}
    (rearranged : Rearranged document.packages other.packages) {graph : Graph}
    (indexed : Graph.ofDocument document = .ok graph) :
    ∃ second, Graph.ofDocument other = .ok second ∧ ∀ processor : Processor,
      ((∀ template ∈ graph.annotatedWith processor.settings.trigger,
          graph.SearchesEnd template) →
        ∃ ended final otherEnded otherFinal,
          processor.process graph Memory.filer {} = some (ended, final) ∧
            processor.process second Memory.filer {} = some (otherEnded, otherFinal) ∧
            final.Agree processor.settings.lookup otherFinal) ∧
      ((¬∀ template ∈ graph.annotatedWith processor.settings.trigger,
          graph.SearchesEnd template) →
        processor.process graph Memory.filer {} = none ∧
          processor.process second Memory.filer {} = none) := by
  obtain ⟨second, otherIndexed, permuted⟩ := Graph.ofDocument_of_rearranged rearranged indexed
  refine ⟨second, otherIndexed, ?_⟩
  intro processor
  have together := Graph.searchesEnd_annotatedWith_of_perm permuted processor.settings.trigger
  refine ⟨fun searches => ?_, fun endless => ?_⟩
  · obtain ⟨ended, final, ends⟩ := exists_process processor searches Memory.filer {}
    obtain ⟨otherEnded, otherFinal, otherEnds⟩ :=
      exists_process processor (together.mp searches) Memory.filer {}
    exact ⟨ended, final, otherEnded, otherFinal, ends, otherEnds, Memory.agree_freshRound permuted
      (freshRound_of_process ends) (freshRound_of_process otherEnds)⟩
  · rw [process_eq_none_iff, process_eq_none_iff, ← together]
    exact ⟨endless, endless⟩

/-- The endless template after the other one. -/
def Document.endlessLater : Document where
  packages := [⟨"app", [Graph.idleTemplate, Graph.endlessTemplate, Graph.nesting]⟩]

/-- There are no two rounds on the documents that could agree. -/
theorem Processor.agree_of_rearranged_endless :
    Rearranged Graph.endlessDocument.packages Document.endlessLater.packages ∧
      Graph.ofDocument Graph.endlessDocument = .ok Graph.endless ∧
      ¬∃ second ended final otherEnded otherFinal,
        Graph.ofDocument Document.endlessLater = .ok second ∧
          process { settings := {} } Graph.endless Memory.filer {} = some (ended, final) ∧
          process { settings := {} } second Memory.filer {} = some (otherEnded, otherFinal) ∧
          final.Agree .lenient otherFinal := by
  refine ⟨?_, Graph.ofDocument_endless, ?_⟩
  · have turned : [Graph.endlessTemplate, Graph.nesting, Graph.idleTemplate].Perm
        [Graph.idleTemplate, Graph.endlessTemplate, Graph.nesting] :=
      List.perm_append_singleton _ [_, _]
    have permuted : Rearranged ([] ++ ⟨"app", _⟩ :: []) ([] ++ ⟨"app", _⟩ :: []) :=
      .declarations turned
    exact permuted
  · rintro ⟨second, ended, final, otherEnded, otherFinal, -, ends, -⟩
    rw [process_endlessTemplate] at ends
    cases ends

/-- A template with a member that names one of two sources, and one whose member names none. -/
def Graph.templatesOfSources : List Declaration := [
  { name := "Good"
    kind := .interfaceType
    annotations := ["aptgen.annotation.Sample"]
    members := [{ name := "Source1", returnType := Library.listOfString }] },
  { name := "Bad"
    kind := .interfaceType
    annotations := ["aptgen.annotation.Sample"]
    members := [{ name := "Source", returnType := Library.listOfString }] }]

def Graph.firstSource : Declaration := { name := "Source1", members := [{ name := "x" }] }

def Graph.secondSource : Declaration := { name := "Source2" }

/-- All declarations in one package. -/
def Document.gathered : Document where
  packages := [⟨"app", Graph.templatesOfSources ++ [Graph.firstSource, Graph.secondSource]⟩]

/-- The same declarations, the package in two pieces. -/
def Document.scattered : Document where
  packages := [⟨"app", [Graph.secondSource, Graph.firstSource]⟩, ⟨"app", Graph.templatesOfSources⟩]

theorem Document.rearranged_gathered : Rearranged gathered.packages scattered.packages := by
  have turned : (Graph.templatesOfSources ++ [Graph.firstSource, Graph.secondSource]).Perm
      ([Graph.secondSource, Graph.firstSource] ++ Graph.templatesOfSources) :=
    List.perm_append_comm.trans ((List.Perm.swap _ _ []).append_right _)
  have permuted : Rearranged ([] ++ ⟨"app", _⟩ :: []) ([] ++ ⟨"app", _⟩ :: []) :=
    .declarations turned
  have split : Rearranged
      ([] ++ ⟨"app", [Graph.secondSource, Graph.firstSource] ++ Graph.templatesOfSources⟩ :: [])
      ([] ++ scattered.packages) := .split
  exact permuted.trans split

def Graph.gathered : Graph := ⟨entriesIn Document.gathered, by decide⟩

def Graph.scattered : Graph := ⟨entriesIn Document.scattered, by decide⟩

theorem Graph.ofDocument_gathered : ofDocument Document.gathered = .ok gathered :=
  ofDocument_eq_ok_iff.mpr ⟨by decide, rfl⟩

theorem Graph.ofDocument_scattered : ofDocument Document.scattered = .ok scattered :=
  ofDocument_eq_ok_iff.mpr ⟨by decide, rfl⟩

/-- One output is the same in both, and the template without its source fails in both. -/
theorem Processor.agree_of_rearranged_gathered :
    Rearranged Document.gathered.packages Document.scattered.packages ∧
      Graph.ofDocument Document.gathered = .ok Graph.gathered ∧
      (∃ ended final otherEnded otherFinal,
        process { settings := { lookup := .strict } } Graph.gathered Memory.filer {} =
            some (ended, final) ∧
          process { settings := { lookup := .strict } } Graph.scattered Memory.filer {} =
            some (otherEnded, otherFinal) ∧
          final.Agree .strict otherFinal) ∧
      [Graph.gathered, Graph.scattered].map (fun graph =>
          (process { settings := { lookup := .strict } } graph Memory.filer {}).map fun round =>
            (round.2.sink.outputs.names,
              round.2.report.failures.map TemplateFailure.template)) =
        [some (["app.Good_Impl"], ["app.Bad"]), some (["app.Good_Impl"], ["app.Bad"])] := by
  refine ⟨Document.rearranged_gathered, Graph.ofDocument_gathered, ?_, by decide +kernel⟩
  obtain ⟨second, indexed, agree⟩ :=
    agree_of_rearranged Document.rearranged_gathered Graph.ofDocument_gathered
  rw [Graph.ofDocument_scattered, Except.ok.injEq] at indexed
  subst indexed
  exact (agree { settings := { lookup := .strict } }).1 (by decide +kernel)

end Stencil
