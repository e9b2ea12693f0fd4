import Stencil.Proofs.Round.Outcomes

/-!
# Rounds one after the other

A processor runs round after round on graphs of any kind, and the filer in memory is kept
throughout.  The names that were created and the outputs that were committed only grow, and
no output changes after it was committed.  A round treats the names that were created before
it as faults of the filer, each on its own; for all other names it does what it would do with
a filer that is fresh.
-/

namespace Stencil

variable {σ ω : Type}

namespace Memory

/-- Every name with an output was created. -/
def Sound (memory : Memory) : Prop :=
  ∀ name, (memory.outputs.get? name).isSome → name ∈ memory.created

/-- Later states have all that earlier ones have, and nothing of it is changed. -/
structure Extends (before after : Memory) : Prop where
  created : ∀ name ∈ before.created, name ∈ after.created
  outputs : ∀ name output, before.outputs.get? name = some output →
    after.outputs.get? name = some output

theorem Extends.refl (memory : Memory) : memory.Extends memory :=
  ⟨fun _ member => member, fun _ _ found => found⟩

theorem Extends.trans {first second third : Memory} (former : first.Extends second)
    (latter : second.Extends third) : first.Extends third where
  created name member := latter.created name (former.created name member)
  outputs name output found := latter.outputs name output (former.outputs name output found)

/-- What comes of an output in memory: a name that was created before is refused, and changes
nothing; every other is taken in. -/
theorem emit_cases (generated : GeneratedUnit) (before : Memory) :
    (generated.qualifiedName ∈ before.created ∧
      filer.emit generated before = (.error (.recreated generated.qualifiedName), before)) ∨
    (generated.qualifiedName ∉ before.created ∧
      filer.emit generated before = (.ok (), {
        created := before.created.insert generated.qualifiedName
        outputs := before.outputs.insert generated.qualifiedName (entryOf generated) })) := by
  by_cases created : generated.qualifiedName ∈ before.created
  · exact .inl ⟨created, emit_of_created (NameSet.contains_iff.mpr created)⟩
  · refine .inr ⟨created, emit_of_ready ?_⟩
    apply Bool.eq_false_iff.mpr
    intro contained
    exact created (NameSet.contains_iff.mp contained)

/-- One step of the history: an output that is handed in keeps all the outputs there are. -/
theorem emit_extends {before : Memory} (sound : before.Sound) (generated : GeneratedUnit) :
    before.Extends (filer.emit generated before).2 ∧ (filer.emit generated before).2.Sound := by
  rcases emit_cases generated before with ⟨-, ends⟩ | ⟨fresh, ends⟩
  · rw [ends]
    exact ⟨.refl before, sound⟩
  · rw [ends]
    refine ⟨⟨?_, ?_⟩, ?_⟩
    · intro name member
      exact NameSet.mem_insert.mpr (.inr member)
    · intro name output found
      have different : name ≠ generated.qualifiedName := by
        rintro rfl
        exact fresh (sound _ (by rw [found]; rfl))
      rw [NameMap.get?_insert, if_neg different, found]
    · intro name has
      rw [NameMap.get?_insert] at has
      apply NameSet.mem_insert.mpr
      by_cases same : name = generated.qualifiedName
      · exact .inl same
      · rw [if_neg same] at has
        exact .inr (sound name has)

/-- The fault of a name in a memory where some names are taken. -/
def faultOf (taken : NameSet) (name : QualifiedName) : Option FileError :=
  if taken.contains name then some (.recreated name) else none

/-- A memory in use answers for every output on its own: it refuses the names that it has. -/
theorem filer_independent_of_taken (taken : NameSet) :
    filer.Independent (fun memory name => name ∈ memory.created ↔ name ∈ taken)
      (faultOf taken) where
  answers := by
    intro generated before same
    unfold faultOf
    rcases emit_cases generated before with ⟨created, ends⟩ | ⟨fresh, ends⟩
    · rw [ends, if_pos (NameSet.contains_iff.mpr (same.mp created))]
    · rw [ends, if_neg fun taken => fresh (same.mpr (NameSet.contains_iff.mp taken))]
  others := by
    intro generated before name different _ same
    rcases emit_cases generated before with ⟨-, ends⟩ | ⟨-, ends⟩
    · rw [ends]
      exact same
    · rw [ends, NameSet.mem_insert]
      constructor
      · rintro (equal | member)
        · exact absurd equal different
        · exact same.mp member
      · exact fun member => .inr (same.mpr member)

end Memory

section Turns

variable {settings : Settings} {graph : Graph}

theorem Turn.Runs.extends {turn : Turn Memory} (runs : turn.Runs settings graph Memory.filer)
    (sound : turn.before.Sound) : turn.before.Extends turn.after ∧ turn.after.Sound := by
  cases runs with
  | ungenerated failed => exact ⟨.refl _, sound⟩
  | @refused _ generated _ _ _ _ refuses =>
    have step := Memory.emit_extends sound generated
    rw [refuses.emit_eq] at step
    exact step
  | @emitted _ generated _ _ _ emits =>
    have step := Memory.emit_extends sound generated
    rw [emits.emit_eq] at step
    exact step

/-- A turn whose output has a name that was created before leaves the memory as it is. -/
theorem Turn.Runs.unchanged_of_created {turn : Turn Memory}
    (runs : turn.Runs settings graph Memory.filer) {made : GeneratedUnit}
    (generated : graph.generate turn.template settings = some (.ok made))
    (created : made.qualifiedName ∈ turn.before.created) :
    turn.after = turn.before ∧
      turn.result = .error (.notWritten made.qualifiedName (.recreated made.qualifiedName)) := by
  have refusal := Memory.emit_of_created (NameSet.contains_iff.mpr created)
  cases runs with
  | ungenerated failed =>
    rw [failed] at generated
    cases generated
  | refused own refuses =>
    rw [own] at generated
    cases generated
    rw [refuses.emit_eq, Prod.mk.injEq, Except.error.injEq] at refusal
    obtain ⟨rfl, same⟩ := refusal
    exact ⟨same, rfl⟩
  | emitted own emits =>
    rw [own] at generated
    cases generated
    rw [emits.emit_eq] at refusal
    cases refusal

/-- The states of the memory along some turns. -/
def memoriesOf (start : Memory) (turns : List (Turn Memory)) : List Memory :=
  start :: turns.map Turn.after

theorem Linked.mem_memoriesOf {start final : Memory} {turns : List (Turn Memory)}
    (links : Linked start turns final) : final ∈ memoriesOf start turns := by
  induction links with
  | nil => exact List.mem_cons_self
  | cons starts _ ih => exact List.mem_cons_of_mem _ ih

theorem Linked.extends {start final : Memory} {turns : List (Turn Memory)}
    (links : Linked start turns final)
    (runs : ∀ turn ∈ turns, turn.Runs settings graph Memory.filer) (sound : start.Sound) :
    (memoriesOf start turns).Pairwise Memory.Extends ∧
      (∀ state ∈ memoriesOf start turns, state.Sound ∧ state.Extends final) ∧
      ∀ turn ∈ turns, start.Extends turn.before := by
  induction links with
  | nil =>
    refine ⟨List.pairwise_singleton _ _, ?_, fun turn absent => absurd absent List.not_mem_nil⟩
    intro state member
    rw [List.mem_singleton.mp member]
    exact ⟨sound, .refl _⟩
  | @cons start turn rest final starts links ih =>
    subst starts
    obtain ⟨grows, soundAfter⟩ := (runs turn List.mem_cons_self).extends sound
    obtain ⟨pairwise, states, befores⟩ :=
      ih (fun other member => runs other (List.mem_cons_of_mem _ member)) soundAfter
    refine ⟨List.pairwise_cons.mpr ⟨?_, pairwise⟩, ?_, ?_⟩
    · intro state member
      rcases List.mem_cons.mp member with rfl | later
      · exact grows
      · exact grows.trans ((List.pairwise_cons.mp pairwise).1 state later)
    · intro state member
      rcases List.mem_cons.mp member with rfl | later
      · exact ⟨sound, grows.trans (states _ List.mem_cons_self).2⟩
      · exact states state later
    · intro other member
      rcases List.mem_cons.mp member with rfl | later
      · exact .refl _
      · exact grows.trans (befores other later)

end Turns

/-- The round of a graph with a memory that is fresh. -/
def Memory.freshRound (settings : Settings) (graph : Graph) : Option (RoundState Memory) :=
  (({ settings } : Processor).process graph Memory.filer {}).map Prod.snd

/-- What a round does with a memory that is in use, and what of it is as with a fresh one. -/
structure Memory.Resumes (settings : Settings) (graph : Graph) (before : Memory)
    (final : RoundState Memory) : Prop where
  /-- The memory grows turn by turn, and not in the turn of a name that was created before. -/
  grows : ∃ turns, TurnByTurn settings graph Memory.filer (graph.annotatedWith settings.trigger)
      { sink := before } final turns ∧
    (memoriesOf before turns).Pairwise Memory.Extends ∧
    (∀ state ∈ memoriesOf before turns, state.Sound) ∧
    ∀ turn ∈ turns, ∀ made, graph.generate turn.template settings = some (.ok made) →
      made.qualifiedName ∈ before.created → turn.after = turn.before
  /-- What is kept in the end are the outputs of the round and those from before. -/
  outputs : ∀ name, final.sink.outputs.get? name =
    ((final.report.generated.find? fun made => decide (made.qualifiedName = name)).map
      Memory.entryOf).or (before.outputs.get? name)
  /-- The names from before are faults of the filer, and there are no others. -/
  reports : Reports settings graph (graph.outcome settings (Memory.faultOf before.created)) final
  /-- A template whose output has a name from before fails with that, and the output of
  this name stays as it was. -/
  refused : ∀ template ∈ graph.annotatedWith settings.trigger, ∀ made,
    graph.generate template settings = some (.ok made) → made.qualifiedName ∈ before.created →
    ⟨template, (GenerationError.notWritten made.qualifiedName
        (.recreated made.qualifiedName)).message⟩ ∈ final.report.failures ∧
      final.sink.outputs.get? made.qualifiedName = before.outputs.get? made.qualifiedName
  /-- What is generated is what a fresh round generates, without the names from before, and
  it is kept as a fresh round keeps it. -/
  fresh : ∃ fresh, Memory.freshRound settings graph = some fresh ∧
    final.report.generated = (fresh.report.generated.filter fun made =>
      !before.created.contains made.qualifiedName) ∧
    ∀ made ∈ final.report.generated, final.sink.outputs.get? made.qualifiedName =
      fresh.sink.outputs.get? made.qualifiedName
  once : (final.report.generated.map GeneratedUnit.qualifiedName).Nodup

namespace Memory

variable {settings : Settings} {graph : Graph} {before : Memory} {final : RoundState Memory}

/-- A fresh memory refuses nothing. -/
theorem reports_freshRound {fresh : RoundState Memory}
    (ends : freshRound settings graph = some fresh) :
    Reports settings graph (graph.outcome settings fun _ => none) fresh := by
  obtain ⟨⟨ended, final⟩, process, rfl⟩ := Option.map_eq_some_iff.mp ends
  obtain ⟨turns, explained⟩ := Processor.process_turns process
  apply explained.reports
  exact explained.result_eq filer_independent fun _ _ _ => rfl

/-- With some names taken, a round generates what it generates without, but for these. -/
theorem outcome_faultOf (taken : NameSet) (template : QualifiedName) :
    (graph.outcome settings (faultOf taken) template).bind Except.toOption =
      ((graph.outcome settings (fun _ => none) template).bind Except.toOption).filter fun made =>
        !taken.contains made.qualifiedName := by
  unfold Graph.outcome faultOf
  cases graph.generate template settings with
  | none => rfl
  | some result =>
    cases result with
    | error error => rfl
    | ok made =>
      cases contained : taken.contains made.qualifiedName with
      | true => simp [Except.toOption, Option.filter, contained]
      | false => simp [Except.toOption, Option.filter, contained]

theorem outcome_of_taken {taken : NameSet} {template : QualifiedName} {made : GeneratedUnit}
    (generated : graph.generate template settings = some (.ok made))
    (member : made.qualifiedName ∈ taken) :
    graph.outcome settings (faultOf taken) template =
      some (.error (.notWritten made.qualifiedName (.recreated made.qualifiedName))) := by
  unfold Graph.outcome faultOf
  simp only [generated, NameSet.contains_iff.mpr member, if_true, Option.map_some]

theorem not_mem_of_mem_filter {taken : NameSet} {generated : List GeneratedUnit}
    {made : GeneratedUnit}
    (member : made ∈ generated.filter fun made => !taken.contains made.qualifiedName) :
    made.qualifiedName ∉ taken := by
  have kept := (List.mem_filter.mp member).2
  intro taken
  rw [NameSet.contains_iff.mpr taken] at kept
  cases kept

section Reports

variable {taken : NameSet}
  (reports : Reports settings graph (graph.outcome settings (faultOf taken)) final)

include reports

/-- What is generated with some names taken is what a fresh round generates, but for these. -/
theorem generated_of_reports {fresh : RoundState Memory}
    (ends : freshRound settings graph = some fresh) : final.report.generated =
      fresh.report.generated.filter fun made => !taken.contains made.qualifiedName := by
  rw [reports.generated, (reports_freshRound ends).generated, List.filter_filterMap]
  apply List.filterMap_congr
  intro template _
  exact outcome_faultOf taken template

theorem mem_failures_of_taken {template : QualifiedName}
    (member : template ∈ graph.annotatedWith settings.trigger) {made : GeneratedUnit}
    (own : graph.generate template settings = some (.ok made)) (created : made.qualifiedName ∈ taken) :
    ⟨template, (GenerationError.notWritten made.qualifiedName
      (.recreated made.qualifiedName)).message⟩ ∈ final.report.failures := by
  rw [reports.failures]
  apply List.mem_filterMap.mpr
  exact ⟨template, member, by rw [outcome_of_taken own created]; rfl⟩

end Reports

theorem get?_of_generated {shownBefore : Option MemoryOutput} {name : QualifiedName}
    {generated : List GeneratedUnit} (absent : ∀ made ∈ generated, made.qualifiedName ≠ name) :
    ((generated.find? fun made => decide (made.qualifiedName = name)).map entryOf).or shownBefore =
      shownBefore := by
  rw [List.find?_eq_none.mpr fun made member => by simpa using absent made member]
  rfl

end Memory

namespace Processor

/-- What becomes of a round depends on the settings of the processor alone. -/
theorem map_snd_process (processor : Processor) (graph : Graph) (filer : Filer σ ω) (sink : σ) :
    (processor.process graph filer sink).map Prod.snd =
      (graph.annotatedWith processor.settings.trigger).foldlM
        (RoundState.handle processor.settings graph filer) { sink } := by
  rw [process_eq, Option.map_map]
  exact Option.map_id'

theorem exists_idle_process {processor ended : Processor} {graph : Graph} {filer : Filer σ ω}
    {sink : σ} {final : RoundState σ}
    (ends : processor.process graph filer sink = some (ended, final)) : ∃ again,
      ({ settings := processor.settings } : Processor).process graph filer sink =
        some (again, final) := by
  have same := (map_snd_process { settings := processor.settings } graph filer sink).trans
    ((processor.map_snd_process graph filer sink).symm.trans (congrArg (Option.map _) ends))
  obtain ⟨⟨again, _⟩, others, rfl⟩ := Option.map_eq_some_iff.mp same
  exact ⟨again, others⟩

theorem freshRound_of_process {processor ended : Processor} {graph : Graph}
    {final : RoundState Memory}
    (ends : processor.process graph Memory.filer {} = some (ended, final)) :
    Memory.freshRound processor.settings graph = some final := by
  obtain ⟨again, idleEnds⟩ := exists_idle_process ends
  exact congrArg (Option.map Prod.snd) idleEnds

/-- Where a round ends, one with a fresh memory does. -/
theorem exists_freshRound {settings : Settings} {ended : Processor} {graph : Graph}
    {filer : Filer σ ω} {sink : σ} {final : RoundState σ}
    (ends : ({ settings } : Processor).process graph filer sink = some (ended, final)) :
    ∃ fresh, Memory.freshRound settings graph = some fresh ∧ ∃ again turns,
      Orderly { settings } graph Memory.filer {} again fresh turns := by
  obtain ⟨again, fresh, freshEnds⟩ :=
    exists_process { settings } (searchesEnd_of_process ends) Memory.filer {}
  exact ⟨fresh, freshRound_of_process freshEnds, again, exists_orderly rfl freshEnds⟩

/-- One round of a history: whatever the memory holds, as long as its outputs were created. -/
theorem resumes_of_process {processor ended : Processor} {graph : Graph} {before : Memory}
    {final : RoundState Memory} (sound : before.Sound)
    (ends : processor.process graph Memory.filer before = some (ended, final)) :
    Memory.Resumes processor.settings graph before final := by
  obtain ⟨_, idleEnds⟩ := exists_idle_process ends
  obtain ⟨turns, orderly⟩ := exists_orderly rfl idleEnds
  obtain ⟨fresh, freshRound, _, _, freshOrderly⟩ := exists_freshRound idleEnds
  have explained := orderly.turnByTurn
  have reports : Reports processor.settings graph
      (graph.outcome processor.settings (Memory.faultOf before.created)) final := by
    apply explained.reports
    exact explained.result_eq (Memory.filer_independent_of_taken before.created)
      fun _ _ _ => Iff.rfl
  have outputs := orderly.committed Memory.filer_records
  have generated := Memory.generated_of_reports reports freshRound
  have unused : ∀ made ∈ final.report.generated, made.qualifiedName ∉ before.created := by
    intro made member
    rw [generated] at member
    exact Memory.not_mem_of_mem_filter member
  constructor
  case reports => exact reports
  case outputs => exact outputs
  case once => exact orderly.qualifiedNames_nodup
  case grows =>
    obtain ⟨pairwise, states, befores⟩ := explained.linked.extends explained.runs sound
    refine ⟨turns, explained, pairwise, fun state member => (states state member).1, ?_⟩
    intro turn member made own taken
    exact ((explained.runs turn member).unchanged_of_created own
      ((befores turn member).created _ taken)).1
  case refused =>
    intro template member made own taken
    refine ⟨Memory.mem_failures_of_taken reports member own taken,
      (outputs made.qualifiedName).trans (Memory.get?_of_generated ?_)⟩
    intro other present same
    exact unused other present (same ▸ taken)
  case fresh =>
    refine ⟨fresh, freshRound, generated, fun made member => ?_⟩
    have first := orderly.shown_of_mem Memory.filer_records member
    rw [generated] at member
    exact first.trans
      (freshOrderly.shown_of_mem Memory.filer_records (List.mem_filter.mp member).1).symm

end Processor

/-- A round among others: its graph, the filer before it, and what became of it. -/
structure PastRound (σ : Type) where
  graph : Graph
  before : σ
  final : RoundState σ

/-- The names that were committed in a round. -/
def PastRound.committed (round : PastRound σ) : List QualifiedName :=
  round.final.report.generated.map GeneratedUnit.qualifiedName

/-- The rounds of a processor on some graphs, each with the filer that the last one left.
There is no history if one of the rounds has no end. -/
def Processor.history (processor : Processor) (filer : Filer σ ω) (sink : σ) :
    List Graph → Option (List (PastRound σ))
  | [] => some []
  | graph :: rest => do
    let (next, final) ← processor.process graph filer sink
    let later ← next.history filer final.sink rest
    return ⟨graph, sink, final⟩ :: later

/-- A history comes about only if the searches for all templates end. -/
theorem Processor.searchesEnd_of_history {processor : Processor} {filer : Filer σ ω} {sink : σ}
    {graphs : List Graph} {rounds : List (PastRound σ)}
    (ended : processor.history filer sink graphs = some rounds) :
    ∀ graph ∈ graphs, ∀ template ∈ graph.annotatedWith processor.settings.trigger,
      graph.SearchesEnd template := by
  induction graphs generalizing processor sink rounds with
  | nil => exact fun _ absent => absurd absent List.not_mem_nil
  | cons graph rest ih =>
    obtain ⟨⟨next, final⟩, ends, ended⟩ := Option.bind_eq_some_iff.mp ended
    obtain ⟨later, others, -⟩ := Option.bind_eq_some_iff.mp ended
    refine List.forall_mem_cons.mpr ⟨?_, ?_⟩
    · exact searchesEnd_of_process ends
    · rw [← settings_of_process ends]
      exact ih others

namespace Memory

/-- The memory at the beginning of a history and after each of its rounds. -/
def statesOf (memory : Memory) (rounds : List (PastRound Memory)) : List Memory :=
  memory :: rounds.map fun round => round.final.sink

/-- What is committed in a history is final. -/
structure Final (settings : Settings) (memory : Memory) (rounds : List (PastRound Memory)) :
    Prop where
  /-- No output is changed or removed later. -/
  grows : (memory.statesOf rounds).Pairwise Extends
  sound : ∀ state ∈ memory.statesOf rounds, state.Sound
  /-- No name is committed twice, be it in one round or in different ones. -/
  once : (rounds.flatMap PastRound.committed).Nodup
  /-- No name is committed that was created before. -/
  unused : ∀ name ∈ rounds.flatMap PastRound.committed, name ∉ memory.created
  resumes : ∀ round ∈ rounds, Resumes settings round.graph round.before round.final

end Memory

section Resumes

variable {settings : Settings} {graph : Graph} {before : Memory} {final : RoundState Memory}

theorem Memory.Resumes.extends (resumes : Memory.Resumes settings graph before final) :
    before.Extends final.sink ∧ final.sink.Sound := by
  obtain ⟨turns, explained, -, sound, -⟩ := resumes.grows
  have soundBefore := sound before List.mem_cons_self
  obtain ⟨-, states, -⟩ := explained.linked.extends explained.runs soundBefore
  exact ⟨(states before List.mem_cons_self).2, sound _ explained.linked.mem_memoriesOf⟩

theorem Memory.Resumes.created_of_committed (resumes : Memory.Resumes settings graph before final)
    {made : GeneratedUnit} (member : made ∈ final.report.generated) :
    made.qualifiedName ∈ final.sink.created ∧ made.qualifiedName ∉ before.created := by
  constructor
  · apply resumes.extends.2
    rw [resumes.outputs]
    cases found : final.report.generated.find? fun other =>
      decide (other.qualifiedName = made.qualifiedName) with
    | none => simpa using List.find?_eq_none.mp found made member
    | some other => rfl
  · obtain ⟨fresh, -, generated, -⟩ := resumes.fresh
    rw [generated] at member
    exact not_mem_of_mem_filter member

end Resumes

/-- A history that goes on: the first round, and the history after it. -/
theorem Memory.Final.cons {settings : Settings} {memory : Memory} {round : PastRound Memory}
    {rest : List (PastRound Memory)}
    (first : Memory.Resumes settings round.graph memory round.final)
    (starts : round.before = memory) (sound : memory.Sound)
    (later : Memory.Final settings round.final.sink rest) :
    Memory.Final settings memory (round :: rest) := by
  obtain ⟨grows, -⟩ := first.extends
  constructor
  case grows =>
    refine List.pairwise_cons.mpr ⟨?_, later.grows⟩
    intro state member
    rcases List.mem_cons.mp member with rfl | member
    · exact grows
    · exact grows.trans ((List.pairwise_cons.mp later.grows).1 state member)
  case sound =>
    intro state member
    rcases List.mem_cons.mp member with rfl | member
    · exact sound
    · exact later.sound state member
  case once =>
    rw [List.flatMap_cons]
    refine List.nodup_append.mpr ⟨first.once, later.once, ?_⟩
    rintro name committed other again rfl
    obtain ⟨made, member, rfl⟩ := List.mem_map.mp committed
    exact later.unused _ again (first.created_of_committed member).1
  case unused =>
    intro name member
    rw [List.flatMap_cons] at member
    rcases List.mem_append.mp member with committed | again
    · obtain ⟨made, present, rfl⟩ := List.mem_map.mp committed
      exact (first.created_of_committed present).2
    · exact fun taken => later.unused name again (grows.created name taken)
  case resumes =>
    intro other member
    rcases List.mem_cons.mp member with rfl | member
    · rw [starts]
      exact first
    · exact later.resumes other member

/-- What is committed in memory stays, over any number of rounds whose searches end.  The
names that are there already may be of any kind, also those of attempts that came to
nothing. -/
theorem Processor.final_history (processor : Processor) {graphs : List Graph} {memory : Memory}
    (searches : ∀ graph ∈ graphs, ∀ template ∈ graph.annotatedWith processor.settings.trigger,
      graph.SearchesEnd template) (sound : memory.Sound) :
    ∃ rounds, processor.history Memory.filer memory graphs = some rounds ∧
      rounds.map PastRound.graph = graphs ∧
      Memory.Final processor.settings memory rounds := by
  induction graphs generalizing processor memory with
  | nil =>
    refine ⟨[], rfl, rfl, ?_⟩
    constructor
    · exact List.pairwise_singleton _ _
    · intro state member
      rw [List.mem_singleton.mp member]
      exact sound
    · exact List.nodup_nil
    · exact fun name absent => absurd absent List.not_mem_nil
    · exact fun round absent => absurd absent List.not_mem_nil
  | cons graph rest ih =>
    obtain ⟨own, others⟩ := List.forall_mem_cons.mp searches
    obtain ⟨ended, final, ends⟩ := exists_process processor own Memory.filer memory
    have first := resumes_of_process sound ends
    have settings := settings_of_process ends
    obtain ⟨rounds, later, order, finals⟩ := ih ended (settings ▸ others) first.extends.2
    refine ⟨⟨graph, memory, final⟩ :: rounds, ?_, ?_, .cons first rfl sound (settings ▸ finals)⟩
    · rw [history, ends]
      show Option.bind (ended.history Memory.filer final.sink rest) _ = _
      rw [later]
      rfl
    · rw [List.map_cons, order]

/-- The template that asks for nothing, alone. -/
def Graph.goodTemplate : Graph where
  entries := entriesOf false [⟨"app", [idleTemplate]⟩]
  distinct := by decide

/-- After a round that committed an output, no failure is reported for the same output in a
round that comes to a template without an end before it. -/
theorem Processor.final_history_endless :
    (∃ rounds ∈ history { settings := {} } Memory.filer {} [Graph.goodTemplate],
      rounds.flatMap PastRound.committed = ["app.Good_Impl"]) ∧
    (∃ result ∈ Graph.endless.generate "app.Good" {}, ∃ made ∈ result.toOption,
      made.qualifiedName = "app.Good_Impl") ∧
    "app.Good" ∈ Graph.endless.annotatedWith "aptgen.annotation.Sample" ∧
    ¬∃ rounds, history { settings := {} } Memory.filer {} [Graph.goodTemplate, Graph.endless] =
      some rounds := by
  refine ⟨by decide +kernel, Graph.generate_idleTemplate,
    Graph.annotatedWith_endless ▸ List.mem_cons_of_mem _ List.mem_cons_self, ?_⟩
  rintro ⟨rounds, ended⟩
  refine Graph.not_searchesEnd_endless (searchesEnd_of_history ended Graph.endless ?_ _ ?_)
  · exact List.mem_cons_of_mem _ List.mem_cons_self
  · exact Graph.annotatedWith_endless ▸ List.mem_cons_self

/-- `A` has lost its member, and the template `C` is new. -/
def Graph.revisedTemplates : Graph where
  entries := entriesOf false [{
    name := "app"
    declarations := [
      { name := "A"
        kind := .interfaceType
        annotations := ["aptgen.annotation.Sample"] },
      { name := "C"
        kind := .interfaceType
        annotations := ["aptgen.annotation.Sample"] }] }]
  distinct := by decide

/-- A memory in which the output of `B` was created, and not kept. -/
def Memory.attempted : Memory where
  created := NameSet.empty.insert "app.B_Impl"

theorem Memory.sound_attempted : Memory.attempted.Sound := by
  intro name has
  cases has

/-- The output of `A` stays as the first round made it; that of `B` is never made. -/
theorem Processor.final_history_revisedTemplates :
    (∀ graph ∈ [Graph.twoTemplates, Graph.revisedTemplates],
      ∀ template ∈ graph.annotatedWith "aptgen.annotation.Sample", graph.SearchesEnd template) ∧
    Memory.attempted.Sound ∧
      ∃ rounds, history { settings := {} } Memory.filer Memory.attempted
          [Graph.twoTemplates, Graph.revisedTemplates] = some rounds ∧
        Memory.Final {} Memory.attempted rounds ∧
        rounds.map (fun round => (round.committed, round.final.report.failures)) =
          [(["app.A_Impl"], [⟨"app.B",
              "Failed to write app.B_Impl: attempt to recreate a file for type app.B_Impl"⟩]),
            (["app.C_Impl"], [⟨"app.A",
              "Failed to write app.A_Impl: attempt to recreate a file for type app.A_Impl"⟩])] := by
  have searches : ∀ graph ∈ [Graph.twoTemplates, Graph.revisedTemplates],
      ∀ template ∈ graph.annotatedWith "aptgen.annotation.Sample",
        graph.SearchesEnd template :=
    List.forall_mem_cons.mpr ⟨Graph.searchesEnd_twoTemplates, by decide +kernel⟩
  obtain ⟨rounds, ends, -, finals⟩ :=
    final_history { settings := {} } searches Memory.sound_attempted
  have computed : (history { settings := {} } Memory.filer Memory.attempted
      [Graph.twoTemplates, Graph.revisedTemplates]).map (fun rounds =>
        rounds.map fun round => (round.committed, round.final.report.failures)) =
      some [(["app.A_Impl"], [⟨"app.B",
          "Failed to write app.B_Impl: attempt to recreate a file for type app.B_Impl"⟩]),
        (["app.C_Impl"], [⟨"app.A",
          "Failed to write app.A_Impl: attempt to recreate a file for type app.A_Impl"⟩])] := by
    decide +kernel
  rw [ends] at computed
  exact ⟨searches, Memory.sound_attempted, rounds, ends, finals, Option.some.inj computed⟩

end Stencil
