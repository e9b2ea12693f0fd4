import Stencil.Command.Status
import Stencil.Proofs.Command.History
import Stencil.Proofs.Manifest.Exactness
import Stencil.Proofs.Regeneration.CleanUp

/-!
# Nothing is out of date after a run

A run that gets to its end saves the record of its round.  Read back, and compared
with the graph that the run was given, this record tells of no change: every output
is up to date, and what is missing are the templates that failed.  This needs nothing
of the folder of outputs but that the manifest could be written there.
-/

namespace Stencil

open FileSystem

/-- What is reported right after a round on templates: of its outputs only that they
are up to date, and of the templates without one those that failed. -/
structure StatusReport.Fresh (report : StatusReport) (round : RoundReport)
    (templates : List QualifiedName) : Prop where
  outputs : ∀ name, name ∈ report.outputs.map OutputState.output ↔
    name ∈ round.generated.map GeneratedUnit.qualifiedName
  upToDate : ∀ state ∈ report.outputs, state.status = .upToDate
  missing : report.missing = round.failures.map TemplateFailure.template
  /-- Templates are missing in the order in which the round took them. -/
  missingInOrder : report.missing.Sublist templates
  needsRegeneration : report.needsRegeneration = true ↔ round.failures ≠ []

theorem Graph.CollisionFree.refl (graph : Graph) : graph.CollisionFree graph := by
  intro name entry other found otherFound _
  rw [found] at otherFound
  rw [Option.some.inj otherFound]

theorem GeneratedUnit.changes_self {graph : Graph} {settings : Settings} {made : GeneratedUnit}
    (generated : graph.generate made.template settings = some (.ok made)) :
    made.changes graph graph = [] := by
  have sources : made.provenance.names.filterMap (graph.changeOf? graph) = [] := by
    apply List.filterMap_eq_nil_iff.mpr
    intro source member
    obtain ⟨entry, found⟩ := Graph.entry?_of_mem_provenance generated member
    have declared : graph.declared? source = some (entry.package, entry.declaration) := by
      rw [Graph.declared?, found, Option.map_some]
    unfold Graph.changeOf?
    rw [declared]
    exact if_pos rfl
  have unresolved : made.unresolved.filter (fun name => (graph.entry? name).isSome) = [] := by
    apply List.filter_eq_nil_iff.mpr
    intro name member resolves
    obtain ⟨entry, found⟩ := Option.isSome_iff_exists.mp resolves
    have absent := Graph.lookup?_of_mem_unresolved generated member
    rw [Graph.lookup?, found] at absent
    cases absent
  unfold changes
  rw [if_pos rfl, sources, unresolved]
  rfl

theorem StatusReport.needsRegeneration_iff {report : StatusReport}
    (upToDate : ∀ state ∈ report.outputs, state.status = .upToDate) :
    report.needsRegeneration = true ↔ report.missing ≠ [] := by
  have current : report.outputs.any (fun state => decide (state.status ≠ .upToDate)) = false := by
    rw [List.any_eq_false]
    intro state member
    simp [upToDate state member]
  unfold needsRegeneration
  rw [current, Bool.or_false, Bool.not_eq_true', List.isEmpty_eq_false_iff]

namespace Manifest

/-- The record of a round, compared with the graph of the round. -/
theorem fresh_status_ofRound {settings : Settings} {graph : Graph} {root folder : Path}
    {disk : Disk} {ended : Processor} {final : RoundState Disk}
    {turns : List (Turn Disk)}
    (orderly : Processor.Orderly { settings } graph (Disk.filer root) disk ended final turns) :
    ((ofRound graph folder final.sink.outputs final.report).status graph settings.trigger).Fresh
      final.report (graph.annotatedWith settings.trigger) := by
  have kept : ∀ made ∈ final.report.generated,
      final.sink.outputs.get? made.qualifiedName = some (Disk.entryOf root made) :=
    fun made member => orderly.shown_of_mem (Disk.filer_records root) member
  have sound : ((ofRound graph folder final.sink.outputs final.report).status graph
      settings.trigger).Exact final.report.generated graph graph settings.trigger :=
    exact_status_ofRound orderly.qualifiedNames_nodup kept (Graph.CollisionFree.refl graph)
      fun made member => orderly.generate_of_mem member
  have upToDate : ∀ state ∈ ((ofRound graph folder final.sink.outputs final.report).status graph
      settings.trigger).outputs, state.status = .upToDate := by
    intro state reported
    obtain ⟨made, member, told⟩ := sound.states state reported
    have marked : made.template ∈ graph.annotatedWith settings.trigger :=
      orderly.generatedInOrder.subset (List.mem_map_of_mem member)
    exact told.upToDate.mpr ⟨Graph.mem_annotatedWith_iff.mp marked,
      GeneratedUnit.changes_self (orderly.generate_of_mem member)⟩
  have missing := sound.missing.trans orderly.failures_eq.symm
  refine ⟨?_, upToDate, missing, missing ▸ orderly.failuresInOrder, ?_⟩
  · intro name
    constructor
    · intro reported
      obtain ⟨state, present, rfl⟩ := List.mem_map.mp reported
      obtain ⟨made, member, told⟩ := sound.states state present
      rw [told.output]
      exact List.mem_map_of_mem member
    · intro generated
      obtain ⟨made, member, rfl⟩ := List.mem_map.mp generated
      obtain ⟨state, present, told⟩ := sound.outputs made member
      rw [← told.output]
      exact List.mem_map_of_mem present
  · rw [StatusReport.needsRegeneration_iff upToDate, missing, ne_eq, List.map_eq_nil_iff]

theorem load_of_save {manifest : Manifest} (current : manifest.version = currentVersion)
    {folder : Path} {before after : FileSystem}
    (saves : manifest.save folder before = (.ok (), after)) :
    load after folder = .ok (some manifest) :=
  load_of_find current (find_of_save saves)

end Manifest

/-- The record that a run leaves tells of no change. -/
theorem fresh_status_regenerate {settings : Settings} {graph : Graph} {folder : Path}
    {previous : Manifest} {files : FileSystem} {done : Regeneration}
    (ran : regenerate settings graph folder previous files = some done) :
    (done.manifest.status graph settings.trigger).Fresh done.report
      (graph.annotatedWith settings.trigger) := by
  obtain ⟨ended, round, ends, rfl⟩ := regenerate_eq_some_iff.mp ran
  obtain ⟨turns, orderly⟩ := Processor.exists_orderly rfl ends
  exact Manifest.fresh_status_ofRound orderly

/-- The manifest that a run saves can be loaded again. -/
theorem load_of_regenerate {settings : Settings} {graph : Graph} {folder : Path}
    {previous : Manifest} {files : FileSystem} {done : Regeneration}
    (ran : regenerate settings graph folder previous files = some done)
    (complete : done.error = none) : Manifest.load done.files folder = .ok (some done.manifest) := by
  obtain ⟨ended, round, -, rfl⟩ := regenerate_eq_some_iff.mp ran
  exact Manifest.load_of_save (Manifest.version_foldl _ _) (save_of_conclude complete)

namespace Command

/-- What is shown of a folder to a command that is given what a run was given. -/
theorem status_of_repeats {again : Invocation} {files : FileSystem} {loaded : Loaded}
    (repeats : Repeats again files loaded) {manifest : Manifest}
    (read : Manifest.load files loaded.folder = .ok (some manifest)) :
    status again files =
      { lines :=
          if again.json then
            [(manifest.status loaded.graph loaded.settings.trigger).toValue.toPretty]
          else
            statusLines again.styled loaded.folder
              (manifest.status loaded.graph loaded.settings.trigger)
        files } := by
  obtain ⟨configuration, configured, settings, folder⟩ := repeats.configured
  unfold status
  simp only [configured, repeats.graph, folder, read, settings, Option.getD_some]

/-- A run that gets to its end leaves its folder up to date.  The manifest that it
saved is loaded again, and compared with the graph of the run all its outputs are up
to date and the templates that failed are missing.  This is what is shown to a
command that is given what the run was given. -/
theorem generate_freshens {loaded : Loaded} {files : FileSystem} {done : Regeneration}
    (ran : loaded.regenerate files = some done) (complete : done.error = none) :
    ∃ manifest, Manifest.load done.files loaded.folder = .ok (some manifest) ∧
      (manifest.status loaded.graph loaded.settings.trigger).Fresh done.report
        (loaded.graph.annotatedWith loaded.settings.trigger) ∧
      ∀ run, load? run files = some loaded → ∃ outcome, generate run files = some outcome ∧
        outcome.files = done.files ∧
        ∀ again, Repeats again outcome.files loaded → status again outcome.files =
          { lines :=
              if again.json then
                [(manifest.status loaded.graph loaded.settings.trigger).toValue.toPretty]
              else
                statusLines again.styled loaded.folder
                  (manifest.status loaded.graph loaded.settings.trigger)
            files := outcome.files } := by
  have read := load_of_regenerate ran complete
  refine ⟨_, read, fresh_status_regenerate ran, fun run past => ?_⟩
  obtain ⟨outcome, ends, left⟩ := exists_generate past ran
  refine ⟨outcome, ends, left, fun again repeats => ?_⟩
  rw [← left] at read
  exact status_of_repeats repeats read

/-- A run on two templates, of which one names a source that is not there. -/
def strictRun : Loaded where
  settings := { lookup := .strict }
  folder := ⟨"out"⟩
  graph := Graph.ofApp [{ bareTemplate "B" with
      members := [{ name := "M", returnType := Library.listOfString }] }, bareTemplate "A"]
    (by decide +kernel)
  previous := Manifest.empty

theorem regenerate_strictRun : ∃ done ∈ strictRun.regenerate {},
    done.error.isNone = true ∧
      done.report.generated.map GeneratedUnit.qualifiedName = ["app.A_Impl"] ∧
      done.report.failures.map TemplateFailure.template = ["app.B"] := by
  decide +kernel

/-- After the run one output is up to date and one template is missing, so the run
has to be repeated once the source is there. -/
theorem generate_freshens_strictRun :
    ∃ done manifest, strictRun.regenerate {} = some done ∧ done.error = none ∧
      Manifest.load done.files ⟨"out"⟩ = .ok (some manifest) ∧
      (∀ state ∈ (manifest.status strictRun.graph "aptgen.annotation.Sample").outputs,
        state.status = .upToDate) ∧
      "app.A_Impl" ∈ (manifest.status strictRun.graph "aptgen.annotation.Sample").outputs.map
        OutputState.output ∧
      (manifest.status strictRun.graph "aptgen.annotation.Sample").missing = ["app.B"] ∧
      (manifest.status strictRun.graph "aptgen.annotation.Sample").needsRegeneration = true := by
  obtain ⟨done, ran, complete, generated, failed⟩ := regenerate_strictRun
  have ended : done.error = none := Option.isNone_iff_eq_none.mp complete
  obtain ⟨manifest, read, fresh, -⟩ := generate_freshens ran ended
  refine ⟨done, manifest, ran, ended, read, fresh.upToDate, ?_, fresh.missing.trans failed, ?_⟩
  · apply (fresh.outputs _).mpr
    rw [generated]
    exact List.mem_cons_self
  · apply fresh.needsRegeneration.mpr
    intro none_failed
    rw [none_failed] at failed
    cases failed

end Command

end Stencil
