import Stencil.Proofs.Filer.Footprint
import Stencil.Proofs.Round

/-!
# What a round writes

A round changes files where the filer writes the outputs that it is handed, and nowhere
else, also if it has no end.  Whether that is below the folder depends on their names alone.  At the place of an
output lies, after the round, the text of the last output that was taken in there.
-/

namespace Stencil

open FileSystem

/-- The names of the outputs that a round hands to the filer. -/
def Graph.outputNames (graph : Graph) (settings : Settings) : List QualifiedName :=
  (graph.annotatedWith settings.trigger).filterMap fun template =>
    ((graph.generate template settings).bind Except.toOption).map GeneratedUnit.qualifiedName

/-- The last of some outputs whose place is a location. -/
def Disk.lastAt? (fs : FileSystem) (folder : Path) (generated : List GeneratedUnit)
    (location : Location) : Option GeneratedUnit :=
  generated.reverse.find? fun made =>
    decide (fs.placeOf (pathFor folder made.qualifiedName) = location)

namespace Disk

variable {fs : FileSystem} {folder : Path}

theorem lastAt?_singleton (made : GeneratedUnit) (location : Location) :
    lastAt? fs folder [made] location =
      if fs.placeOf (pathFor folder made.qualifiedName) = location then some made else none := by
  unfold lastAt?
  by_cases same : fs.placeOf (pathFor folder made.qualifiedName) = location
  · simp [same]
  · simp [same]

theorem lastAt?_append (first second : List GeneratedUnit) (location : Location) :
    lastAt? fs folder (first ++ second) location =
      (lastAt? fs folder second location).or (lastAt? fs folder first location) := by
  unfold lastAt?
  rw [List.reverse_append, List.find?_append]

theorem lastAt?_congr {after : FileSystem} (keeps : Keeps fs after)
    (generated : List GeneratedUnit) (location : Location) :
    lastAt? after folder generated location = lastAt? fs folder generated location := by
  unfold lastAt?
  simp only [keeps.placeOf]

end Disk

section Turns

variable {settings : Settings} {graph : Graph} {folder : Path} {places : List Location}

theorem Turn.Runs.changesOnly {turn : Turn Disk}
    (runs : turn.Runs settings graph (Disk.filer folder))
    (within : ∀ made, graph.generate turn.template settings = some (.ok made) →
      Disk.placesFor turn.before.files folder made.qualifiedName ⊆ places) :
    ChangesOnly places turn.before.files turn.after.files := by
  cases runs with
  | ungenerated failed => exact .refl _ _
  | refused made refuses =>
    apply (Disk.refuses_footprint refuses).mono
    exact List.Subset.trans (List.cons_subset_cons _ (List.nil_subset _)) (within _ made)
  | emitted made emits => exact (Disk.emits_footprint emits).1.mono (within _ made)

theorem Turn.Runs.keeps {turn : Turn Disk}
    (runs : turn.Runs settings graph (Disk.filer folder)) :
    Keeps turn.before.files turn.after.files := by
  cases runs with
  | ungenerated failed => exact .refl _
  | refused made refuses => exact (Disk.refuses_footprint refuses).keeps
  | emitted made emits => exact (Disk.emits_footprint emits).1.keeps

theorem Linked.changesOnly {start final : Disk} {turns : List (Turn Disk)}
    (links : Linked start turns final)
    (runs : ∀ turn ∈ turns, turn.Runs settings graph (Disk.filer folder))
    (within : ∀ turn ∈ turns, ∀ made, graph.generate turn.template settings = some (.ok made) →
      Disk.placesFor start.files folder made.qualifiedName ⊆ places) :
    ChangesOnly places start.files final.files := by
  induction links with
  | nil => exact .refl _ _
  | @cons state turn rest final starts links ih =>
    subst starts
    have first := (runs turn List.mem_cons_self).changesOnly (within turn List.mem_cons_self)
    have samePlaces (name : QualifiedName) : Disk.placesFor turn.after.files folder name =
        Disk.placesFor turn.before.files folder name :=
      List.map_congr_left fun path _ => first.keeps.placeOf path
    refine first.trans (ih (fun other member => runs other (List.mem_cons_of_mem _ member)) ?_)
    intro other member made generated
    rw [samePlaces]
    exact within other (List.mem_cons_of_mem _ member) made generated

/-- What a turn leaves at a place that is none of a temporary file: the text of its output,
if the place is that of its output, and what was there otherwise. -/
theorem Turn.Runs.fileAt?_after {turn : Turn Disk}
    (runs : turn.Runs settings graph (Disk.filer folder)) {location : Location} {ending : Char}
    (ends : EndsIn location ending) (lasting : ending ≠ 'p') :
    turn.after.files.fileAt? location =
      ((Disk.lastAt? turn.before.files folder turn.generated?.toList location).map fun made =>
        Text.octets made.text).or (turn.before.files.fileAt? location) := by
  have apart (name : QualifiedName) : location ≠
      turn.before.files.placeOf (Disk.temporaryFor (Disk.pathFor folder name)) :=
    ends.ne (Disk.endsIn_temporary _ _) lasting
  cases runs with
  | ungenerated failed => rfl
  | refused made refuses =>
    exact (Disk.refuses_footprint refuses).files location (by simpa using apart _)
  | @emitted _ made before _ generated emits =>
    obtain ⟨changes, content, -⟩ := Disk.emits_footprint emits
    show _ = ((Disk.lastAt? before.files folder [made] location).map _).or _
    rw [Disk.lastAt?_singleton]
    by_cases same : before.files.placeOf (Disk.pathFor folder made.qualifiedName) = location
    · rw [if_pos same, ← same]
      exact content
    · rw [if_neg same]
      apply changes.files
      simpa [Disk.placesFor, Disk.writesFor] using ⟨apart _, Ne.symm same⟩

theorem Linked.fileAt?_final {start final : Disk} {turns : List (Turn Disk)}
    (links : Linked start turns final)
    (runs : ∀ turn ∈ turns, turn.Runs settings graph (Disk.filer folder)) {location : Location}
    {ending : Char} (ends : EndsIn location ending) (lasting : ending ≠ 'p') :
    final.files.fileAt? location =
      ((Disk.lastAt? start.files folder (turns.filterMap Turn.generated?) location).map fun made =>
        Text.octets made.text).or (start.files.fileAt? location) := by
  induction links with
  | nil => rfl
  | @cons state turn rest final starts links ih =>
    subst starts
    have runsFirst := runs turn List.mem_cons_self
    have later := ih fun other member => runs other (List.mem_cons_of_mem _ member)
    have whole : (turn :: rest).filterMap Turn.generated? =
        turn.generated?.toList ++ rest.filterMap Turn.generated? := by
      cases given : turn.generated? with
      | none => rw [List.filterMap_cons_none given]; rfl
      | some made => rw [List.filterMap_cons_some given]; rfl
    rw [later, runsFirst.fileAt?_after ends lasting, Disk.lastAt?_congr runsFirst.keeps, whole,
      Disk.lastAt?_append, ← Option.or_assoc]
    congr 1
    cases Disk.lastAt? turn.before.files folder (rest.filterMap Turn.generated?) location with
    | none => rfl
    | some made => rfl

end Turns

namespace Processor

section Writes

variable {settings : Settings} {graph : Graph} {folder : Path} {files : FileSystem}
  {state : RoundState Disk}
  (passes : ({ settings } : Processor).Passes graph (Disk.filer folder) { files } state)
include passes

/-- A round changes the files that the filer writes for its outputs, and no others. -/
theorem changesOnly_of_passes :
    ChangesOnly ((graph.outputNames settings).flatMap (Disk.placesFor files folder)) files
      state.sink.files := by
  obtain ⟨templates, first, worked⟩ := passes
  obtain ⟨turns, explained⟩ := RoundState.foldlM_handle_turns worked
  apply explained.linked.changesOnly explained.runs
  intro turn member made generated
  have template : turn.template ∈ graph.annotatedWith settings.trigger :=
    first.subset (explained.order ▸ List.mem_map_of_mem member)
  have named : made.qualifiedName ∈ graph.outputNames settings := by
    refine List.mem_filterMap.mpr ⟨turn.template, template, ?_⟩
    rw [generated]
    rfl
  intro place inside
  exact List.mem_flatMap.mpr ⟨_, named, inside⟩

/-- The files that a round writes, however far it comes, are those of its outputs and their
temporary files.  They lie below the folder, whichever it is, exactly if the names of the
outputs are confined. -/
theorem process_writes :
    ChangesOnly ((graph.outputNames settings).flatMap (Disk.placesFor files folder)) files
        state.sink.files ∧
      (∀ name, IsConfined name ↔ ∀ folder, ∀ path ∈ Disk.writesFor folder name,
        ∃ names, path.Descends folder names) ∧
      ((∀ name ∈ graph.outputNames settings, IsConfined name) →
        ∀ location, state.sink.files.fileAt? location ≠ files.fileAt? location →
          ∃ names, names ≠ [] ∧ location = files.placeOf folder ++ names) := by
  have changes := changesOnly_of_passes passes
  refine ⟨changes, fun name => Disk.isConfined_iff, fun confined location different => ?_⟩
  have changed : location ∈ (graph.outputNames settings).flatMap (Disk.placesFor files folder) := by
    by_contra other
    exact different (changes.files location other)
  obtain ⟨name, named, place⟩ := List.mem_flatMap.mp changed
  obtain ⟨path, written, rfl⟩ := List.mem_map.mp place
  obtain ⟨names, descends⟩ := Disk.isConfined_iff.mp (confined name named) folder path written
  exact ⟨names, descends.some_name, placeOf_of_descends descends⟩

end Writes

end Processor

/-- Two templates whose names hold slashes. -/
def slashedDocument : Document where
  packages := [{
    name := "app"
    declarations := ["in/side", "/tmp/Outside"].map fun name =>
      { name, kind := .interfaceType, annotations := ["aptgen.annotation.Sample"] } }]

def Graph.slashed : Graph where
  entries := entriesOf false slashedDocument.packages ++
    libraryEntries ((entriesOf false slashedDocument.packages).map Entry.id)
  distinct := by decide +kernel

theorem placeOf_out : ({} : FileSystem).placeOf ⟨"out"⟩ = ["out"] := by decide +kernel

/-- The confined names of a graph have their files below the folder. -/
theorem Processor.process_writes_twoTemplates :
    (∀ name ∈ Graph.twoTemplates.outputNames {}, IsConfined name) ∧
      ∃ ended final, process { settings := {} } Graph.twoTemplates (Disk.filer ⟨"out"⟩)
          { files := {} } = some (ended, final) ∧
        ∀ location, final.sink.files.fileAt? location ≠ none →
          ∃ names, names ≠ [] ∧ location = ["out"] ++ names := by
  have confined : ∀ name ∈ Graph.twoTemplates.outputNames {}, IsConfined name := by
    decide +kernel
  obtain ⟨ended, final, ends⟩ := exists_process { settings := {} }
    Graph.searchesEnd_twoTemplates (Disk.filer ⟨"out"⟩) { files := {} }
  refine ⟨confined, ended, final, ends, fun location there => ?_⟩
  obtain ⟨-, -, below⟩ := process_writes (passes_of_process ends)
  rw [placeOf_out] at below
  have nothing : ({} : FileSystem).fileAt? location = none := by
    cases location with
    | nil => rfl
    | cons name rest => rfl
  exact below confined location (there.trans_eq nothing.symm)

/-- A name with a piece that starts with a slash has its file outside of the folder,
although the graph is one that is taken in. -/
theorem Processor.process_writes_slashed :
    Graph.ofDocument slashedDocument = .ok Graph.slashed ∧
      Graph.slashed.outputNames {} = ["app.in/side_Impl", "app./tmp/Outside_Impl"] ∧
      IsConfined "app.in/side_Impl" ∧ ¬IsConfined "app./tmp/Outside_Impl" ∧
      (process { settings := {} } Graph.slashed (Disk.filer ⟨"out"⟩) { files := {} }).map
          (fun round =>
            ((round.2.sink.files.fileAt? ["out", "app", "in", "side_Impl.java"]).isSome,
              (round.2.sink.files.fileAt? ["tmp", "Outside_Impl.java"]).isSome)) =
        some (true, true) ∧
      ¬∃ names, ["tmp", "Outside_Impl.java"] = ({} : FileSystem).placeOf ⟨"out"⟩ ++ names := by
  refine ⟨rfl, by decide +kernel, by decide +kernel, by decide +kernel, by decide +kernel, ?_⟩
  rintro ⟨names, same⟩
  rw [placeOf_out] at same
  exact absurd (List.head_eq_of_cons_eq same) (by decide)

end Stencil
