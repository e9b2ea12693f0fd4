import Stencil.Command.Generate
import Stencil.Proofs.Declaration.RoundTrip
import Stencil.Proofs.Regeneration

/-!
# A folder of outputs over many runs

A folder that was empty at first is filled by runs, one after the other.  The runs can
have different graphs, configurations and flags, and between them everything outside
the folder can change.  A run that gets past loading has an end if the searches for its
templates do.  The folder then mirrors it: its files are the manifest and the outputs of
the run, and no others.
-/

namespace Stencil

open FileSystem

namespace Command

/-- What a run works with once it is past loading. -/
structure Loaded where
  settings : Settings
  folder : Path
  graph : Graph
  previous : Manifest

/-- What a run loads, if it gets past loading. -/
def load? (run : Invocation) (files : FileSystem) : Option Loaded :=
  match Configuration.loadOrDefault files run.configuration with
  | .error _ => none
  | .ok configuration =>
    match Graph.load files run.graph with
    | .error _ => none
    | .ok graph =>
      let folder := configuration.outputPath run.configuration run.overrides
      match Manifest.load files folder with
      | .error _ => none
      | .ok previous =>
        some ⟨configuration.settingsFor run.overrides, folder, graph,
          previous.getD Manifest.empty⟩

/-- What a run does once it is past loading. -/
def Loaded.regenerate (loaded : Loaded) (files : FileSystem) : Option Regeneration :=
  Stencil.regenerate loaded.settings loaded.graph loaded.folder loaded.previous files

/-- Whether a run is given what an earlier one was given: the same settings and graph,
and the same folder. -/
structure Repeats (again : Invocation) (files : FileSystem) (loaded : Loaded) : Prop where
  configured : ∃ configuration,
    Configuration.loadOrDefault files again.configuration = .ok configuration ∧
      configuration.settingsFor again.overrides = loaded.settings ∧
      configuration.outputPath again.configuration again.overrides = loaded.folder
  graph : Graph.load files again.graph = .ok loaded.graph

/-- A run gets past loading with what it repeats and with the manifest that is there, or an
empty one. -/
theorem load?_eq_some_iff {run : Invocation} {files : FileSystem} {loaded : Loaded} :
    load? run files = some loaded ↔ Repeats run files loaded ∧
      ∃ previous, Manifest.load files loaded.folder = .ok previous ∧
        loaded.previous = previous.getD Manifest.empty := by
  constructor
  · intro past
    unfold load? at past
    cases configured : Configuration.loadOrDefault files run.configuration with
    | error error =>
      rw [configured] at past
      cases past
    | ok configuration =>
      cases read : Graph.load files run.graph with
      | error error =>
        simp only [configured, read] at past
        cases past
      | ok graph =>
        simp only [configured, read] at past
        cases recorded : Manifest.load files
            (configuration.outputPath run.configuration run.overrides) with
        | error error =>
          rw [recorded] at past
          cases past
        | ok previous =>
          rw [recorded] at past
          cases past
          exact ⟨⟨⟨configuration, configured, rfl, rfl⟩, read⟩, previous, recorded, rfl⟩
  · rintro ⟨⟨⟨configuration, configured, settings, folder⟩, graph⟩, previous, recorded, given⟩
    unfold load?
    simp only [configured, graph, folder, recorded, settings, ← given]

theorem load_congr {files after : FileSystem} {file : Path}
    (same : after.find file = files.find file) : Graph.load after file = Graph.load files file := by
  unfold Graph.load readText
  rw [same]

/-- A run that does not get past loading ends there, and changes nothing. -/
theorem generate_of_load?_none {run : Invocation} {files : FileSystem}
    (failed : load? run files = none) :
    ∃ outcome, generate run files = some outcome ∧ outcome.files = files ∧
      outcome.error.isSome = true := by
  unfold load? at failed
  unfold generate
  cases configured : Configuration.loadOrDefault files run.configuration with
  | error error => exact ⟨_, rfl, rfl, rfl⟩
  | ok configuration =>
    rw [configured] at failed
    cases read : Graph.load files run.graph with
    | error error => exact ⟨_, rfl, rfl, rfl⟩
    | ok graph =>
      simp only [read] at failed
      unfold generateGraph
      cases recorded : Manifest.load files
          (configuration.outputPath run.configuration run.overrides) with
      | error error =>
        simp only [recorded, Option.map_some]
        exact ⟨_, rfl, rfl, rfl⟩
      | ok previous =>
        rw [recorded] at failed
        cases failed

theorem files_regenerationOutcome (run : Invocation) (folder : Path)
    (regeneration : Regeneration) :
    (regenerationOutcome run folder regeneration).files = regeneration.files := by
  unfold regenerationOutcome
  cases regeneration.error with
  | none => rfl
  | some error => cases error <;> rfl

/-- A run past loading has an end exactly if what it does then has one. -/
theorem generate_of_load?_some {run : Invocation} {files : FileSystem} {loaded : Loaded}
    (past : load? run files = some loaded) :
    (generate run files).map Outcome.files =
        (loaded.regenerate files).map Regeneration.files ∧
      ∃ previous, Manifest.load files loaded.folder = .ok previous ∧
        loaded.previous = previous.getD Manifest.empty := by
  obtain ⟨⟨⟨configuration, configured, settings, folder⟩, graph⟩, previous, recorded, given⟩ :=
    load?_eq_some_iff.mp past
  refine ⟨?_, previous, recorded, given⟩
  unfold generate generateGraph
  simp only [configured, graph, folder, recorded, settings, Option.map_map]
  rw [Loaded.regenerate, given]
  apply Option.map_congr
  intro done _
  exact files_regenerationOutcome run loaded.folder done

theorem exists_generate {run : Invocation} {files : FileSystem} {loaded : Loaded}
    (past : load? run files = some loaded) {done : Regeneration}
    (ran : loaded.regenerate files = some done) :
    ∃ outcome, generate run files = some outcome ∧ outcome.files = done.files := by
  have same := (generate_of_load?_some past).1
  rw [ran] at same
  exact Option.map_eq_some_iff.mp same

theorem exists_regenerate_of_generate {run : Invocation} {files : FileSystem} {loaded : Loaded}
    (past : load? run files = some loaded) {outcome : Outcome}
    (ran : generate run files = some outcome) :
    ∃ done, loaded.regenerate files = some done ∧ done.files = outcome.files := by
  have same := (generate_of_load?_some past).1
  rw [ran] at same
  exact Option.map_eq_some_iff.mp same.symm

/-- Whether the searches for the templates of a run end. -/
def Loaded.SearchesEnd (loaded : Loaded) : Prop :=
  ∀ template ∈ loaded.graph.annotatedWith loaded.settings.trigger,
    loaded.graph.SearchesEnd template

instance (loaded : Loaded) : Decidable loaded.SearchesEnd :=
  inferInstanceAs (Decidable (∀ template ∈ loaded.graph.annotatedWith loaded.settings.trigger, _))

/-- Whether a run is one on the folder at a location: the path of its outputs leads
there, the names that it generates are plain, and the path is not so long that files
which are there, or the manifest, are out of reach. -/
structure Admissible (base : Location) (files : FileSystem) (loaded : Loaded) : Prop where
  leads : Leads files loaded.folder base
  plain : loaded.graph.PlainFor loaded.settings
  manifestFits : (Manifest.pathIn loaded.folder).text.utf8ByteSize ≤ longestPath
  filesFit : ∀ names content, files.fileAt? (base ++ names) = some content →
    (loaded.folder.push (.ofNames names)).text.utf8ByteSize ≤ longestPath

/-- The file systems that come about when runs work on a folder that was empty at
first.  Between the runs all that is not in the folder can change. -/
inductive Reached (base : Location) : FileSystem → Prop where
  | start {files : FileSystem} (root : files.itemAt? base = some .folder)
      (bare : files.isBare base = true) : Reached base files
  | outside {before after : FileSystem} (reached : Reached base before)
      (same : ∀ names, after.itemAt? (base ++ names) = before.itemAt? (base ++ names)) :
      Reached base after
  | generate {files : FileSystem} (reached : Reached base files) (run : Invocation)
      (admissible : ∀ loaded, load? run files = some loaded → Admissible base files loaded)
      {outcome : Outcome} (ran : Command.generate run files = some outcome) :
      Reached base outcome.files

/-- A folder mirrors a run: its files are the manifest, and for every entry of it one
file at the entry's path, with the text of the output that was generated for it. -/
structure Mirrors (files : FileSystem) (base : Location) (manifest : Manifest)
    (generated : List GeneratedUnit) : Prop where
  entries : ∀ name, manifest.outputs.contains name = true ↔
    ∃ made ∈ generated, made.qualifiedName = name
  once : (generated.map GeneratedUnit.qualifiedName).Nodup
  apart : ∀ first second firstEntry secondEntry,
    manifest.outputs.get? first = some firstEntry →
    manifest.outputs.get? second = some secondEntry →
    firstEntry.path.steps = secondEntry.path.steps → first = second
  contents : ∀ names content, files.fileAt? (base ++ names) = some content ↔
    (names = [Manifest.fileName] ∧ content = Text.octets manifest.print) ∨
      ∃ made ∈ generated, ∃ entry,
        manifest.outputs.get? made.qualifiedName = some entry ∧
          names = entry.path.steps ∧ content = Text.octets made.text
  noTemporary : ∀ names name content,
    files.fileAt? (base ++ (names ++ [name])) = some content →
      ¬Disk.temporarySuffix.toList <:+ name.toList

/-- The outputs that a manifest records lie in their places, beside the manifest itself
and nothing else. -/
structure Settled (files : FileSystem) (base : Location) (manifest : Manifest) : Prop where
  version : manifest.version = Manifest.currentVersion
  saved : files.fileAt? (base ++ [Manifest.fileName]) = some (Text.octets manifest.print)
  entries : ∀ {name entry}, manifest.outputs.get? name = some entry →
    IsPlainName name ∧ entry.path = .ofNames (sourceNames name) ∧
      ∃ content, files.fileAt? (base ++ sourceNames name) = some content
  only : ∀ {names content}, files.fileAt? (base ++ names) = some content →
    names = [Manifest.fileName] ∨
      ∃ name, manifest.outputs.contains name = true ∧ names = sourceNames name

/-- What is true of a folder before and after every run: there are no files in it, or
those of a manifest. -/
def Holds (base : Location) (files : FileSystem) : Prop :=
  Arranged files base ∧
    ((∀ names, files.fileAt? (base ++ names) = none) ∨
      ∃ manifest, Settled files base manifest)

theorem holds_of_isBare {files : FileSystem} {base : Location}
    (root : files.itemAt? base = some .folder) (bare : files.isBare base = true) :
    Holds base files :=
  ⟨.of_isBare root bare, .inl (fileAt?_of_isBare root bare)⟩

theorem Holds.congr {before after : FileSystem} {base : Location} (holds : Holds base before)
    (same : ∀ names, after.itemAt? (base ++ names) = before.itemAt? (base ++ names)) :
    Holds base after := by
  have files (names : List String) :
      after.fileAt? (base ++ names) = before.fileAt? (base ++ names) := by
    unfold fileAt?
    rw [same]
  obtain ⟨arranged, stage⟩ := holds
  refine ⟨⟨⟨?_, ?_, ?_, ?_⟩, ?_⟩, ?_⟩
  · have root := same []
    rw [List.append_nil] at root
    rw [root]
    exact arranged.root
  · intro names name item found
    rw [same] at found ⊢
    exact arranged.nested found
  · intro names name item found
    rw [same] at found
    exact arranged.short found
  · intro names name item found
    rw [same] at found
    exact arranged.dotted found
  · intro names content found
    rw [files] at found
    exact arranged.placed found
  · rcases stage with noFile | ⟨manifest, version, saved, entries, only⟩
    · exact .inl fun names => (files names).trans (noFile names)
    · refine .inr ⟨manifest, version, (files _).trans saved, ?_, ?_⟩
      · intro name entry found
        obtain ⟨plain, path, content, there⟩ := entries found
        exact ⟨plain, path, content, (files _).trans there⟩
      · intro names content found
        rw [files] at found
        exact only found

section Run

variable {base : Location} {files : FileSystem}

theorem Holds.load_previous (holds : Holds base files) {folder : Path}
    (leads : Leads files folder base)
    (fits : (Manifest.pathIn folder).text.utf8ByteSize ≤ longestPath)
    {previous : Option Manifest} (read : Manifest.load files folder = .ok previous) :
    (∀ names, files.fileAt? (base ++ names) = none) ∧ previous = none ∨
      ∃ manifest, previous = some manifest ∧ Settled files base manifest := by
  obtain ⟨arranged, stage⟩ := holds
  have points := Manifest.points_pathIn leads fits
  rcases stage with noFile | ⟨manifest, settled⟩
  · refine .inl ⟨noFile, ?_⟩
    have missing : files.has (Manifest.pathIn folder) = false := by
      rw [points.has_eq_false_iff]
      rcases fileAt?_eq_none_iff.mp (noFile [Manifest.fileName]) with missing | there
      · exact missing
      · exact absurd Manifest.dot_mem_fileName
          ((@Tidy.dotted _ _ arranged.toTidy [] _ _ there).mp rfl)
    unfold Manifest.load at read
    simp only [missing, Bool.false_eq_true, if_false] at read
    exact (Except.ok.inj read).symm
  · refine .inr ⟨manifest, ?_, settled⟩
    have found : files.find (Manifest.pathIn folder) =
        .ok (.file (Text.octets manifest.print)) := by
      rw [points.find_eq, fileAt?_eq_some_iff.mp settled.saved]
    rw [Manifest.load_of_find settled.version found] at read
    exact (Except.ok.inj read).symm

/-- So a run can start from there: what the manifest records lies in its place, and
there is nothing else. -/
theorem Holds.recorded (holds : Holds base files) {loaded : Loaded}
    (admissible : Admissible base files loaded) {previous : Option Manifest}
    (read : Manifest.load files loaded.folder = .ok previous)
    (given : loaded.previous = previous.getD Manifest.empty) :
    (∀ name entry, loaded.previous.outputs.get? name = some entry →
        Recorded loaded.folder base files name entry) ∧
      ∀ names content, files.fileAt? (base ++ names) = some content →
        names = [Manifest.fileName] ∨
          ∃ name, loaded.previous.outputs.contains name = true ∧ names = sourceNames name := by
  rcases holds.load_previous admissible.leads admissible.manifestFits read with
    ⟨noFile, rfl⟩ | ⟨manifest, rfl, settled⟩
  · constructor
    · intro name entry found
      rw [given] at found
      cases found
    · intro names content found
      rw [noFile] at found
      cases found
  · replace given : loaded.previous = manifest := given
    constructor
    · intro name entry found
      rw [given] at found
      obtain ⟨plain, path, content, there⟩ := settled.entries found
      refine ⟨plain, path, ?_, content, there⟩
      rw [path]
      exact admissible.filesFit _ content there
    · intro names content found
      rw [given]
      exact settled.only found

section Completes

variable {loaded : Loaded} {done : Regeneration}
  (completes : Regeneration.Completes loaded.settings loaded.graph loaded.folder base
    loaded.previous files done)
  (only : ∀ names content, files.fileAt? (base ++ names) = some content →
    names = [Manifest.fileName] ∨
      ∃ name, loaded.previous.outputs.contains name = true ∧ names = sourceNames name)

include completes only

/-- The files that are there after a run, if there were none before but the manifest
and recorded outputs. -/
theorem fileAt?_cases {names : List String} {content : List UInt8}
    (found : done.files.fileAt? (base ++ names) = some content) :
    (names = [Manifest.fileName] ∧ content = Text.octets done.manifest.print) ∨
      ∃ made ∈ done.report.generated,
        names = sourceNames made.qualifiedName ∧ content = Text.octets made.text := by
  by_cases manifest : names = [Manifest.fileName]
  · rw [manifest, completes.manifestFile] at found
    exact .inl ⟨manifest, (Option.some.inj found).symm⟩
  by_cases source : ∃ made ∈ done.report.generated, names = sourceNames made.qualifiedName
  · obtain ⟨made, member, rfl⟩ := source
    rw [completes.sources made member] at found
    exact .inr ⟨made, member, rfl, (Option.some.inj found).symm⟩
  exfalso
  have unmade : ∀ made ∈ done.report.generated, names ≠ sourceNames made.qualifiedName :=
    fun made member same => source ⟨made, member, same⟩
  have unrecorded : ∀ name, loaded.previous.outputs.contains name = true →
      names ≠ sourceNames name := by
    rintro name recorded rfl
    cases kept : done.manifest.outputs.contains name with
    | true =>
      obtain ⟨made, member, rfl⟩ := completes.contains_iff.mp kept
      exact unmade made member rfl
    | false =>
      rw [completes.superseded name recorded kept] at found
      cases found
  rw [completes.others names manifest unmade unrecorded] at found
  rcases only names content found with same | ⟨name, recorded, same⟩
  · exact manifest same
  · exact unrecorded name recorded same

theorem settled_of_completes : Settled done.files base done.manifest := by
  refine ⟨completes.version, completes.manifestFile, ?_, ?_⟩
  · intro name entry found
    obtain ⟨plain, path, -, there⟩ := completes.recorded_of_get? found
    exact ⟨plain, path, there⟩
  · intro names content found
    rcases fileAt?_cases completes only found with ⟨same, -⟩ | ⟨made, member, same, -⟩
    · exact .inl same
    · exact .inr ⟨_, completes.contains_iff.mpr ⟨made, member, rfl⟩, same⟩

end Completes

theorem Holds.completes (holds : Holds base files) {run : Invocation} {loaded : Loaded}
    (past : load? run files = some loaded) (admissible : Admissible base files loaded)
    {done : Regeneration} (ran : loaded.regenerate files = some done) :
    Regeneration.Completes loaded.settings loaded.graph loaded.folder base loaded.previous files
        done ∧
      ∀ names content, files.fileAt? (base ++ names) = some content →
        names = [Manifest.fileName] ∨
          ∃ name, loaded.previous.outputs.contains name = true ∧ names = sourceNames name := by
  obtain ⟨-, previous, read, given⟩ := generate_of_load?_some past
  obtain ⟨recorded, only⟩ := holds.recorded admissible read given
  exact ⟨regenerate_spec holds.1 admissible.leads admissible.manifestFits admissible.plain
    recorded ran, only⟩

end Run

theorem Reached.holds {base : Location} {files : FileSystem} (reached : Reached base files) :
    Holds base files := by
  induction reached with
  | start root bare => exact holds_of_isBare root bare
  | outside reached same ih => exact ih.congr same
  | @generate files reached run admissible outcome ran ih =>
    cases past : load? run files with
    | none =>
      obtain ⟨_, ended, same, -⟩ := generate_of_load?_none past
      obtain rfl := Option.some.inj (ended.symm.trans ran)
      rw [same]
      exact ih
    | some loaded =>
      obtain ⟨done, regenerated, same⟩ := exists_regenerate_of_generate past ran
      obtain ⟨completes, only⟩ := ih.completes past (admissible loaded past) regenerated
      rw [← same]
      exact ⟨completes.arranged, .inr ⟨_, settled_of_completes completes only⟩⟩

/-- The document of a graph with one template, and an empty folder of outputs. -/
def unstarted : FileSystem where
  entries := [
    (["graph.json"], .file (Text.octets
      ("\x7b\"packages\": [\x7b\"declarations\": [\x7b\"name\": \"A\", \"kind\": \"interface\", " ++
        "\"annotations\": [\"aptgen.annotation.Sample\"]\x7d]\x7d]\x7d"))),
    (["generated"], .folder)]

end Command

end Stencil
