import Stencil.Proofs.Filer.Disk
import Stencil.Proofs.Manifest.Record
import Stencil.Proofs.Manifest.Saving
import Stencil.Regeneration

/-!
# What a run leaves in its folder

A run goes through its templates turn by turn, takes away the files of outputs that are
no longer there, and saves its manifest.  In an arranged folder that earlier runs
recorded none of this goes wrong, and the files are known exactly.
-/

namespace Stencil

open FileSystem

section Turns

variable {settings : Settings} {graph : Graph} {folder : Path} {base : Location}

/-- The content of the source that some names lead to, among generated outputs. -/
def sourceOf? (generated : List GeneratedUnit) (names : List String) : Option (List UInt8) :=
  (generated.find? fun made => decide (sourceNames made.qualifiedName = names)).map fun made =>
    Text.octets made.text

theorem sourceOf?_cons (made : GeneratedUnit) (rest : List GeneratedUnit) (names : List String) :
    sourceOf? (made :: rest) names =
      if names = sourceNames made.qualifiedName then some (Text.octets made.text)
      else sourceOf? rest names := by
  unfold sourceOf?
  by_cases same : names = sourceNames made.qualifiedName
  · rw [if_pos same, List.find?_cons_of_pos (by simpa using same.symm)]
    rfl
  · rw [if_neg same, List.find?_cons_of_neg (by simpa using Ne.symm same)]

theorem sourceOf?_eq_none {generated : List GeneratedUnit} {name : QualifiedName}
    (absent : name ∉ generated.map GeneratedUnit.qualifiedName) :
    sourceOf? generated (sourceNames name) = none := by
  unfold sourceOf?
  rw [Option.map_eq_none_iff, List.find?_eq_none]
  intro made member same
  have equal := sourceNames_injective (of_decide_eq_true same)
  exact absent (equal ▸ List.mem_map_of_mem member)

/-- What a turn leaves: an output that it has is a file then. -/
theorem Turn.Runs.files_after {turn : Turn Disk}
    (runs : turn.Runs settings graph (Disk.filer folder))
    (arranged : Arranged turn.before.files base)
    (prepared : ∀ made, graph.generate turn.template settings = some (.ok made) →
      Disk.Ready folder base turn.before made.qualifiedName) :
    Arranged turn.after.files base ∧ Keeps turn.before.files turn.after.files ∧
      ∀ names, turn.after.files.fileAt? (base ++ names) =
        (sourceOf? turn.generated?.toList names).or
          (turn.before.files.fileAt? (base ++ names)) := by
  cases runs with
  | ungenerated failed => exact ⟨arranged, .refl _, fun _ => rfl⟩
  | @refused _ made error _ after generated refuses =>
    have ready := prepared made generated
    obtain ⟨state, ends, leaves⟩ :=
      Disk.emit_spec ready.arranged ready.leads ready.plain ready.fresh
    rw [refuses.emit_eq] at ends
    obtain ⟨result, rfl⟩ := Prod.mk.inj ends
    have unfit : ¬Disk.Fits folder made.qualifiedName := by
      intro fits
      rw [if_pos fits] at result
      cases result
    refine ⟨leaves.arranged, leaves.keeps, fun names => ?_⟩
    rw [leaves.files, if_neg fun both => unfit both.1]
    rfl
  | @emitted _ made _ after generated emits =>
    have ready := prepared made generated
    obtain ⟨state, ends, leaves⟩ :=
      Disk.emit_spec ready.arranged ready.leads ready.plain ready.fresh
    rw [emits.emit_eq] at ends
    obtain ⟨result, rfl⟩ := Prod.mk.inj ends
    have fits : Disk.Fits folder made.qualifiedName := by
      by_contra unfit
      rw [if_neg unfit] at result
      cases result
    refine ⟨leaves.arranged, leaves.keeps, fun names => ?_⟩
    show _ = (sourceOf? [made] names).or _
    rw [leaves.files, sourceOf?_cons]
    by_cases same : names = sourceNames made.qualifiedName
    · rw [if_pos ⟨fits, congrArg (base ++ ·) same⟩, if_pos same]
      rfl
    · rw [if_neg fun both => same (List.append_cancel_left both.2), if_neg same]
      rfl

/-- What linked turns leave: their outputs are files then. -/
theorem Linked.files_final {start final : Disk} {turns : List (Turn Disk)}
    (links : Linked start turns final)
    (runs : ∀ turn ∈ turns, turn.Runs settings graph (Disk.filer folder))
    (once : (turns.map Turn.template).Nodup) (arranged : Arranged start.files base)
    (prepared : ∀ turn ∈ turns, ∀ made, graph.generate turn.template settings = some (.ok made) →
      Disk.Ready folder base start made.qualifiedName) :
    Arranged final.files base ∧ Keeps start.files final.files ∧
      ∀ names, final.files.fileAt? (base ++ names) =
        (sourceOf? (turns.filterMap Turn.generated?) names).or
          (start.files.fileAt? (base ++ names)) := by
  induction links with
  | nil => exact ⟨arranged, .refl _, fun _ => rfl⟩
  | @cons state turn rest final starts links ih =>
    rw [List.map_cons, List.nodup_cons] at once
    have runsFirst := runs turn List.mem_cons_self
    have runsRest : ∀ other ∈ rest, other.Runs settings graph (Disk.filer folder) :=
      fun other member => runs other (List.mem_cons_of_mem _ member)
    subst starts
    obtain ⟨arrangedAfter, keepsFirst, filesFirst⟩ :=
      runsFirst.files_after arranged (prepared turn List.mem_cons_self)
    have preparedRest := runsFirst.ready_rest (Disk.filer_independent folder base) once.1 prepared
    obtain ⟨arrangedFinal, keepsRest, filesRest⟩ :=
      ih runsRest once.2 arrangedAfter preparedRest
    refine ⟨arrangedFinal, keepsFirst.trans keepsRest, fun names => ?_⟩
    rw [filesRest, filesFirst]
    cases given : turn.generated? with
    | none =>
      rw [List.filterMap_cons_none given]
      rfl
    | some made =>
      rw [List.filterMap_cons_some given, Option.toList_some, sourceOf?_cons, sourceOf?_cons]
      by_cases same : names = sourceNames made.qualifiedName
      · have absent := runsFirst.not_mem_later runsRest once.1 given
        rw [same, sourceOf?_eq_none absent, if_pos rfl, if_pos rfl]
        rfl
      · rw [if_neg same, if_neg same]
        rfl

end Turns

section Folder

variable {files after : FileSystem} {folder : Path} {base : Location}

/-- What is recorded of an output that lies in its place. -/
structure Recorded (folder : Path) (base : Location) (files : FileSystem) (name : QualifiedName)
    (entry : ManifestEntry) : Prop where
  plain : IsPlainName name
  path : entry.path = .ofNames (sourceNames name)
  fits : (folder.push entry.path).text.utf8ByteSize ≤ longestPath
  there : ∃ content, files.fileAt? (base ++ sourceNames name) = some content

theorem Arranged.erase_file {place : Location} (arranged : Arranged files base)
    (keeps : Keeps files after)
    (changed : ∀ location, after.itemAt? location =
      if location = place then none else files.itemAt? location) :
    Arranged after base ∧ ∀ location, after.fileAt? location =
      if location = place then none else files.fileAt? location := by
  have filesAfter := @fileAt?_of_changed files after place none changed
  refine ⟨⟨arranged.toTidy.erase keeps changed, fun found => ?_⟩, filesAfter⟩
  rw [filesAfter] at found
  split_ifs at found
  exact arranged.placed found

namespace Manifest

/-- In an arranged folder a manifest can be saved, and this changes its file alone. -/
theorem save_spec (manifest : Manifest) (arranged : Arranged files base)
    (leads : Leads files folder base)
    (fits : (pathIn folder).text.utf8ByteSize ≤ longestPath) :
    ∃ after, manifest.save folder files = (.ok (), after) ∧ Arranged after base ∧
      Keeps files after ∧ ∀ names, after.fileAt? (base ++ names) =
        if names = [fileName] then some (Text.octets manifest.print)
        else files.fileAt? (base ++ names) := by
  have points := points_pathIn leads fits
  have noFolder : files.itemAt? (base ++ [fileName]) ≠ some .folder := by
    intro there
    exact (@Tidy.dotted _ _ arranged.toTidy [] _ _ there).mp rfl dot_mem_fileName
  have ensured := ensureFolders_of_fits leads fits
  have named : base ++ [fileName] ≠ [] := by simp
  have changed := itemAt?_put files named (.file (Text.octets manifest.print))
  have keeps : Keeps files
      (files.put (base ++ [fileName]) (.file (Text.octets manifest.print))) :=
    .put named noFolder _
  have filesAfter (names : List String) :
      (files.put (base ++ [fileName]) (.file (Text.octets manifest.print))).fileAt?
        (base ++ names) =
        if names = [fileName] then some (Text.octets manifest.print)
        else files.fileAt? (base ++ names) := by
    rw [@fileAt?_of_changed files _ _ (some (Text.octets manifest.print)) changed]
    by_cases same : names = [fileName]
    · rw [if_pos same, if_pos (congrArg (base ++ ·) same)]
    · rw [if_neg same, if_neg fun equal => same (List.append_cancel_left equal)]
  have root : files.itemAt? (base ++ []) = some .folder := by
    rw [List.append_nil]
    exact arranged.root
  refine ⟨_, save_eq ensured points noFolder manifest, ⟨?_, ?_⟩, keeps, filesAfter⟩
  · exact arranged.toTidy.put keeps root short_fileName (by simp [dot_mem_fileName]) changed
  · intro names content found
    rw [filesAfter] at found
    split_ifs at found with same
    · exact .inl same
    · exact arranged.placed found

end Manifest

namespace CleanUp

/-- A superseded output that lies in its place is removed. -/
theorem take_recorded {state : CleanUp} {name : QualifiedName} {entry : ManifestEntry}
    (running : state.stopped = none) (arranged : Arranged state.files base)
    (leads : Leads state.files folder base)
    (recorded : Recorded folder base state.files name entry) :
    ∃ files, take folder state entry =
        { state with files, removed := state.removed ++ [folder.push entry.path] } ∧
      Arranged files base ∧ Keeps state.files files ∧
      ∀ location, files.fileAt? location =
        if location = base ++ sourceNames name then none else state.files.fileAt? location := by
  obtain ⟨content, found⟩ := recorded.there
  have there := fileAt?_eq_some_iff.mp found
  have some_name : sourceNames name ≠ [] := by simp [sourceNames]
  have contained : entry.path.isContained = true := by
    rw [recorded.path]
    exact Path.isContained_ofNames some_name recorded.plain.joinable.names
  have points : Points state.files (folder.push entry.path) (base ++ sourceFolders name)
      (sourceFile name) := by
    apply arranged.toTidy.points leads _ _ recorded.plain.names recorded.fits
      (arranged.short there) (arranged.nested there)
    · rw [recorded.path]
      exact Path.push_extends some_name recorded.plain.names
    · rw [recorded.path]
      exact zero_not_mem_push leads.noZero some_name recorded.plain.names
  rw [sourceNames, ← List.append_assoc] at there
  have has : state.files.has (folder.push entry.path) = true := by
    by_contra missing
    rw [Bool.not_eq_true, points.has_eq_false_iff, there] at missing
    cases missing
  have named : base ++ sourceFolders name ++ [sourceFile name] ≠ [] := by simp
  have changed := itemAt?_erase state.files named
  have keeps : Keeps state.files
      (state.files.erase (base ++ sourceFolders name ++ [sourceFile name])) :=
    .erase named (by rw [there]; simp)
  obtain ⟨arrangedAfter, filesAfter⟩ := arranged.erase_file keeps changed
  refine ⟨_, ?_, arrangedAfter, keeps, ?_⟩
  · unfold take
    simp only [running, contained, has, points.removeFile_eq there, Option.isSome_none,
      Bool.false_eq_true, Bool.not_true, if_false, if_true]
  · intro location
    rw [filesAfter, sourceNames, List.append_assoc]

/-- Superseded outputs that lie in their places are all removed, and nothing else. -/
theorem foldl_take {pairs : List (QualifiedName × ManifestEntry)} {state : CleanUp}
    (running : state.stopped = none) (arranged : Arranged state.files base)
    (leads : Leads state.files folder base) (distinct : (pairs.map Prod.fst).Nodup)
    (recorded : ∀ pair ∈ pairs, Recorded folder base state.files pair.1 pair.2) :
    ∃ files, (pairs.map Prod.snd).foldl (take folder) state =
        { state with
          files, removed := state.removed ++ pairs.map fun pair => folder.push pair.2.path } ∧
      Arranged files base ∧ Keeps state.files files ∧
      ∀ location, files.fileAt? location =
        if location ∈ pairs.map fun pair => base ++ sourceNames pair.1 then none
        else state.files.fileAt? location := by
  induction pairs generalizing state with
  | nil =>
    refine ⟨state.files, ?_, arranged, .refl _, fun location => ?_⟩
    · rw [List.map_nil, List.map_nil, List.append_nil]
      rfl
    · rw [List.map_nil, if_neg List.not_mem_nil]
  | cons pair rest ih =>
    rw [List.map_cons, List.nodup_cons] at distinct
    obtain ⟨files, taken, arrangedAfter, keeps, changed⟩ :=
      take_recorded running arranged leads (recorded pair List.mem_cons_self)
    have recordedRest : ∀ other ∈ rest, Recorded folder base files other.1 other.2 := by
      intro other member
      obtain ⟨plain, path, fits, content, found⟩ :=
        recorded other (List.mem_cons_of_mem _ member)
      refine ⟨plain, path, fits, content, ?_⟩
      rw [changed, if_neg ?_]
      · exact found
      · intro same
        have equal := sourceNames_injective (List.append_cancel_left same)
        exact distinct.1 (equal ▸ List.mem_map_of_mem member)
    have later := @ih { state with
      files, removed := state.removed ++ [folder.push pair.2.path] }
    obtain ⟨final, folded, arrangedFinal, keepsRest, changedRest⟩ :=
      later running arrangedAfter (keeps.leads leads) distinct.2 recordedRest
    refine ⟨final, ?_, arrangedFinal, keeps.trans keepsRest, fun location => ?_⟩
    · rw [List.map_cons, List.foldl_cons, taken, folded, List.map_cons, List.append_assoc]
      rfl
    · rw [changedRest, changed, List.map_cons]
      by_cases same : location = base ++ sourceNames pair.1
      · simp [same]
      · simp only [List.mem_cons, same, false_or, if_false]

end CleanUp

/-- The names of the outputs that a graph generates are plain. -/
def Graph.PlainFor (graph : Graph) (settings : Settings) : Prop :=
  ∀ template ∈ graph.annotatedWith settings.trigger, ∀ made,
    graph.generate template settings = some (.ok made) → IsPlainName made.qualifiedName

/-- The outputs that a round leaves in a folder: those that are generated and fit. -/
def Graph.outputsIn (graph : Graph) (settings : Settings) (folder : Path) :
    List GeneratedUnit :=
  (graph.annotatedWith settings.trigger).filterMap fun template =>
    (graph.outcome settings (Disk.fault folder) template).bind Except.toOption

/-- What a round leaves in an arranged folder. -/
structure Disk.RoundLeaves (settings : Settings) (graph : Graph) (folder : Path)
    (base : Location) (files : FileSystem) (final : RoundState Disk) : Prop where
  generated : final.report.generated = graph.outputsIn settings folder
  distinct : (final.report.generated.map GeneratedUnit.qualifiedName).Nodup
  plain : ∀ made ∈ final.report.generated, IsPlainName made.qualifiedName
  committed : ∀ made ∈ final.report.generated,
    final.sink.outputs.get? made.qualifiedName = some (Disk.entryOf folder made)
  arranged : Arranged final.sink.files base
  keeps : Keeps files final.sink.files
  sources : ∀ names, final.sink.files.fileAt? (base ++ names) =
    (sourceOf? final.report.generated names).or (files.fileAt? (base ++ names))

theorem Disk.process_spec {settings : Settings} {graph : Graph} {ended : Processor}
    {final : RoundState Disk} (arranged : Arranged files base) (leads : Leads files folder base)
    (plain : graph.PlainFor settings)
    (ends : ({ settings } : Processor).process graph (filer folder) { files } =
      some (ended, final)) : RoundLeaves settings graph folder base files final := by
  obtain ⟨turns, orderly⟩ := Processor.exists_orderly rfl ends
  have prepared : ∀ template ∈ graph.annotatedWith settings.trigger, ∀ made,
      graph.generate template settings = some (.ok made) →
      Ready folder base { files } made.qualifiedName :=
    fun template member made generated =>
      ⟨arranged, leads, plain template member made generated, rfl⟩
  have results := orderly.independent (filer_independent folder base) prepared
  have generated := orderly.turnByTurn.generated
  rw [List.nil_append] at generated
  have order := orderly.turnByTurn.order
  have once : (turns.map Turn.template).Nodup := order.symm ▸ orderly.once
  obtain ⟨arrangedFinal, keeps, sources⟩ := orderly.turnByTurn.linked.files_final
    orderly.turnByTurn.runs once arranged fun turn member =>
      prepared turn.template (order ▸ List.mem_map_of_mem member)
  constructor
  case generated =>
    rw [generated, Turn.filterMap_generated?, ← results, List.filterMap_map]
    rfl
  case distinct => exact orderly.qualifiedNames_nodup
  case plain =>
    intro made member
    have template : made.template ∈ graph.annotatedWith settings.trigger :=
      orderly.generatedInOrder.subset (List.mem_map_of_mem member)
    exact plain _ template made (orderly.generate_of_mem member)
  case committed =>
    intro made member
    exact orderly.shown_of_mem (filer_records folder) member
  case arranged => exact arrangedFinal
  case keeps => exact keeps
  case sources =>
    rw [generated]
    exact sources

/-- What a run leaves in an arranged folder where the outputs that a manifest records
lie in their places. -/
structure Regeneration.Completes (settings : Settings) (graph : Graph) (folder : Path)
    (base : Location) (previous : Manifest) (files : FileSystem) (done : Regeneration) :
    Prop where
  error : done.error = none
  kept : done.kept = []
  removed : done.removed =
    (previous.supersededBy done.manifest).map fun entry => folder.push entry.path
  generated : done.report.generated = graph.outputsIn settings folder
  once : (done.report.generated.map GeneratedUnit.qualifiedName).Nodup
  plain : ∀ made ∈ done.report.generated, IsPlainName made.qualifiedName
  version : done.manifest.version = Manifest.currentVersion
  record : ∀ name, done.manifest.outputs.get? name =
    (done.report.generated.find? fun made => decide (made.qualifiedName = name)).map fun made =>
      Manifest.entryOf graph folder made (Disk.entryOf folder made)
  arranged : Arranged done.files base
  keeps : Keeps files done.files
  manifestFile : done.files.fileAt? (base ++ [Manifest.fileName]) =
    some (Text.octets done.manifest.print)
  sources : ∀ made ∈ done.report.generated,
    done.files.fileAt? (base ++ sourceNames made.qualifiedName) = some (Text.octets made.text)
  superseded : ∀ name, previous.outputs.contains name = true →
    done.manifest.outputs.contains name = false →
    done.files.fileAt? (base ++ sourceNames name) = none
  others : ∀ names, names ≠ [Manifest.fileName] →
    (∀ made ∈ done.report.generated, names ≠ sourceNames made.qualifiedName) →
    (∀ name, previous.outputs.contains name = true → names ≠ sourceNames name) →
    done.files.fileAt? (base ++ names) = files.fileAt? (base ++ names)

theorem sourceOf?_of_mem {generated : List GeneratedUnit}
    (distinct : (generated.map GeneratedUnit.qualifiedName).Nodup) {made : GeneratedUnit}
    (member : made ∈ generated) :
    sourceOf? generated (sourceNames made.qualifiedName) = some (Text.octets made.text) := by
  induction generated with
  | nil => exact absurd member List.not_mem_nil
  | cons first rest ih =>
    rw [List.map_cons, List.nodup_cons] at distinct
    rw [sourceOf?_cons]
    rcases List.mem_cons.mp member with rfl | later
    · rw [if_pos rfl]
    · rw [if_neg ?_]
      · exact ih distinct.2 later
      · intro same
        exact distinct.1 (sourceNames_injective same ▸ List.mem_map_of_mem later)

theorem sourceNames_ne_fileName (name : QualifiedName) :
    sourceNames name ≠ [Manifest.fileName] := by
  intro same
  have last := congrArg List.getLast? same
  rw [sourceNames, List.getLast?_concat] at last
  have ending := getLast?_sourceFile name
  rw [show sourceFile name = Manifest.fileName from Option.some.inj last] at ending
  exact absurd ending (by decide)

/-- After its round a run removes what the round supersedes, and saves its manifest. -/
theorem conclude_eq {graph : Graph} {previous manifest : Manifest} {final : RoundState Disk}
    {cleaned saved : FileSystem} {removed : List Path}
    (record : Manifest.ofRound graph folder final.sink.outputs final.report = manifest)
    (cleans : CleanUp.run folder (previous.supersededBy manifest) final.sink.files =
      { files := cleaned, removed })
    (saves : manifest.save folder cleaned = (.ok (), saved)) :
    conclude graph folder previous final =
      { report := final.report, diagnostics := final.diagnostics, manifest, removed
        kept := [], error := none, files := saved } := by
  subst record
  unfold conclude
  simp only [cleans, saves]

theorem sourceOf?_eq_none_of_ne {generated : List GeneratedUnit} {names : List String}
    (unmade : ∀ made ∈ generated, names ≠ sourceNames made.qualifiedName) :
    sourceOf? generated names = none := by
  unfold sourceOf?
  rw [Option.map_eq_none_iff, List.find?_eq_none]
  intro made member same
  exact unmade made member (of_decide_eq_true same).symm

namespace Disk.RoundLeaves

variable {settings : Settings} {graph : Graph} {final : RoundState Disk}
  {previous manifest : Manifest}

theorem not_generated (round : RoundLeaves settings graph folder base files final)
    (record : Manifest.ofRound graph folder final.sink.outputs final.report = manifest)
    {name : QualifiedName} (dropped : manifest.outputs.contains name = false) :
    name ∉ final.report.generated.map GeneratedUnit.qualifiedName := by
  rw [← Manifest.contains_ofRound_iff round.distinct round.committed, record, dropped]
  exact Bool.false_ne_true

/-- A superseded output lies in its place after the round, as it did before. -/
theorem recorded_of_gone (round : RoundLeaves settings graph folder base files final)
    (record : Manifest.ofRound graph folder final.sink.outputs final.report = manifest)
    (recorded : ∀ name entry, previous.outputs.get? name = some entry →
      Recorded folder base files name entry) :
    ∀ pair ∈ previous.goneFrom manifest,
      Recorded folder base final.sink.files pair.1 pair.2 := by
  intro pair member
  obtain ⟨kept, dropped⟩ := Manifest.mem_goneFrom_iff.mp member
  obtain ⟨plain, path, fits, content, there⟩ := recorded pair.1 pair.2 kept
  refine ⟨plain, path, fits, content, ?_⟩
  rw [round.sources, sourceOf?_eq_none (round.not_generated record dropped)]
  exact there

/-- No superseded output has the place of one that was generated. -/
theorem sourceNames_not_gone (round : RoundLeaves settings graph folder base files final)
    (record : Manifest.ofRound graph folder final.sink.outputs final.report = manifest)
    {made : GeneratedUnit} (member : made ∈ final.report.generated) :
    sourceNames made.qualifiedName ∉
      (previous.goneFrom manifest).map fun pair => sourceNames pair.1 := by
  intro gone
  obtain ⟨pair, superseded, same⟩ := List.mem_map.mp gone
  have dropped := (Manifest.mem_goneFrom_iff.mp superseded).2
  apply round.not_generated record dropped
  rw [sourceNames_injective same]
  exact List.mem_map_of_mem member

/-- After a round, what it supersedes can be removed and its manifest can be saved.  The
files are then those of the round and those from before, without the superseded ones. -/
theorem ends (round : RoundLeaves settings graph folder base files final)
    (record : Manifest.ofRound graph folder final.sink.outputs final.report = manifest)
    (leads : Leads files folder base)
    (fits : (Manifest.pathIn folder).text.utf8ByteSize ≤ longestPath)
    (recorded : ∀ name entry, previous.outputs.get? name = some entry →
      Recorded folder base files name entry) :
    ∃ cleaned saved,
      CleanUp.run folder (previous.supersededBy manifest) final.sink.files =
        { files := cleaned
          removed := (previous.goneFrom manifest).map fun pair => folder.push pair.2.path } ∧
      manifest.save folder cleaned = (.ok (), saved) ∧
      Arranged saved base ∧ Keeps files saved ∧
      ∀ names, saved.fileAt? (base ++ names) =
        if names = [Manifest.fileName] then some (Text.octets manifest.print)
        else if names ∈ (previous.goneFrom manifest).map fun pair => sourceNames pair.1 then none
        else (sourceOf? final.report.generated names).or (files.fileAt? (base ++ names)) := by
  obtain ⟨cleaned, cleans, arranged, keeps, filesCleaned⟩ :=
    @CleanUp.foldl_take folder base _ { files := final.sink.files } rfl round.arranged
      (round.keeps.leads leads) (previous.goneFrom_nodup manifest)
      (round.recorded_of_gone record recorded)
  obtain ⟨saved, saves, arrangedSaved, keepsSaved, filesSaved⟩ :=
    manifest.save_spec arranged ((round.keeps.trans keeps).leads leads) fits
  refine ⟨cleaned, saved, cleans, saves, arrangedSaved,
    (round.keeps.trans keeps).trans keepsSaved, fun names => ?_⟩
  have inFolder : base ++ names ∈ ((previous.goneFrom manifest).map fun pair =>
      base ++ sourceNames pair.1) ↔
        names ∈ (previous.goneFrom manifest).map fun pair => sourceNames pair.1 := by
    simp only [List.mem_map, List.append_cancel_left_eq]
  rw [filesSaved, filesCleaned, round.sources]
  simp only [inFolder]

end Disk.RoundLeaves

/-- A run in an arranged folder, where the outputs of the manifest lie in their places,
gets to its end. -/
theorem regenerate_spec {settings : Settings} {graph : Graph} {previous : Manifest}
    {done : Regeneration} (arranged : Arranged files base) (leads : Leads files folder base)
    (fits : (Manifest.pathIn folder).text.utf8ByteSize ≤ longestPath)
    (plain : graph.PlainFor settings)
    (recorded : ∀ name entry, previous.outputs.get? name = some entry →
      Recorded folder base files name entry)
    (ran : regenerate settings graph folder previous files = some done) :
    Regeneration.Completes settings graph folder base previous files done := by
  obtain ⟨ended, final, ends, rfl⟩ := regenerate_eq_some_iff.mp ran
  have round := Disk.process_spec arranged leads plain ends
  obtain ⟨manifest, record⟩ :
      ∃ manifest, Manifest.ofRound graph folder final.sink.outputs final.report = manifest :=
    ⟨_, rfl⟩
  obtain ⟨cleaned, saved, cleans, saves, arrangedSaved, keeps, filesSaved⟩ :=
    round.ends record leads fits recorded
  rw [conclude_eq record cleans saves]
  constructor
  case error => rfl
  case kept => rfl
  case removed =>
    rw [Manifest.supersededBy_eq, List.map_map]
    rfl
  case generated => exact round.generated
  case once => exact round.distinct
  case plain => exact round.plain
  case version =>
    rw [← record]
    exact Manifest.version_foldl _ _
  case record =>
    intro name
    rw [← record]
    exact Manifest.get?_ofRound round.distinct round.committed name
  case arranged => exact arrangedSaved
  case keeps => exact keeps
  case manifestFile => rw [filesSaved, if_pos rfl]
  case sources =>
    intro made member
    rw [filesSaved, if_neg (sourceNames_ne_fileName _),
      if_neg (round.sourceNames_not_gone record member), sourceOf?_of_mem round.distinct member]
    rfl
  case superseded =>
    intro name recordedBefore dropped
    obtain ⟨entry, kept⟩ := NameMap.contains_eq_true_iff.mp recordedBefore
    have gone := Manifest.mem_goneFrom_iff.mpr ⟨kept, dropped⟩
    rw [filesSaved, if_neg (sourceNames_ne_fileName _), if_pos]
    exact List.mem_map.mpr ⟨_, gone, rfl⟩
  case others =>
    intro names other unmade unrecorded
    rw [filesSaved, if_neg other, if_neg, sourceOf?_eq_none_of_ne unmade]
    · rfl
    · intro gone
      obtain ⟨pair, superseded, same⟩ := List.mem_map.mp gone
      have before := (Manifest.mem_goneFrom_iff.mp superseded).1
      exact unrecorded pair.1 (NameMap.contains_eq_true_iff.mpr ⟨_, before⟩) same.symm

theorem Manifest.path_entryOf {graph : Graph} {made : GeneratedUnit}
    (plain : IsPlainName made.qualifiedName) :
    (entryOf graph folder made (Disk.entryOf folder made)).path =
      .ofNames (sourceNames made.qualifiedName) := by
  unfold entryOf Disk.entryOf
  rw [Disk.pathFor_eq folder plain.joinable,
    Path.stripBase?_push (by simp [sourceNames]) plain.joinable.names]
  rfl

theorem Graph.fits_of_mem_outputsIn {graph : Graph} {settings : Settings} {made : GeneratedUnit}
    (member : made ∈ graph.outputsIn settings folder) :
    Disk.Fits folder made.qualifiedName := by
  obtain ⟨template, -, given⟩ := List.mem_filterMap.mp member
  obtain ⟨result, came, given⟩ := Option.bind_eq_some_iff.mp given
  obtain ⟨generated, -, rfl⟩ := Option.map_eq_some_iff.mp came
  cases generated with
  | error error => cases given
  | ok other =>
    by_contra unfit
    by_cases fits : Disk.Fits folder other.qualifiedName
    · simp only [Disk.fault, if_pos fits] at given
      cases given
      exact unfit fits
    · simp only [Disk.fault, if_neg fits] at given
      cases given

namespace Regeneration.Completes

variable {settings : Settings} {graph : Graph} {previous : Manifest} {done : Regeneration}
  {name : QualifiedName} {entry : ManifestEntry}

theorem contains_iff
    (completes : Completes settings graph folder base previous files done) :
    done.manifest.outputs.contains name = true ↔
      ∃ made ∈ done.report.generated, made.qualifiedName = name := by
  rw [NameMap.contains, completes.record, Option.isSome_map, List.find?_isSome]
  simp

theorem path_of_get? (completes : Completes settings graph folder base previous files done)
    (found : done.manifest.outputs.get? name = some entry) :
    entry.path = .ofNames (sourceNames name) := by
  rw [completes.record] at found
  obtain ⟨made, search, rfl⟩ := Option.map_eq_some_iff.mp found
  have same : made.qualifiedName = name := by simpa using List.find?_some search
  rw [← same]
  exact Manifest.path_entryOf (completes.plain made (List.mem_of_find?_eq_some search))

/-- The names of an entry are plain, and its output lies in its place. -/
theorem recorded_of_get?
    (completes : Completes settings graph folder base previous files done)
    (found : done.manifest.outputs.get? name = some entry) :
    Recorded folder base done.files name entry := by
  obtain ⟨made, member, rfl⟩ := completes.contains_iff.mp
    (NameMap.contains_eq_true_iff.mpr ⟨entry, found⟩)
  have path := completes.path_of_get? found
  have plain := completes.plain made member
  refine ⟨plain, path, ?_, _, completes.sources made member⟩
  have fits := Graph.fits_of_mem_outputsIn (completes.generated ▸ member)
  rw [path, ← Disk.pathFor_eq folder plain.joinable]
  exact fits.1

end Regeneration.Completes

end Folder

end Stencil
