import Stencil.Manifest.Storage
import Stencil.Proofs.FileSystem.Folders
import Stencil.Proofs.Filer.Emission
import Stencil.Proofs.Path.Source

/-!
# Emission on disk

Below a folder that holds sources and a manifest, the filer takes in every output
unless a name or a path is too long for it.  What it takes in is the file of the output
then, and all other files are as before; what it does not take in leaves no trace but
folders.
-/

namespace Stencil

open FileSystem

/-- A tidy folder whose files are sources and a manifest. -/
structure Arranged (files : FileSystem) (base : Location) : Prop extends Tidy files base where
  placed : ∀ {names content}, files.fileAt? (base ++ names) = some content →
    names = [Manifest.fileName] ∨ ∃ name, IsPlainName name ∧ names = sourceNames name

theorem Arranged.widen {before after : FileSystem} {base : Location}
    (arranged : Arranged before base) (widens : Widens before after base) :
    Arranged after base := by
  refine ⟨widens.tidy, fun found => ?_⟩
  rw [widens.files] at found
  exact arranged.placed found

theorem Arranged.of_isBare {files : FileSystem} {base : Location}
    (root : files.itemAt? base = some .folder) (bare : files.isBare base = true) :
    Arranged files base := by
  have missing {names : List String} {name : String} {item : Item}
      (found : files.itemAt? (base ++ (names ++ [name])) = some item) : False := by
    rw [itemAt?_of_isBare bare (by simp)] at found
    cases found
  refine ⟨⟨root, ?_, ?_, ?_⟩, ?_⟩
  · intro names name item found
    exact (missing found).elim
  · intro names name item found
    exact (missing found).elim
  · intro names name item found
    exact (missing found).elim
  · intro names content found
    rw [fileAt?_of_isBare root bare] at found
    cases found

namespace Disk

/-- Whether the names and the paths that the filer uses for an output are short
enough. -/
def Fits (folder : Path) (name : QualifiedName) : Prop :=
  (pathFor folder name).text.utf8ByteSize ≤ longestPath ∧
    (temporaryFor (pathFor folder name)).text.utf8ByteSize ≤ longestPath ∧
    (∀ piece ∈ sourceFolders name, piece.utf8ByteSize ≤ longestName) ∧
    (temporaryFile name).utf8ByteSize ≤ longestName

instance (folder : Path) (name : QualifiedName) : Decidable (Fits folder name) :=
  inferInstanceAs (Decidable (_ ∧ _ ∧ _ ∧ _))

section Places

variable {folder : Path} {name : QualifiedName}

theorem pathFor_extends (folder : Path) (plain : IsPlainName name) :
    (pathFor folder name).Extends folder (sourceNames name) := by
  rw [pathFor_eq folder plain.joinable]
  exact Path.push_extends (by simp [sourceNames]) plain.names

theorem exists_places (folder : Path) (plain : IsPlainName name) :
    ∃ front, (pathFor folder name).Starts folder front (sourceFolders name) ∧
      (pathFor folder name).parent? =
        some ((pathFor folder name).holder front (sourceFolders name)) ∧
      temporaryFor (pathFor folder name) =
        ((pathFor folder name).holder front (sourceFolders name)).push
          (.ofNames [temporaryFile name]) := by
  obtain ⟨front, starts, parent, last⟩ := (pathFor_extends folder plain).exists_starts
  refine ⟨front, starts, parent, ?_⟩
  unfold temporaryFor Path.withFileName
  rw [last, parent]
  rw [Path.ofNames_singleton]
  rfl

theorem zero_not_mem_pathFor (plain : IsPlainName name)
    (noZero : '\x00' ∉ folder.text.toList) : '\x00' ∉ (pathFor folder name).text.toList := by
  rw [pathFor_eq folder plain.joinable]
  exact zero_not_mem_push noZero (by simp [sourceNames]) plain.names

theorem short_sourceFile (short : (temporaryFile name).utf8ByteSize ≤ longestName) :
    (sourceFile name).utf8ByteSize ≤ longestName := by
  rw [temporaryFile, String.utf8ByteSize_append] at short
  exact Nat.le_trans (Nat.le_add_right _ _) short

end Places

section Prepare

variable {files : FileSystem} {folder : Path} {base : Location} {name : QualifiedName}

/-- In a folder that is there the temporary file of an output is written, unless its path
or its name is too long. -/
theorem writeTemporary_cases {holder : Path} (tidy : Tidy files base)
    (leads : Leads files holder (base ++ sourceFolders name)) (plain : IsPlainName name)
    (temporary : temporaryFor (pathFor folder name) = holder.push (.ofNames [temporaryFile name])) :
    (writeFile (temporaryFor (pathFor folder name)) [] files =
          (.ok (), files.put (base ++ sourceFolders name ++ [temporaryFile name]) (.file [])) ∧
        Points files (temporaryFor (pathFor folder name)) (base ++ sourceFolders name)
          (temporaryFile name) ∧
        (temporaryFor (pathFor folder name)).text.utf8ByteSize ≤ longestPath) ∨
      (writeFile (temporaryFor (pathFor folder name)) [] files = (.error .nameTooLong, files) ∧
        (longestPath < (temporaryFor (pathFor folder name)).text.utf8ByteSize ∨
          longestName < (temporaryFile name).utf8ByteSize)) := by
  have proper : ∀ other ∈ [temporaryFile name], IsPathName other := by
    intro other member
    rw [List.mem_singleton.mp member]
    exact plain.temporary
  have longer : (temporaryFor (pathFor folder name)).Extends holder ([] ++ [temporaryFile name]) := by
    rw [temporary]
    exact Path.push_extends (List.cons_ne_nil _ _) proper
  have noZero : '\x00' ∉ (temporaryFor (pathFor folder name)).text.toList := by
    rw [temporary]
    exact zero_not_mem_push leads.noZero (List.cons_ne_nil _ _) proper
  by_cases long : longestPath < (temporaryFor (pathFor folder name)).text.utf8ByteSize
  · refine .inr ⟨?_, .inl long⟩
    rw [writeFile, follow_too_long noZero long]
  have fits := Nat.le_of_not_lt long
  have follows : files.follow (temporaryFor (pathFor folder name)) =
      .ok (.entry (base ++ sourceFolders name) (temporaryFile name) false) :=
    leads.follow_eq longer noZero proper fits
  by_cases longName : longestName < (temporaryFile name).utf8ByteSize
  · refine .inr ⟨?_, .inr longName⟩
    unfold writeFile lookup?
    simp only [follows, longName, if_true, Bool.false_eq_true, if_false]
  · have points : Points files (temporaryFor (pathFor folder name)) (base ++ sourceFolders name)
        (temporaryFile name) := ⟨follows, Nat.le_of_not_lt longName⟩
    refine .inl ⟨points.writeFile_eq ?_ _, points, fits⟩
    intro there
    rw [List.append_assoc] at there
    exact (tidy.dotted there).mp rfl (dot_mem_temporaryFile name)

/-- Before a writer is opened, its folders are made and its temporary file is written,
unless something is too long. -/
theorem prepare_cases (tidy : Tidy files base) (leads : Leads files folder base)
    (plain : IsPlainName name) :
    ∃ middle, Widens files middle base ∧
      ((prepare (pathFor folder name) (temporaryFor (pathFor folder name)) files =
            (.ok (), middle.put (base ++ sourceFolders name ++ [temporaryFile name])
              (.file [])) ∧
          middle.itemAt? (base ++ sourceFolders name) = some .folder ∧
          Points middle (temporaryFor (pathFor folder name)) (base ++ sourceFolders name)
            (temporaryFile name) ∧
          (Fits folder name ↔ (pathFor folder name).text.utf8ByteSize ≤ longestPath)) ∨
        (prepare (pathFor folder name) (temporaryFor (pathFor folder name)) files =
            (.error .nameTooLong, middle) ∧ ¬Fits folder name)) := by
  obtain ⟨front, starts, parent, temporary⟩ := exists_places folder plain
  have noZero := zero_not_mem_pathFor plain leads.noZero
  obtain ⟨middle, widens, ⟨made, found⟩ | ⟨refused, long⟩⟩ :=
    tidy.ensureNested_cases leads starts noZero plain.folders (dotless_sourceFolders name)
  · have prepared : prepare (pathFor folder name) (temporaryFor (pathFor folder name)) files =
        writeFile (temporaryFor (pathFor folder name)) [] middle := by
      unfold prepare Action.andThen
      simp only [parent, made]
    have holderLeads := (widens.keeps.leads leads).holder starts noZero plain.folders
      (widens.tidy.enterAll_eq plain.folders found)
    refine ⟨middle, widens, ?_⟩
    rw [prepared]
    rcases writeTemporary_cases widens.tidy holderLeads plain temporary with
      ⟨written, points, fits⟩ | ⟨refused, long⟩
    · refine .inl ⟨written, found, points, fun whole => whole.1, fun short => ?_⟩
      exact ⟨short, fits, widens.tidy.short_of_folder found, points.short⟩
    · refine .inr ⟨refused, fun whole => ?_⟩
      rcases long with long | long
      · exact Nat.not_lt.mpr whole.2.1 long
      · exact Nat.not_lt.mpr whole.2.2.2 long
  · refine ⟨middle, widens, .inr ⟨?_, fun whole => ?_⟩⟩
    · unfold prepare Action.andThen
      simp only [parent, refused]
    · rcases long with long | ⟨piece, member, long⟩
      · exact Nat.not_lt.mpr whole.1 long
      · exact Nat.not_lt.mpr (whole.2.2.1 piece member) long

end Prepare

section Emit

variable {folder : Path} {base : Location} {generated : GeneratedUnit} {before : Disk}

theorem emit_of_refused {error : FileError} {files : FileSystem}
    (fresh : before.created.contains generated.qualifiedName = false)
    (refused : prepare (pathFor folder generated.qualifiedName)
      (temporaryFor (pathFor folder generated.qualifiedName)) before.files =
        (.error error, files)) :
    (filer folder).emit generated before = (.error error, { before with files }) := by
  simp only [Filer.emit, Action.andThen, create_filer, create, fresh, onFiles, refused,
    Bool.false_eq_true, if_false]

theorem emit_of_prepared {files : FileSystem}
    (fresh : before.created.contains generated.qualifiedName = false)
    (prepared : prepare (pathFor folder generated.qualifiedName)
      (temporaryFor (pathFor folder generated.qualifiedName)) before.files = (.ok (), files)) :
    (filer folder).emit generated before =
      finish ⟨generated.qualifiedName, generated.provenance,
          pathFor folder generated.qualifiedName,
          temporaryFor (pathFor folder generated.qualifiedName), Text.octets generated.text⟩
        { before with
          files, created := before.created.insert generated.qualifiedName } := by
  simp only [Filer.emit, Filer.writeOrDrop, Action.andThen, Action.done, create_filer,
    write_filer, finish_filer, create, write, fresh, onFiles, prepared, Bool.false_eq_true,
    if_false, List.nil_append]

/-- A writer whose paths fit moves its content to the file of its output. -/
theorem finish_of_points (before : Disk) (writer : DiskWriter) {parent : Location}
    {temporary last : String} {held : List UInt8}
    (temporaryPoints : Points before.files writer.temporary parent temporary)
    (points : Points before.files writer.path parent last)
    (there : before.files.itemAt? (parent ++ [temporary]) = some (.file held))
    (noFolder : before.files.itemAt? (parent ++ [last]) ≠ some .folder)
    (different : last ≠ temporary) :
    ∃ files, finish writer before = (.ok (), { before with
        files, outputs := before.outputs.insert writer.name ⟨writer.path, writer.provenance⟩ }) ∧
      files.working = before.files.working ∧
      ∀ location, files.itemAt? location =
        if location = parent ++ [last] then some (.file writer.content)
        else if location = parent ++ [temporary] then none
        else before.files.itemAt? location := by
  obtain ⟨files, written, keeps, changed⟩ := temporaryPoints.overwrite there writer.content
  have holds := changed (parent ++ [temporary])
  rw [if_pos rfl] at holds
  have moved := (temporaryPoints.kept keeps).moveFile_eq (points.kept keeps) holds
    (by rw [changed, if_neg (by simpa using different)]; exact noFolder)
  refine ⟨(files.erase (parent ++ [temporary])).put (parent ++ [last]) (.file writer.content),
    ?_, keeps.working, ?_⟩
  · unfold finish onFiles Action.andThen
    simp only [written, moved]
  · intro location
    rw [itemAt?_put _ (by simp), itemAt?_erase _ (by simp), changed]
    split_ifs <;> rfl

/-- A writer whose output has too long a path takes its temporary file away again. -/
theorem finish_of_long (before : Disk) (writer : DiskWriter) {parent : Location}
    {temporary : String} {held : List UInt8}
    (temporaryPoints : Points before.files writer.temporary parent temporary)
    (noZero : '\x00' ∉ writer.path.text.toList)
    (long : longestPath < writer.path.text.utf8ByteSize)
    (there : before.files.itemAt? (parent ++ [temporary]) = some (.file held)) :
    ∃ files, finish writer before = (.error .nameTooLong, { before with files }) ∧
      files.working = before.files.working ∧
      ∀ location, files.itemAt? location =
        if location = parent ++ [temporary] then none else before.files.itemAt? location := by
  obtain ⟨files, written, keeps, changed⟩ := temporaryPoints.overwrite there writer.content
  have stays := temporaryPoints.kept keeps
  have refused : moveFile writer.temporary writer.path files = (.error .nameTooLong, files) := by
    unfold moveFile
    simp only [stays.follows, follow_too_long noZero long]
  have holds := changed (parent ++ [temporary])
  rw [if_pos rfl] at holds
  have removed := stays.removeFile_eq holds
  refine ⟨files.erase (parent ++ [temporary]), ?_, keeps.working, ?_⟩
  · unfold finish drop onFiles Action.andThen
    simp only [written, refused, removed]
  · intro location
    rw [itemAt?_erase _ (by simp), changed]
    split_ifs <;> rfl

/-- What an emission leaves: only a fitting output is taken in, and only its file
changes. -/
structure Leaves (folder : Path) (base : Location) (generated : GeneratedUnit)
    (before after : Disk) : Prop where
  arranged : Arranged after.files base
  keeps : Keeps before.files after.files
  created : ∀ name, name ≠ generated.qualifiedName →
    after.created.contains name = before.created.contains name
  files : ∀ location, after.files.fileAt? location =
    if Fits folder generated.qualifiedName ∧
      location = base ++ sourceNames generated.qualifiedName
    then some (Text.octets generated.text) else before.files.fileAt? location

theorem temporary_free {files : FileSystem} (arranged : Arranged files base)
    (name : QualifiedName) :
    files.itemAt? (base ++ (sourceFolders name ++ [temporaryFile name])) = none := by
  cases there : files.itemAt? (base ++ (sourceFolders name ++ [temporaryFile name])) with
  | none => rfl
  | some item =>
    cases item with
    | folder => exact absurd (dot_mem_temporaryFile name) ((arranged.dotted there).mp rfl)
    | file content =>
      have ending := getLast?_temporaryFile name
      rcases arranged.placed (fileAt?_eq_some_iff.mpr there) with manifest | ⟨other, -, source⟩
      · have same := congrArg List.getLast? manifest
        rw [List.getLast?_concat] at same
        rw [show temporaryFile name = Manifest.fileName from Option.some.inj same] at ending
        exact absurd ending (by decide)
      · have same : temporaryFile name = sourceFile other :=
          List.head_eq_of_cons_eq (List.append_inj' source rfl).2
        exact absurd same (temporaryFile_ne_sourceFile name other)

theorem contains_insert_of_ne {names : NameSet} {name other : QualifiedName}
    (different : other ≠ name) : (names.insert name).contains other = names.contains other := by
  rw [Bool.eq_iff_iff, NameSet.contains_iff, NameSet.contains_iff, NameSet.mem_insert]
  simp [different]

theorem put_source {files after : FileSystem} {name : QualifiedName}
    {content : List UInt8} (arranged : Arranged files base) (plain : IsPlainName name)
    (working : after.working = files.working)
    (found : files.itemAt? (base ++ sourceFolders name) = some .folder)
    (short : (sourceFile name).utf8ByteSize ≤ longestName)
    (changed : ∀ location, after.itemAt? location =
      if location = base ++ sourceNames name then some (.file content)
      else files.itemAt? location) :
    Arranged after base ∧ Keeps files after ∧ ∀ location, after.fileAt? location =
      if location = base ++ sourceNames name then some content else files.fileAt? location := by
  have keeps : Keeps files after := by
    apply Keeps.of_changed working _ changed
    intro there
    exact (arranged.dotted there).mp rfl (dot_mem_sourceFile name)
  have filesAfter := @fileAt?_of_changed files after _ (some content) changed
  refine ⟨⟨?_, ?_⟩, keeps, filesAfter⟩
  · exact arranged.put keeps found short (by simp [dot_mem_sourceFile]) changed
  · intro names other there
    rw [filesAfter] at there
    split_ifs at there with same
    · exact .inr ⟨name, plain, List.append_cancel_left same⟩
    · exact arranged.placed there

/-- A writer that was opened for an output, with what its temporary file holds. -/
structure Opened (folder : Path) (base : Location) (middle : FileSystem) (held : List UInt8)
    (writer : DiskWriter) (disk : Disk) : Prop where
  arranged : Arranged middle base
  leads : Leads middle folder base
  plain : IsPlainName writer.name
  path : writer.path = pathFor folder writer.name
  found : middle.itemAt? (base ++ sourceFolders writer.name) = some .folder
  points : Points middle writer.temporary (base ++ sourceFolders writer.name)
    (temporaryFile writer.name)
  files : disk.files =
    middle.put (base ++ sourceFolders writer.name ++ [temporaryFile writer.name]) (.file held)

namespace Opened

variable {middle : FileSystem} {held : List UInt8} {writer : DiskWriter} {disk : Disk}

theorem free (opened : Opened folder base middle held writer disk) :
    middle.itemAt? (base ++ sourceFolders writer.name ++ [temporaryFile writer.name]) = none := by
  rw [List.append_assoc]
  exact temporary_free opened.arranged writer.name

theorem itemAt?_eq (opened : Opened folder base middle held writer disk) (location : Location) :
    disk.files.itemAt? location =
      if location = base ++ sourceFolders writer.name ++ [temporaryFile writer.name]
      then some (.file held) else middle.itemAt? location := by
  rw [opened.files]
  exact itemAt?_put middle (by simp) _ _

theorem keeps (opened : Opened folder base middle held writer disk) : Keeps middle disk.files := by
  apply Keeps.of_changed _ _ opened.itemAt?_eq
  · rw [opened.files]
    exact working_put _ _ _
  · rw [opened.free]
    simp

theorem finish_fits (opened : Opened folder base middle held writer disk)
    (fits : Fits folder writer.name) :
    ∃ after, finish writer disk = (.ok (), after) ∧ after.created = disk.created ∧
      Arranged after.files base ∧ Keeps middle after.files ∧
      ∀ location, after.files.fileAt? location =
        if location = base ++ sourceNames writer.name then some writer.content
        else middle.fileAt? location := by
  have short := short_sourceFile fits.2.2.2
  have noZero := zero_not_mem_pathFor opened.plain opened.leads.noZero
  have points := opened.arranged.toTidy.points opened.leads (pathFor_extends folder opened.plain)
    noZero opened.plain.names fits.1 short opened.found
  rw [← opened.path] at points
  have different : sourceFile writer.name ≠ temporaryFile writer.name :=
    (temporaryFile_ne_sourceFile _ _).symm
  have there := opened.itemAt?_eq
    (base ++ sourceFolders writer.name ++ [temporaryFile writer.name])
  rw [if_pos rfl] at there
  have noFolder : disk.files.itemAt?
      (base ++ sourceFolders writer.name ++ [sourceFile writer.name]) ≠ some .folder := by
    rw [opened.itemAt?_eq, if_neg (by simpa using different), List.append_assoc]
    intro isFolder
    exact (opened.arranged.dotted isFolder).mp rfl (dot_mem_sourceFile _)
  obtain ⟨files, finished, working, changed⟩ := finish_of_points disk writer
    (opened.points.kept opened.keeps) (points.kept opened.keeps) there noFolder different
  have changedMiddle (location : Location) : files.itemAt? location =
      if location = base ++ sourceNames writer.name then some (.file writer.content)
      else middle.itemAt? location := by
    rw [changed, opened.itemAt?_eq, List.append_assoc base _ [sourceFile _], ← sourceNames]
    split_ifs with same temporary
    · rfl
    · rw [temporary, opened.free]
    · rfl
  obtain ⟨arranged, keeps, filesAfter⟩ := put_source opened.arranged opened.plain
    (working.trans opened.keeps.working) opened.found short changedMiddle
  exact ⟨_, finished, rfl, arranged, keeps, filesAfter⟩

theorem widens_of_erased (opened : Opened folder base middle held writer disk)
    {files : FileSystem} (working : files.working = middle.working)
    (changed : ∀ location, files.itemAt? location =
      if location = base ++ sourceFolders writer.name ++ [temporaryFile writer.name] then none
      else middle.itemAt? location) : Widens middle files base := by
  have keeps : Keeps middle files := by
    apply Keeps.of_changed working _ changed
    rw [opened.free]
    simp
  refine ⟨opened.arranged.toTidy.erase keeps changed, keeps, ?_⟩
  intro location
  rw [@fileAt?_of_changed middle files _ none changed]
  split_ifs with same
  · rw [same, fileAt?_eq_none_iff.mpr (.inl opened.free)]
  · rfl

theorem finish_unfit (opened : Opened folder base middle held writer disk)
    (long : longestPath < writer.path.text.utf8ByteSize) :
    ∃ after, finish writer disk = (.error .nameTooLong, after) ∧ after.created = disk.created ∧
      Widens middle after.files base := by
  have noZero := zero_not_mem_pathFor opened.plain opened.leads.noZero
  rw [← opened.path] at noZero
  have there := opened.itemAt?_eq
    (base ++ sourceFolders writer.name ++ [temporaryFile writer.name])
  rw [if_pos rfl] at there
  obtain ⟨files, finished, working, changed⟩ := finish_of_long disk writer
    (opened.points.kept opened.keeps) noZero long there
  have changedMiddle (location : Location) : files.itemAt? location =
      if location = base ++ sourceFolders writer.name ++ [temporaryFile writer.name] then none
      else middle.itemAt? location := by
    rw [changed, opened.itemAt?_eq]
    split_ifs <;> rfl
  exact ⟨_, finished, rfl, opened.widens_of_erased (working.trans opened.keeps.working)
    changedMiddle⟩

end Opened

theorem opened_of_prepared {middle : FileSystem} {name : QualifiedName}
    (arranged : Arranged middle base) (leads : Leads middle folder base) (plain : IsPlainName name)
    (found : middle.itemAt? (base ++ sourceFolders name) = some .folder)
    (points : Points middle (temporaryFor (pathFor folder name)) (base ++ sourceFolders name)
      (temporaryFile name)) (before : Disk) (provenance : Provenance) (content : List UInt8) :
    Opened folder base middle []
      ⟨name, provenance, pathFor folder name, temporaryFor (pathFor folder name), content⟩
      { before with
        files := middle.put (base ++ sourceFolders name ++ [temporaryFile name]) (.file [])
        created := before.created.insert name } := by
  refine ⟨arranged, leads, plain, ?_, found, ?_, ?_⟩
  · dsimp only
  · dsimp only
    exact points
  · dsimp only

theorem emit_spec (arranged : Arranged before.files base) (leads : Leads before.files folder base)
    (plain : IsPlainName generated.qualifiedName)
    (fresh : before.created.contains generated.qualifiedName = false) :
    ∃ after, (filer folder).emit generated before =
        (if Fits folder generated.qualifiedName then .ok () else .error .nameTooLong, after) ∧
      Leaves folder base generated before after := by
  obtain ⟨middle, widens, ⟨prepared, found, points, fits_iff⟩ | ⟨refused, unfit⟩⟩ :=
    prepare_cases arranged.toTidy leads plain
  · have opened := opened_of_prepared (arranged.widen widens) (widens.keeps.leads leads) plain found
      points before generated.provenance (Text.octets generated.text)
    rw [emit_of_prepared fresh prepared]
    by_cases fits : Fits folder generated.qualifiedName
    · obtain ⟨after, finished, created, arrangedAfter, keeps, files⟩ := opened.finish_fits fits
      rw [finished, if_pos fits]
      refine ⟨after, rfl, arrangedAfter, widens.keeps.trans keeps, ?_, fun location => ?_⟩
      · intro name other
        rw [created]
        exact contains_insert_of_ne other
      · rw [files, widens.files]
        simp only [fits, true_and]
    · obtain ⟨after, finished, created, later⟩ :=
        opened.finish_unfit (Nat.lt_of_not_le (mt fits_iff.mpr fits))
      rw [finished, if_neg fits]
      refine ⟨after, rfl, (arranged.widen widens).widen later, widens.keeps.trans later.keeps,
        ?_, fun location => ?_⟩
      · intro name other
        rw [created]
        exact contains_insert_of_ne other
      · rw [if_neg (fun both => fits both.1)]
        exact (later.files location).trans (widens.files location)
  · refine ⟨{ before with files := middle }, ?_, ?_⟩
    · rw [emit_of_refused fresh refused, if_neg unfit]
    · refine ⟨arranged.widen widens, widens.keeps, fun _ _ => rfl, fun location => ?_⟩
      rw [if_neg (fun both => unfit both.1)]
      exact widens.files location

end Emit

/-- Whether the filer can take an output in, unless something is too long. -/
structure Ready (folder : Path) (base : Location) (disk : Disk) (name : QualifiedName) :
    Prop where
  arranged : Arranged disk.files base
  leads : Leads disk.files folder base
  plain : IsPlainName name
  fresh : disk.created.contains name = false

/-- Why an output is not taken in. -/
def fault (folder : Path) (name : QualifiedName) : Option FileError :=
  if Fits folder name then none else some .nameTooLong

theorem filer_independent (folder : Path) (base : Location) :
    (filer folder).Independent (Ready folder base) (fault folder) where
  answers := by
    intro generated before ready
    obtain ⟨after, ends, -⟩ := emit_spec ready.arranged ready.leads ready.plain ready.fresh
    rw [ends]
    unfold fault
    by_cases fits : Fits folder generated.qualifiedName
    · simp only [if_pos fits]
    · simp only [if_neg fits]
  others := by
    intro generated before name different own waits
    obtain ⟨after, ends, leaves⟩ := emit_spec own.arranged own.leads own.plain own.fresh
    rw [ends]
    refine ⟨leaves.arranged, leaves.keeps.leads own.leads, waits.plain, ?_⟩
    exact (leaves.created name different).trans waits.fresh

end Disk

end Stencil
