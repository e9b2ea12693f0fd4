import Stencil.Proofs.FileSystem.Places
import Stencil.Proofs.Filer.Emission

/-!
# What the filer writes

Whatever the file system looks like and whatever a name holds, the filer changes files
at two places for it: that of the temporary file, and that of the output once this is
taken in.  The two are never the same, and neither is one name's temporary file another
name's output, since they have different endings.
-/

namespace Stencil

open FileSystem

namespace FileSystem

/-- The name at the end of a location has this character for its last one. -/
def EndsIn (location : Location) (ending : Char) : Prop :=
  ∃ name, location.getLast? = some name ∧ name.toList.getLast? = some ending

theorem EndsIn.ne {first second : Location} {ending other : Char} (ends : EndsIn first ending)
    (endsOther : EndsIn second other) (different : ending ≠ other) : first ≠ second := by
  rintro rfl
  obtain ⟨name, last, letter⟩ := ends
  obtain ⟨name, lastToo, letterToo⟩ := endsOther
  obtain rfl := Option.some.inj (last.symm.trans lastToo)
  exact different (Option.some.inj (letter.symm.trans letterToo))

/-- The place of a path ends in the name that is its last move. -/
theorem endsIn_placeOf {fs : FileSystem} {path : Path} {front : List String} {last : String}
    {ending : Char} (moves : path.moves = front ++ [last])
    (letter : last.toList.getLast? = some ending) (other : ending ≠ '.') :
    EndsIn (fs.placeOf path) ending := by
  have down := Disk.ne_dots_of_getLast? letter other
  refine ⟨last, ?_, letter⟩
  unfold placeOf
  rw [moves, walk_append, walk_names (by simpa using Ne.symm down), List.getLast?_concat]

end FileSystem

namespace Disk

theorem endsIn_temporary (fs : FileSystem) (path : Path) :
    EndsIn (fs.placeOf (temporaryFor path)) 'p' := by
  obtain ⟨-, ⟨-, moves⟩ | ⟨front, last, -, moves⟩⟩ := temporaryFor_cases path
  · exact endsIn_placeOf moves (getLast?_append_temporarySuffix "") (by decide)
  · exact endsIn_placeOf moves (getLast?_append_temporarySuffix last) (by decide)

/-- The path of an output, unless it ends with a slash or is empty, ends in the name of a
source. -/
theorem endsIn_output (fs : FileSystem) {folder : Path} {name : QualifiedName}
    (noSlash : (Text.split '/' (pathFor folder name).text).getLast? ≠ some "") :
    EndsIn (fs.placeOf (pathFor folder name)) 'a' := by
  obtain ⟨-, ⟨none_left, kept⟩ | ⟨front, last, -, -, moves⟩⟩ := Path.ofQualifiedName_cases name
  · refine absurd (Path.getLast?_split_push ?_) noSlash
    rw [kept]
    exact none_left
  · have letter := getLast?_append_sourceExtension last
    unfold pathFor
    cases absolute : (Path.ofQualifiedName name sourceExtension).isAbsolute with
    | true =>
      rw [Path.push_absolute absolute]
      exact endsIn_placeOf moves letter (by decide)
    | false =>
      have whole := @Path.moves_push folder _ absolute
      rw [moves, ← List.append_assoc] at whole
      exact endsIn_placeOf whole letter (by decide)

section Calls

theorem files_of_onFiles {α : Type} {action : Action FileSystem α} {before after : Disk}
    {result : Except FileError α} (ends : onFiles action before = (result, after)) :
    action before.files = (result, after.files) := by
  unfold onFiles at ends
  cases ends
  rfl

def foldersFor (fs : FileSystem) (path : Path) : List Location :=
  (path.parent?.elim [] Path.withFolders).map fs.placeOf

/-- Before a writer is opened, missing folders around its output are made, and then its
temporary file, if this goes well. -/
theorem prepare_outcomes (path temporary : Path) (fs : FileSystem) :
    (∃ error after, prepare path temporary fs = (.error error, after) ∧
        TouchesOnly [] (foldersFor fs path) fs after) ∨
      ∃ after, prepare path temporary fs = (.ok (), after) ∧
        TouchesOnly [fs.placeOf temporary] (foldersFor fs path) fs after ∧
        after.find temporary = .ok (.file []) := by
  have folders : ∃ result middle, TouchesOnly [] (foldersFor fs path) fs middle ∧
      prepare path temporary fs =
        match (result : Except FileError Unit) with
        | .ok _ => writeFile temporary [] middle
        | .error error => (.error error, middle) := by
    unfold prepare foldersFor Action.andThen
    cases path.parent? with
    | none => exact ⟨.ok (), fs, .refl _ _ _, rfl⟩
    | some parent =>
      have made := touchesOnly_ensureFolders fs parent
      rcases ends : ensureFolders parent fs with ⟨result, middle⟩
      rw [ends] at made
      refine ⟨result, middle, made, ?_⟩
      cases result with
      | error error => simp only [ends]
      | ok done => simp only [ends]
  obtain ⟨error | done, middle, made, prepared⟩ := folders
  · exact .inl ⟨error, middle, prepared, made⟩
  · rcases writes : writeFile temporary [] middle with ⟨error | done, after⟩
    · obtain rfl := writeFile_error writes
      exact .inl ⟨error, _, prepared.trans writes, made⟩
    · have written := touchesOnly_writeFile middle temporary []
      rw [writes, made.keeps.placeOf] at written
      exact .inr ⟨after, prepared.trans writes,
        (made.mono (List.nil_subset _) (List.Subset.refl _)).trans
          (written.mono (List.Subset.refl _) (List.nil_subset _)),
        find_of_writeFile writes⟩

theorem create_outcomes (root : Path) (name : QualifiedName) (provenance : Provenance)
    (before : Disk) :
    (name ∈ before.created ∧
        create root name provenance before = (.error (.recreated name), before)) ∨
      (∃ error files, create root name provenance before = (.error error, { before with files }) ∧
        TouchesOnly [] (foldersFor before.files (pathFor root name)) before.files files) ∨
      ∃ files, create root name provenance before =
          (.ok ⟨name, provenance, pathFor root name, temporaryFor (pathFor root name), []⟩,
            { before with files, created := before.created.insert name }) ∧
        TouchesOnly [before.files.placeOf (temporaryFor (pathFor root name))]
          (foldersFor before.files (pathFor root name)) before.files files ∧
        files.find (temporaryFor (pathFor root name)) = .ok (.file []) := by
  have outcomes := prepare_outcomes (pathFor root name) (temporaryFor (pathFor root name))
    before.files
  rcases create_cases root name provenance before with
    taken | ⟨-, error, files, fails, refused⟩ | ⟨-, files, succeeds, made⟩
  · exact .inl taken
  · rcases outcomes with ⟨_, _, ends, touches⟩ | ⟨_, ends, -⟩
    · cases ends.symm.trans fails
      exact .inr (.inl ⟨error, files, refused, touches⟩)
    · cases ends.symm.trans fails
  · rcases outcomes with ⟨_, _, ends, -⟩ | ⟨_, ends, touches, found⟩
    · cases ends.symm.trans succeeds
    · cases ends.symm.trans succeeds
      exact .inr (.inr ⟨files, made, touches, found⟩)

theorem changesOnly_create (folder : Path) (name : QualifiedName) (provenance : Provenance)
    (disk : Disk) :
    ChangesOnly [disk.files.placeOf (temporaryFor (pathFor folder name))] disk.files
      (create folder name provenance disk).2.files := by
  rcases create_outcomes folder name provenance disk with
    ⟨-, refused⟩ | ⟨error, files, refused, touches⟩ | ⟨files, made, touches, -⟩
  · rw [refused]
    exact .refl _ _
  · rw [refused]
    exact touches.changesOnly.mono (List.nil_subset _)
  · rw [made]
    exact touches.changesOnly

theorem touchesOnly_drop (writer : DiskWriter) (disk : Disk) :
    TouchesOnly [disk.files.placeOf writer.temporary] [] disk.files (drop writer disk).files :=
  touchesOnly_removeFile disk.files writer.temporary

/-- Writing a temporary file and moving it: unless both succeed, only the temporary file
has changed. -/
theorem commit_cases (temporary path : Path) (content : List UInt8) (fs : FileSystem) :
    (∃ error after, ((writeFile temporary content).andThen fun _ => moveFile temporary path) fs =
        (.error error, after) ∧ TouchesOnly [fs.placeOf temporary] [] fs after ∧
          (fs.HoldsFile temporary → after.HoldsFile temporary)) ∨
      ∃ after, ((writeFile temporary content).andThen fun _ => moveFile temporary path) fs =
          (.ok (), after) ∧
        TouchesOnly [fs.placeOf temporary, fs.placeOf path] [] fs after ∧
        after.find path = .ok (.file content) ∧
        (fs.placeOf temporary ≠ fs.placeOf path →
          after.itemAt? (fs.placeOf temporary) = none) := by
  have written := touchesOnly_writeFile fs temporary content
  unfold Action.andThen
  rcases writes : writeFile temporary content fs with ⟨error | done, middle⟩
  · rw [writes] at written
    obtain rfl := writeFile_error writes
    exact .inl ⟨error, _, rfl, written, id⟩
  rw [writes] at written
  have sameTemporary := written.keeps.placeOf temporary
  have samePath := written.keeps.placeOf path
  dsimp only at sameTemporary samePath
  rcases moves : moveFile temporary path middle with ⟨error | done, after⟩
  · obtain rfl := moveFile_error moves
    exact .inl ⟨error, _, moves, written, fun _ => ⟨content, find_of_writeFile writes⟩⟩
  · have moved := touchesOnly_moveFile middle temporary path
    obtain ⟨held, there, found, gone⟩ := find_of_moveFile moves
    rw [moves, sameTemporary, samePath] at moved
    rw [sameTemporary, fileAt?_of_writeFile writes] at there
    obtain rfl := Option.some.inj there
    rw [sameTemporary, samePath] at gone
    exact .inr ⟨after, moves,
      (written.mono (by simp) (List.Subset.refl _)).trans moved, found, gone⟩

theorem gone_of_drop {writer : DiskWriter} {disk : Disk}
    (holds : disk.files.HoldsFile writer.temporary) :
    (drop writer disk).files.itemAt? (disk.files.placeOf writer.temporary) = none := by
  obtain ⟨after, removes, gone⟩ := holds.removeFile
  unfold drop onFiles
  simp only [removes]
  exact gone

/-- Finishing a writer changes its temporary file and the file of its output, and without
success its temporary file alone.  Nothing is left at the place of the temporary file. -/
theorem finish_cases (writer : DiskWriter) (disk : Disk) :
    (∃ error after, finish writer disk = (.error error, after) ∧
        TouchesOnly [disk.files.placeOf writer.temporary] [] disk.files after.files ∧
        (disk.files.HoldsFile writer.temporary →
          after.files.itemAt? (disk.files.placeOf writer.temporary) = none)) ∨
      ∃ after, finish writer disk = (.ok (), after) ∧
        TouchesOnly [disk.files.placeOf writer.temporary, disk.files.placeOf writer.path] []
          disk.files after.files ∧
        after.files.find writer.path = .ok (.file writer.content) ∧
        (disk.files.placeOf writer.temporary ≠ disk.files.placeOf writer.path →
          after.files.itemAt? (disk.files.placeOf writer.temporary) = none) := by
  unfold finish
  rcases moved : onFiles ((writeFile writer.temporary writer.content).andThen fun _ =>
      moveFile writer.temporary writer.path) disk with ⟨error | done, state⟩
  all_goals
    have ends := files_of_onFiles moved
    simp only [moved]
    rcases commit_cases writer.temporary writer.path writer.content disk.files with
      ⟨failure, after, fails, touches, holds⟩ | ⟨after, succeeds, touches, found, gone⟩
  · rw [ends] at fails
    obtain ⟨-, rfl⟩ := Prod.mk.inj fails
    have dropped := touchesOnly_drop writer state
    rw [touches.keeps.placeOf] at dropped
    refine .inl ⟨error, _, rfl, touches.trans dropped, fun held => ?_⟩
    rw [← touches.keeps.placeOf]
    exact gone_of_drop (holds held)
  · rw [ends] at succeeds
    cases succeeds
  · rw [ends] at fails
    cases fails
  · rw [ends] at succeeds
    obtain ⟨-, rfl⟩ := Prod.mk.inj succeeds
    exact .inr ⟨_, rfl, touches, found, gone⟩

end Calls

section Emit

variable {folder : Path} {generated : GeneratedUnit} {before after : Disk}

/-- The places of the files that the filer writes for a name. -/
def placesFor (fs : FileSystem) (folder : Path) (name : QualifiedName) : List Location :=
  (writesFor folder name).map fs.placeOf

/-- An output that is taken in is the file at its place. -/
theorem emits_footprint (emits : (filer folder).Emits generated before after) :
    ChangesOnly (placesFor before.files folder generated.qualifiedName) before.files
        after.files ∧
      after.files.fileAt? (before.files.placeOf (pathFor folder generated.qualifiedName)) =
        some (Text.octets generated.text) ∧
      ∀ fs : FileSystem, EndsIn (fs.placeOf (pathFor folder generated.qualifiedName)) 'a' := by
  obtain ⟨writer, opened, created, finished⟩ := emits_filer emits
  have opens := changesOnly_create folder generated.qualifiedName generated.provenance before
  rw [created] at opens
  rcases finish_cases (filled folder generated) opened with
    ⟨error, state, fails, -⟩ | ⟨state, succeeds, touches, found, -⟩
  · rw [finished] at fails
    cases fails
  · rw [finished] at succeeds
    obtain ⟨-, rfl⟩ := Prod.mk.inj succeeds
    have changes := touches.changesOnly
    simp only [filled] at changes found
    have content := fileAt?_of_find found
    rw [changes.keeps.placeOf, opens.keeps.placeOf] at content
    rw [opens.keeps.placeOf, opens.keeps.placeOf] at changes
    refine ⟨(opens.mono ?_).trans changes, content,
      fun fs => endsIn_output fs (noSlash_of_find found)⟩
    exact List.cons_subset_cons _ (List.nil_subset _)

theorem refuses_footprint {error : FileError}
    (refuses : (filer folder).Refuses generated before error after) :
    ChangesOnly [before.files.placeOf (temporaryFor (pathFor folder generated.qualifiedName))]
      before.files after.files := by
  have opens := changesOnly_create folder generated.qualifiedName generated.provenance before
  rcases refuses_filer refuses with failed | ⟨writer, opened, created, failed⟩
  · rw [failed] at opens
    exact opens
  · rw [created] at opens
    rcases finish_cases (filled folder generated) opened with
      ⟨failure, state, fails, touches, -⟩ | ⟨state, succeeds, -⟩
    · rw [failed] at fails
      obtain ⟨-, rfl⟩ := Prod.mk.inj fails
      have changes := touches.changesOnly
      simp only [filled] at changes
      rw [opens.keeps.placeOf] at changes
      exact opens.trans changes
    · rw [failed] at succeeds
      cases succeeds

end Emit

end Disk

end Stencil
