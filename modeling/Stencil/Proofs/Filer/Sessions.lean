import Stencil.Filer.Session
import Stencil.Proofs.Filer.Disk

/-!
# Filers agree on sessions

The filer on disk does what the one in memory does, as long as the names of the outputs are
short enough for the file system.  The two are related by a simulation: they know the same
names, and the files below the root are the texts that are kept in memory.  One session leads
from related states to related states, with the same result; so do any number of them.
-/

namespace Stencil

open FileSystem

namespace WriterSession

/-- What is kept of a session: its text, if the writer is finished and holds one. -/
def kept? (session : WriterSession) : Option MemoryOutput :=
  if session.finished then
    (Text.decode session.content).toOption.map fun text => ⟨text, session.provenance⟩
  else none

/-- Whether a session that is finished was given the octets of a text, in whatever chunks. -/
def Textual (session : WriterSession) : Prop :=
  session.finished = true → ∃ text, session.content = Text.octets text

/-- What comes of sessions if every name can be used once, and some are taken. -/
def verdicts : List QualifiedName → List WriterSession → List (Except FileError Unit)
  | _, [] => []
  | taken, session :: rest =>
    (if session.name ∈ taken then .error (.recreated session.name) else .ok ()) ::
      verdicts (session.name :: taken) rest

theorem kept?_of_dropped {session : WriterSession} (dropped : session.finished = false) :
    session.kept? = none := by
  unfold kept?
  rw [dropped]
  rfl

theorem kept?_of_finished {session : WriterSession} (finished : session.finished = true)
    {text : String} (content : session.content = Text.octets text) :
    session.kept? = some ⟨text, session.provenance⟩ := by
  unfold kept?
  rw [finished, content, Text.decode_octets]
  rfl

variable {σ ω : Type}

theorem runAll_cons (filer : FlushingFiler σ ω) (session : WriterSession)
    (rest : List WriterSession) (state : σ) :
    runAll filer (session :: rest) state =
      ((session.run filer state).1 :: (runAll filer rest (session.run filer state).2).1,
        (runAll filer rest (session.run filer state).2).2) := rfl

theorem run_of_refused {filer : FlushingFiler σ ω} {session : WriterSession} {before after : σ}
    {error : FileError}
    (refused : filer.create session.name session.provenance before = (.error error, after)) :
    session.run filer before = (.error error, after) := by
  unfold run Action.andThen
  simp only [refused]

theorem run_of_held {filer : FlushingFiler σ ω} {session : WriterSession}
    {before opened wrote after : σ} {writer written held : ω}
    (opens : filer.create session.name session.provenance before = (.ok writer, opened))
    (writes : filer.writeAll session.chunks writer opened = (.ok written, wrote))
    (flushes : (if session.flushed then filer.flushOrDrop written else Action.done written) wrote =
      (.ok held, after)) :
    session.run filer before =
      if session.finished then filer.finish held after else (.ok (), filer.drop held after) := by
  unfold run Action.andThen
  simp only [opens, writes, flushes]
  cases session.finished with
  | true => rfl
  | false => rfl

end WriterSession

/-- A writer that keeps what it is given keeps chunks as one text. -/
theorem Filer.writeAll_eq {σ ω : Type} {filer : Filer σ ω} {state : σ} {holding : List UInt8 → ω}
    (appends : ∀ content chunk,
      filer.write (holding content) chunk state = (.ok (holding (content ++ chunk)), state))
    (chunks : List (List UInt8)) (content : List UInt8) :
    filer.writeAll chunks (holding content) state =
      (.ok (holding (content ++ chunks.flatten)), state) := by
  induction chunks generalizing content with
  | nil =>
    rw [List.flatten_nil, List.append_nil]
    rfl
  | cons chunk rest ih =>
    rw [List.flatten_cons, ← List.append_assoc]
    unfold writeAll writeOrDrop Action.andThen
    simp only [appends]
    exact ih (content ++ chunk)

namespace Memory

theorem writeAll_eq (chunks : List (List UInt8)) (writer : MemoryWriter) (memory : Memory) :
    filer.writeAll chunks writer memory =
      (.ok { writer with content := writer.content ++ chunks.flatten }, memory) := by
  have appends (content chunk : List UInt8) : filer.write { writer with content } chunk memory =
      (.ok { writer with content := content ++ chunk }, memory) := rfl
  exact Filer.writeAll_eq appends chunks writer.content

theorem run_of_created {session : WriterSession} {memory : Memory}
    (created : session.name ∈ memory.created) :
    session.run flushing memory = (.error (.recreated session.name), memory) := by
  apply WriterSession.run_of_refused
  show create _ _ _ = _
  unfold create
  rw [if_pos (NameSet.contains_iff.mpr created)]

/-- A session for a name that is new keeps its text if it is finished. -/
theorem run_of_fresh {session : WriterSession} {memory : Memory} (textual : session.Textual)
    (fresh : session.name ∉ memory.created) :
    session.run flushing memory = (.ok (), {
      created := memory.created.insert session.name
      outputs :=
        match session.kept? with
        | some output => memory.outputs.insert session.name output
        | none => memory.outputs }) := by
  have opens : flushing.create session.name session.provenance memory =
      (.ok ⟨session.name, session.provenance, []⟩,
        { memory with created := memory.created.insert session.name }) := by
    show create _ _ _ = _
    unfold create
    rw [if_neg fun contained => fresh (NameSet.contains_iff.mp contained)]
  have flushes (writer : MemoryWriter) (state : Memory) :
      (if session.flushed then flushing.flushOrDrop writer else Action.done writer) state =
        (.ok writer, state) := by
    cases session.flushed with
    | true => rfl
    | false => rfl
  rw [WriterSession.run_of_held opens (writeAll_eq _ _ _) (flushes _ _)]
  cases finished : session.finished with
  | false =>
    rw [WriterSession.kept?_of_dropped finished]
    rfl
  | true =>
    obtain ⟨text, content⟩ := textual finished
    rw [WriterSession.kept?_of_finished finished content]
    show finish _ _ = _
    unfold finish
    rw [List.nil_append, ← WriterSession.content, content, Text.decode_octets]

theorem get?_run_of_fresh {session : WriterSession} {memory : Memory} (textual : session.Textual)
    (fresh : session.name ∉ memory.created) (name : QualifiedName) :
    (session.run flushing memory).2.outputs.get? name =
      if name = session.name then session.kept?.or (memory.outputs.get? name)
      else memory.outputs.get? name := by
  rw [run_of_fresh textual fresh]
  cases session.kept? with
  | none => simp
  | some output => exact NameMap.get?_insert _ _ _ _

/-- What sessions leave in memory: of every name that was not taken before, what its first
session keeps. -/
theorem get?_runAll {sessions : List WriterSession}
    (textual : ∀ session ∈ sessions, session.Textual) (memory : Memory) (name : QualifiedName) :
    (WriterSession.runAll flushing sessions memory).2.outputs.get? name =
      if memory.created.contains name then memory.outputs.get? name
      else ((sessions.find? fun session => decide (session.name = name)).bind
        WriterSession.kept?).or (memory.outputs.get? name) := by
  induction sessions generalizing memory with
  | nil =>
    split_ifs
    · rfl
    · rfl
  | cons session rest ih =>
    have later := ih (fun other member => textual other (List.mem_cons_of_mem _ member))
      (session.run flushing memory).2
    have own := textual session List.mem_cons_self
    rw [WriterSession.runAll_cons, later]
    have known {names : NameSet} (member : name ∈ names) : names.contains name = true :=
      NameSet.contains_iff.mpr member
    have unknown {names : NameSet} (absent : name ∉ names) : ¬names.contains name = true :=
      fun contained => absent (NameSet.contains_iff.mp contained)
    by_cases created : session.name ∈ memory.created
    · rw [run_of_created created]
      by_cases taken : name ∈ memory.created
      · rw [if_pos (known taken), if_pos (known taken)]
      · have different : session.name ≠ name := fun same => taken (same ▸ created)
        rw [if_neg (unknown taken), if_neg (unknown taken),
          List.find?_cons_of_neg (by simpa using different)]
    · rw [get?_run_of_fresh own created]
      have names : name ∈ (session.run flushing memory).2.created ↔
          name = session.name ∨ name ∈ memory.created := by
        rw [run_of_fresh own created, NameSet.mem_insert]
      by_cases taken : name ∈ memory.created
      · have different : name ≠ session.name := fun same => created (same ▸ taken)
        rw [if_pos (known (names.mpr (.inr taken))), if_pos (known taken), if_neg different]
      · by_cases same : name = session.name
        · rw [if_pos (known (names.mpr (.inl same))), if_neg (unknown taken), if_pos same,
            List.find?_cons_of_pos (by simpa using same.symm)]
          rfl
        · have absent : name ∉ (session.run flushing memory).2.created := by
            rw [names]
            exact fun either => either.elim same taken
          rw [if_neg (unknown absent), if_neg (unknown taken), if_neg same,
            List.find?_cons_of_neg (by simpa using Ne.symm same)]

/-- Every name can be used once. -/
theorem runAll_verdicts {sessions : List WriterSession}
    (textual : ∀ session ∈ sessions, session.Textual) {memory : Memory}
    {taken : List QualifiedName} (same : ∀ name, name ∈ taken ↔ name ∈ memory.created) :
    (WriterSession.runAll flushing sessions memory).1 = WriterSession.verdicts taken sessions := by
  induction sessions generalizing memory taken with
  | nil => rfl
  | cons session rest ih =>
    have own := textual session List.mem_cons_self
    have others : ∀ other ∈ rest, other.Textual :=
      fun other member => textual other (List.mem_cons_of_mem _ member)
    rw [WriterSession.runAll_cons, WriterSession.verdicts]
    by_cases created : session.name ∈ memory.created
    · rw [run_of_created created, if_pos ((same _).mpr created)]
      refine congrArg (List.cons _) (ih others ?_)
      intro name
      rw [List.mem_cons, same name]
      exact ⟨fun either => either.elim (fun equal => equal ▸ created) id, .inr⟩
    · rw [run_of_fresh own created, if_neg fun member => created ((same _).mp member)]
      refine congrArg (List.cons _) (ih others ?_)
      intro name
      rw [List.mem_cons, same name, NameSet.mem_insert]

end Memory

namespace Disk

variable {folder : Path} {base : Location}

@[simp] theorem create_flushing (root : Path) : (flushing root).create = create root := rfl

@[simp] theorem flush_flushing (root : Path) : (flushing root).flush = flush := rfl

theorem writeAll_eq (folder : Path) (chunks : List (List UInt8)) (writer : DiskWriter)
    (disk : Disk) : (flushing folder).writeAll chunks writer disk =
      (.ok { writer with content := writer.content ++ chunks.flatten }, disk) := by
  have appends (content chunk : List UInt8) :
      (filer folder).write { writer with content } chunk disk =
        (.ok { writer with content := content ++ chunk }, disk) := rfl
  exact Filer.writeAll_eq appends chunks writer.content

namespace Opened

variable {middle : FileSystem} {held : List UInt8} {writer : DiskWriter} {disk : Disk}

theorem write (opened : Opened folder base middle held writer disk) (content : List UInt8) :
    Opened folder base middle held { writer with content } disk :=
  ⟨opened.arranged, opened.leads, opened.plain, opened.path, opened.found, opened.points,
    opened.files⟩

theorem there (opened : Opened folder base middle held writer disk) :
    disk.files.itemAt? (base ++ sourceFolders writer.name ++ [temporaryFile writer.name]) =
      some (.file held) := by
  rw [opened.itemAt?_eq, if_pos rfl]

theorem flush_eq (opened : Opened folder base middle held writer disk) :
    ∃ files, flush writer disk = (.ok writer, { disk with files }) ∧
      Opened folder base middle writer.content writer { disk with files } := by
  have points := opened.points.kept opened.keeps
  have written := points.writeFile_eq (by rw [opened.there]; simp) writer.content
  rw [opened.files, put_put, ← opened.files] at written
  refine ⟨middle.put (base ++ sourceFolders writer.name ++ [temporaryFile writer.name])
    (.file writer.content), ?_, ?_⟩
  · unfold flush onFiles Action.andThen Action.done
    simp only [written]
  · exact ⟨opened.arranged, opened.leads, opened.plain, opened.path, opened.found, opened.points,
      rfl⟩

/-- Flushed or not, a writer is as before, and at most its temporary file has changed. -/
theorem flushOrDrop_eq (opened : Opened folder base middle held writer disk) (flushed : Bool) :
    ∃ files content, (if flushed then (flushing folder).flushOrDrop writer
        else Action.done writer) disk = (.ok writer, { disk with files }) ∧
      Opened folder base middle content writer { disk with files } := by
  cases flushed with
  | false => exact ⟨disk.files, held, rfl, opened⟩
  | true =>
    obtain ⟨files, flushes, later⟩ := opened.flush_eq
    refine ⟨files, writer.content, ?_, later⟩
    rw [if_pos rfl]
    unfold FlushingFiler.flushOrDrop
    rw [flush_flushing, flushes]

theorem drop_eq (opened : Opened folder base middle held writer disk) :
    ∃ files, drop writer disk = { disk with files } ∧ Widens middle files base := by
  have removed := (opened.points.kept opened.keeps).removeFile_eq opened.there
  refine ⟨disk.files.erase (base ++ sourceFolders writer.name ++ [temporaryFile writer.name]), ?_,
    opened.widens_of_erased opened.keeps.working ?_⟩
  · unfold drop onFiles
    simp only [removed]
  · intro location
    rw [itemAt?_erase _ (by simp), opened.itemAt?_eq]
    split_ifs <;> rfl

end Opened

theorem create_of_created {name : QualifiedName} {provenance : Provenance} {disk : Disk}
    (created : name ∈ disk.created) :
    (flushing folder).create name provenance disk = (.error (.recreated name), disk) := by
  show create folder name provenance disk = _
  unfold create
  rw [if_pos (NameSet.contains_iff.mpr created)]

theorem create_of_fresh {name : QualifiedName} {before : Disk} (arranged : Arranged before.files base)
    (leads : Leads before.files folder base) (plain : IsPlainName name) (fits : Fits folder name)
    (fresh : name ∉ before.created) (provenance : Provenance) :
    ∃ middle writer after, Widens before.files middle base ∧
      (flushing folder).create name provenance before = (.ok writer, after) ∧
      (writer.name = name ∧ writer.provenance = provenance ∧ writer.content = []) ∧
      (after.created = before.created.insert name ∧ after.outputs = before.outputs) ∧
      Opened folder base middle [] writer after := by
  obtain ⟨middle, widens, ⟨prepared, found, points, -⟩ | ⟨-, unfit⟩⟩ :=
    prepare_cases arranged.toTidy leads plain
  · have opened := opened_of_prepared (arranged.widen widens) (widens.keeps.leads leads) plain found
      points before provenance []
    refine ⟨middle, _, _, widens, ?opens, ⟨rfl, rfl, rfl⟩, ⟨?created, ?outputs⟩, opened⟩
    case created => rfl
    case outputs => rfl
    case opens =>
      show create folder name provenance before = _
      unfold create onFiles
      rw [if_neg fun contained => fresh (NameSet.contains_iff.mp contained)]
      simp only [prepared]
  · exact absurd fits unfit

theorem create_of_long {name : QualifiedName} {before : Disk} (arranged : Arranged before.files base)
    (leads : Leads before.files folder base) (plain : IsPlainName name)
    (long : longestName < (temporaryFile name).utf8ByteSize) (fresh : name ∉ before.created)
    (provenance : Provenance) :
    ∃ files, (flushing folder).create name provenance before =
      (.error .nameTooLong, { before with files }) := by
  obtain ⟨middle, -, ⟨-, -, points, -⟩ | ⟨refused, -⟩⟩ :=
    prepare_cases arranged.toTidy leads plain
  · exact absurd points.short (Nat.not_le.mpr long)
  · refine ⟨middle, ?_⟩
    show create folder name provenance before = _
    unfold create onFiles
    rw [if_neg fun contained => fresh (NameSet.contains_iff.mp contained)]
    simp only [refused]

/-- What a session leaves on disk: its name is taken, and its output is there if it was
finished. -/
structure Does (folder : Path) (base : Location) (session : WriterSession) (before after : Disk) :
    Prop where
  created : after.created = before.created.insert session.name
  outputs : after.outputs =
    if session.finished then
      before.outputs.insert session.name ⟨pathFor folder session.name, session.provenance⟩
    else before.outputs
  arranged : Arranged after.files base
  keeps : Keeps before.files after.files
  files : ∀ location, after.files.fileAt? location =
    if session.finished = true ∧ location = base ++ sourceNames session.name
    then some session.content else before.files.fileAt? location

/-- A session for a name that is new and short enough succeeds. -/
theorem run_of_fresh {session : WriterSession} {before : Disk}
    (arranged : Arranged before.files base) (leads : Leads before.files folder base)
    (plain : IsPlainName session.name) (fits : Fits folder session.name)
    (fresh : session.name ∉ before.created) :
    ∃ after, session.run (flushing folder) before = (.ok (), after) ∧
      Does folder base session before after := by
  obtain ⟨middle, writer, started, widens, opens, ⟨name, provenance, empty⟩, ⟨created, outputs⟩,
    opened⟩ := create_of_fresh arranged leads plain fits fresh session.provenance
  have written := opened.write (writer.content ++ session.chunks.flatten)
  obtain ⟨heldFiles, held, flushes, ready⟩ := written.flushOrDrop_eq session.flushed
  rw [WriterSession.run_of_held opens (writeAll_eq folder _ _ _) flushes]
  cases finished : session.finished with
  | true =>
    obtain ⟨after, finishes, createdAfter, arrangedAfter, keeps, filesAfter⟩ :=
      ready.finish_fits (name.symm ▸ fits)
    refine ⟨after, finishes, createdAfter.trans created, ?_, arrangedAfter,
      widens.keeps.trans keeps, ?_⟩
    · rw [outputs_of_finish finishes, finished, if_pos rfl]
      show started.outputs.insert writer.name ⟨writer.path, writer.provenance⟩ = _
      rw [outputs, opened.path, name, provenance]
    · intro location
      rw [filesAfter, widens.files, finished]
      simp only [name, empty, true_and, List.nil_append]
      rfl
  | false =>
    obtain ⟨droppedFiles, dropped, later⟩ := ready.drop_eq
    refine ⟨{ started with files := droppedFiles }, ?_, created, ?_,
      (arranged.widen widens).widen later, widens.keeps.trans later.keeps, ?_⟩
    · exact congrArg (Prod.mk _) dropped
    · rw [finished]
      exact outputs
    · intro location
      rw [finished, if_neg fun both => Bool.false_ne_true both.1]
      exact (later.files location).trans (widens.files location)

/-- The simulation: a filer on disk that knows what one in memory knows, with the texts of the
latter in its files. -/
structure Mirrors (folder : Path) (base : Location) (memory : Memory) (disk : Disk) : Prop where
  arranged : Arranged disk.files base
  leads : Leads disk.files folder base
  created : disk.created = memory.created
  outputs : ∀ name, disk.outputs.get? name =
    (memory.outputs.get? name).map fun output => ⟨pathFor folder name, output.provenance⟩
  /-- Outputs have names that the file system takes. -/
  placed : ∀ name output, memory.outputs.get? name = some output →
    IsPlainName name ∧ Fits folder name
  files : ∀ name, disk.files.fileAt? (base ++ sourceNames name) =
    (memory.outputs.get? name).map fun output => Text.octets output.text
  /-- No other files are there. -/
  only : ∀ names content, disk.files.fileAt? (base ++ names) = some content →
    ∃ name, names = sourceNames name

/-- An empty folder is what an empty memory is mirrored by. -/
theorem mirrors_of_isBare {files : FileSystem} (leads : Leads files folder base)
    (root : files.itemAt? base = some .folder) (bare : files.isBare base = true) :
    Mirrors folder base {} { files } := by
  have noFile := fileAt?_of_isBare root bare
  constructor
  case arranged => exact .of_isBare root bare
  case leads => exact leads
  case created => rfl
  case outputs => exact fun _ => rfl
  case placed => exact fun name output absent => by cases absent
  case files => exact fun name => noFile _
  case only =>
    intro names content found
    rw [noFile] at found
    cases found

theorem Mirrors.of_dropped {memory : Memory} {disk after : Disk} {session : WriterSession}
    (mirrors : Mirrors folder base memory disk) (dropped : session.finished = false)
    (does : Does folder base session disk after) :
    Mirrors folder base { memory with created := memory.created.insert session.name } after := by
  have files (location : Location) : after.files.fileAt? location = disk.files.fileAt? location := by
    rw [does.files, dropped, if_neg fun both => Bool.false_ne_true both.1]
  have outputs := does.outputs
  rw [dropped, if_neg Bool.false_ne_true] at outputs
  constructor
  case arranged => exact does.arranged
  case leads => exact does.keeps.leads mirrors.leads
  case created => rw [does.created, mirrors.created]
  case outputs =>
    rw [outputs]
    exact mirrors.outputs
  case placed => exact mirrors.placed
  case files =>
    intro name
    rw [files]
    exact mirrors.files name
  case only =>
    intro names content found
    rw [files] at found
    exact mirrors.only names content found

/-- A session that was finished adds its text in memory and its file on disk. -/
theorem Mirrors.of_finished {memory : Memory} {disk after : Disk} {session : WriterSession}
    (mirrors : Mirrors folder base memory disk) (finished : session.finished = true)
    (plain : IsPlainName session.name) (fits : Fits folder session.name) {text : String}
    (content : session.content = Text.octets text) (does : Does folder base session disk after) :
    Mirrors folder base {
      created := memory.created.insert session.name
      outputs := memory.outputs.insert session.name ⟨text, session.provenance⟩ } after := by
  have files (names : List String) : after.files.fileAt? (base ++ names) =
      if names = sourceNames session.name then some (Text.octets text)
      else disk.files.fileAt? (base ++ names) := by
    rw [does.files, finished, content]
    simp only [true_and, List.append_cancel_left_eq]
  have outputs := does.outputs
  rw [finished, if_pos rfl] at outputs
  constructor
  case arranged => exact does.arranged
  case leads => exact does.keeps.leads mirrors.leads
  case created => rw [does.created, mirrors.created]
  case outputs =>
    intro name
    rw [outputs, NameMap.get?_insert, NameMap.get?_insert, mirrors.outputs]
    by_cases same : name = session.name
    · rw [if_pos same, if_pos same, same]
      rfl
    · rw [if_neg same, if_neg same]
  case placed =>
    intro name output found
    rw [NameMap.get?_insert] at found
    by_cases same : name = session.name
    · rw [same]
      exact ⟨plain, fits⟩
    · rw [if_neg same] at found
      exact mirrors.placed name output found
  case files =>
    intro name
    rw [files, NameMap.get?_insert, mirrors.files]
    by_cases same : name = session.name
    · rw [if_pos same, if_pos (congrArg sourceNames same)]
      rfl
    · rw [if_neg same, if_neg fun equal => same (sourceNames_injective equal)]
  case only =>
    intro names other found
    rw [files] at found
    by_cases same : names = sourceNames session.name
    · exact ⟨session.name, same⟩
    · rw [if_neg same] at found
      exact mirrors.only names other found

/-- One session has the same result in both, and the states match again. -/
theorem Mirrors.run {memory : Memory} {disk : Disk} (mirrors : Mirrors folder base memory disk)
    {session : WriterSession} (plain : IsPlainName session.name) (textual : session.Textual)
    (fits : Fits folder session.name) :
    (session.run (flushing folder) disk).1 = (session.run Memory.flushing memory).1 ∧
      Mirrors folder base (session.run Memory.flushing memory).2
        (session.run (flushing folder) disk).2 := by
  by_cases created : session.name ∈ memory.created
  · have refused := WriterSession.run_of_refused
      (@create_of_created folder session.name session.provenance disk (mirrors.created ▸ created))
    rw [Memory.run_of_created created, refused]
    exact ⟨rfl, mirrors⟩
  · obtain ⟨after, ends, does⟩ := run_of_fresh mirrors.arranged mirrors.leads plain fits
      (mirrors.created ▸ created)
    rw [Memory.run_of_fresh textual created, ends]
    refine ⟨rfl, ?_⟩
    cases finished : session.finished with
    | true =>
      obtain ⟨text, content⟩ := textual finished
      rw [WriterSession.kept?_of_finished finished content]
      exact mirrors.of_finished finished plain fits content does
    | false =>
      rw [WriterSession.kept?_of_dropped finished]
      exact mirrors.of_dropped finished does

/-- Any number of sessions have the same results in both, and the states match in the end. -/
theorem Mirrors.runAll {sessions : List WriterSession}
    (plain : ∀ session ∈ sessions, IsPlainName session.name)
    (textual : ∀ session ∈ sessions, session.Textual)
    (fits : ∀ session ∈ sessions, Fits folder session.name) {memory : Memory} {disk : Disk}
    (mirrors : Mirrors folder base memory disk) :
    (WriterSession.runAll (flushing folder) sessions disk).1 =
        (WriterSession.runAll Memory.flushing sessions memory).1 ∧
      Mirrors folder base (WriterSession.runAll Memory.flushing sessions memory).2
        (WriterSession.runAll (flushing folder) sessions disk).2 := by
  induction sessions generalizing memory disk with
  | nil => exact ⟨rfl, mirrors⟩
  | cons session rest ih =>
    obtain ⟨result, next⟩ := mirrors.run (plain session List.mem_cons_self)
      (textual session List.mem_cons_self) (fits session List.mem_cons_self)
    obtain ⟨results, last⟩ := ih (fun other member => plain other (List.mem_cons_of_mem _ member))
      (fun other member => textual other (List.mem_cons_of_mem _ member))
      (fun other member => fits other (List.mem_cons_of_mem _ member)) next
    rw [WriterSession.runAll_cons, WriterSession.runAll_cons, result, results]
    exact ⟨rfl, last⟩

/-- What can be seen of two filers that agree, the one on disk below a folder. -/
structure Agrees (folder : Path) (base : Location) (memory : Memory) (disk : Disk) : Prop where
  /-- Both have outputs for the same names, with the same provenance. -/
  outputs : ∀ name, disk.outputs.get? name =
    (memory.outputs.get? name).map fun output => ⟨pathFor folder name, output.provenance⟩
  /-- The file of an output holds its text. -/
  texts : ∀ name output, memory.outputs.get? name = some output →
    disk.files.find (pathFor folder name) = .ok (.file (Text.octets output.text)) ∧
      disk.files.readText (pathFor folder name) = .ok output.text
  /-- There are no other files in the folder, also none that were left by sessions. -/
  only : ∀ names content, disk.files.fileAt? (base ++ names) = some content →
    ∃ name output, memory.outputs.get? name = some output ∧ names = sourceNames name ∧
      content = Text.octets output.text

theorem Mirrors.agrees {memory : Memory} {disk : Disk} (mirrors : Mirrors folder base memory disk) :
    Agrees folder base memory disk where
  outputs := mirrors.outputs
  texts := by
    intro name output kept
    obtain ⟨plain, fits⟩ := mirrors.placed name output kept
    have there : disk.files.fileAt? (base ++ (sourceFolders name ++ [sourceFile name])) =
        some (Text.octets output.text) := by
      rw [← sourceNames, mirrors.files, kept]
      rfl
    have found := fileAt?_eq_some_iff.mp there
    have points := mirrors.arranged.toTidy.points mirrors.leads (pathFor_extends folder plain)
      (zero_not_mem_pathFor plain mirrors.leads.noZero) plain.names fits.1
      (short_sourceFile fits.2.2.2) (mirrors.arranged.nested found)
    have finds : disk.files.find (pathFor folder name) = .ok (.file (Text.octets output.text)) := by
      rw [points.find_eq, List.append_assoc, found]
    refine ⟨finds, ?_⟩
    unfold readText
    simp only [finds, Text.decode_octets]
  only := by
    intro names content found
    obtain ⟨name, rfl⟩ := mirrors.only names content found
    rw [mirrors.files] at found
    obtain ⟨output, kept, rfl⟩ := Option.map_eq_some_iff.mp found
    exact ⟨name, output, kept, rfl, rfl⟩

/-- The two filers agree on sessions of all kinds: a fresh filer in memory, and a fresh one on
disk whose root is an empty folder, if the names are such that the file system takes them.
Every session that is the first for its name succeeds in both, and every other is refused when
its writer is to be opened; what the first session of a name wrote is the output, if it was
finished. -/
theorem runAll_agrees {files : FileSystem} (leads : Leads files folder base)
    (root : files.itemAt? base = some .folder) (bare : files.isBare base = true)
    {sessions : List WriterSession} (plain : ∀ session ∈ sessions, IsPlainName session.name)
    (textual : ∀ session ∈ sessions, session.Textual)
    (fits : ∀ session ∈ sessions, Fits folder session.name) :
    (WriterSession.runAll (flushing folder) sessions { files }).1 =
        (WriterSession.runAll Memory.flushing sessions {}).1 ∧
      (WriterSession.runAll Memory.flushing sessions {}).1 = WriterSession.verdicts [] sessions ∧
      Agrees folder base (WriterSession.runAll Memory.flushing sessions {}).2
        (WriterSession.runAll (flushing folder) sessions { files }).2 ∧
      ∀ name, (WriterSession.runAll Memory.flushing sessions {}).2.outputs.get? name =
        (sessions.find? fun session => decide (session.name = name)).bind
          WriterSession.kept? := by
  obtain ⟨results, mirrors⟩ := (mirrors_of_isBare leads root bare).runAll plain textual fits
  refine ⟨results, ?_, mirrors.agrees, ?_⟩
  · apply Memory.runAll_verdicts textual
    intro name
    exact iff_of_false List.not_mem_nil NameSet.not_mem_empty
  · intro name
    rw [Memory.get?_runAll textual, if_neg fun contained =>
      NameSet.not_mem_empty (NameSet.contains_iff.mp contained)]
    exact Option.or_none

/-- A folder without anything in it. -/
def emptyRoot : FileSystem := ({} : FileSystem).put ["root"] .folder

/-- A session that hands over a text of one character in two chunks. -/
def splitSession (name : QualifiedName) (flushed finished : Bool) : WriterSession :=
  ⟨name, NameSet.empty, [[0xC3], [0xA9]], flushed, finished⟩

/-- Outputs that are finished, given up, and tried again. -/
def mixedSessions : List WriterSession := [
  splitSession "app.A" true true,
  splitSession "app.B" true false,
  splitSession "app.A" false true,
  splitSession "app.B" false true,
  splitSession "C" false true]

theorem leads_emptyRoot : Leads emptyRoot ⟨"root"⟩ ["root"] :=
  ⟨by decide, by decide +kernel⟩

theorem textual_splitSession (name : QualifiedName) (flushed finished : Bool) :
    (splitSession name flushed finished).Textual := by
  intro _
  refine ⟨"é", ?_⟩
  show [0xC3, 0xA9] = Text.octets "é"
  decide +kernel

theorem textual_mixedSessions : ∀ session ∈ mixedSessions, session.Textual := by
  intro session member
  simp only [mixedSessions, List.mem_cons, List.not_mem_nil, or_false] at member
  rcases member with rfl | rfl | rfl | rfl | rfl
  all_goals exact textual_splitSession _ _ _

/-- Three sessions succeed, and two outputs are there in the end. -/
theorem runAll_agrees_mixedSessions :
    Agrees ⟨"root"⟩ ["root"] (WriterSession.runAll Memory.flushing mixedSessions {}).2
        (WriterSession.runAll (flushing ⟨"root"⟩) mixedSessions { files := emptyRoot }).2 ∧
      (WriterSession.runAll (flushing ⟨"root"⟩) mixedSessions { files := emptyRoot }).1 =
        [.ok (), .ok (), .error (.recreated "app.A"), .error (.recreated "app.B"), .ok ()] ∧
      (WriterSession.runAll (flushing ⟨"root"⟩) mixedSessions
        { files := emptyRoot }).2.outputs.names = ["C", "app.A"] := by
  refine ⟨?_, by decide +kernel, by decide +kernel⟩
  have fits : ∀ session ∈ mixedSessions, Fits ⟨"root"⟩ session.name := by decide +kernel
  have plain : ∀ session ∈ mixedSessions, IsPlainName session.name := by
    unfold IsPlainName
    decide +kernel
  exact (runAll_agrees leads_emptyRoot rfl (by decide +kernel) plain textual_mixedSessions
    fits).2.2.1

/-- A name that is longer than the name of a file can be. -/
@[irreducible] def longName : QualifiedName := String.ofList (List.replicate 300 'a')

theorem eq_of_mem_longName {c : Char} (member : c ∈ longName.toList) : c = 'a' := by
  unfold longName at member
  rw [String.toList_ofList] at member
  exact List.eq_of_mem_replicate member

theorem split_longName : Text.split '.' longName = [longName] := by
  have absent : '.' ∉ longName.toList := by
    intro dot
    cases eq_of_mem_longName dot
  unfold Text.split
  rw [Text.pieces_of_not_mem absent, List.map_singleton, String.ofList_toList]

theorem size_longName : longestName < longName.utf8ByteSize := by decide +kernel

theorem isPlainName_longName : IsPlainName longName := by
  intro piece member
  rw [split_longName, List.mem_singleton] at member
  subst member
  refine ⟨?_, ?_, ?_⟩
  · intro empty
    have size := size_longName
    rw [empty] at size
    exact Nat.not_lt_zero _ size
  · intro slash
    cases eq_of_mem_longName slash
  · intro zero
    cases eq_of_mem_longName zero

theorem temporaryFile_longName : longestName < (temporaryFile longName).utf8ByteSize := by
  unfold temporaryFile sourceFile
  rw [split_longName]
  simp only [String.utf8ByteSize_append, List.getLast?_singleton, Option.getD_some]
  have size := size_longName
  omega

/-- Without a limit on the names the filers differ: what is kept in memory under a long name
cannot be written to a file. -/
theorem runAll_differs_longName :
    Leads emptyRoot ⟨"root"⟩ ["root"] ∧ emptyRoot.itemAt? ["root"] = some .folder ∧
      emptyRoot.isBare ["root"] = true ∧ IsPlainName longName ∧
      (splitSession longName false true).Textual ∧
      (WriterSession.runAll Memory.flushing [splitSession longName false true] {}).1 = [.ok ()] ∧
      (WriterSession.runAll (flushing ⟨"root"⟩) [splitSession longName false true]
        { files := emptyRoot }).1 = [.error .nameTooLong] := by
  have textual := textual_splitSession longName false true
  have bare : emptyRoot.isBare ["root"] = true := by decide +kernel
  refine ⟨leads_emptyRoot, rfl, bare, isPlainName_longName, textual, ?_, ?_⟩
  · rw [WriterSession.runAll_cons, Memory.run_of_fresh textual NameSet.not_mem_empty]
    rfl
  · have mirrors := mirrors_of_isBare leads_emptyRoot rfl bare
    have fresh : longName ∉ NameSet.empty := NameSet.not_mem_empty
    obtain ⟨files, refused⟩ := create_of_long mirrors.arranged mirrors.leads
      isPlainName_longName temporaryFile_longName fresh NameSet.empty
    rw [WriterSession.runAll_cons, WriterSession.run_of_refused refused]
    rfl

end Disk

end Stencil
