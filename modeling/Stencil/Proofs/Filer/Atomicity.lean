import Stencil.Proofs.Filer.Footprint
import Stencil.Proofs.Filer.Sessions

/-!
# A session is taken in whole or not at all

Whatever the files look like, nothing is seen of an output while its writer is open.  When
the writer is gone, either its whole content is in the file of the output, or the file and the
outputs of the filer are as before, at whichever call the session failed.  A temporary file is
left in neither case, and besides it only missing folders around the output are made.

`FlushingFiler.Holds` says what a writer was given so far, in whatever order it was written
to and flushed.  On disk every call keeps the invariant `Disk.Holding`, from which both ends of
a session follow.
-/

namespace Stencil

open FileSystem

/-- The states in which a writer is open, with what it was given so far. -/
inductive FlushingFiler.Holds {σ ω : Type} (filer : FlushingFiler σ ω) (name : QualifiedName)
    (provenance : Provenance) (before : σ) : List UInt8 → ω → σ → Prop where
  | opened {writer : ω} {after : σ}
      (opens : filer.create name provenance before = (.ok writer, after)) :
      Holds filer name provenance before [] writer after
  | written {content chunk : List UInt8} {writer next : ω} {state after : σ}
      (earlier : Holds filer name provenance before content writer state)
      (writes : filer.write writer chunk state = (.ok next, after)) :
      Holds filer name provenance before (content ++ chunk) next after
  | flushed {content : List UInt8} {writer next : ω} {state after : σ}
      (earlier : Holds filer name provenance before content writer state)
      (flushes : filer.flush writer state = (.ok next, after)) :
      Holds filer name provenance before content next after

namespace FlushingFiler.Holds

variable {σ ω : Type} {filer : FlushingFiler σ ω} {name : QualifiedName}
  {provenance : Provenance} {before state after : σ} {content : List UInt8} {writer next : ω}

theorem writeAll {chunks : List (List UInt8)}
    (holds : filer.Holds name provenance before content writer state)
    (writes : filer.writeAll chunks writer state = (.ok next, after)) :
    filer.Holds name provenance before (content ++ chunks.flatten) next after := by
  induction chunks generalizing content writer state with
  | nil =>
    cases writes
    rw [List.flatten_nil, List.append_nil]
    exact holds
  | cons chunk rest ih =>
    unfold Filer.writeAll Filer.writeOrDrop Action.andThen at writes
    rcases first : filer.write writer chunk state with ⟨error | middle, wrote⟩
    · simp only [first] at writes
      cases writes
    · simp only [first] at writes
      rw [List.flatten_cons, ← List.append_assoc]
      exact ih (.written holds first) writes

theorem flushIf {wanted : Bool} (holds : filer.Holds name provenance before content writer state)
    (flushes : (if wanted then filer.flushOrDrop writer else Action.done writer) state =
      (.ok next, after)) :
    filer.Holds name provenance before content next after := by
  cases wanted with
  | false =>
    cases flushes
    exact holds
  | true =>
    rw [if_pos rfl, flushOrDrop] at flushes
    rcases ends : filer.flush writer state with ⟨error | middle, wrote⟩
    · rw [ends] at flushes
      cases flushes
    · rw [ends] at flushes
      cases flushes
      exact .flushed holds ends

end FlushingFiler.Holds

namespace Disk

/-- The temporary file of an output is never at the place of the output. -/
theorem placeOf_temporaryFor_ne (fs : FileSystem) (path : Path) :
    fs.placeOf (temporaryFor path) ≠ fs.placeOf path := by
  obtain ⟨absolute, ⟨-, moves⟩ | ⟨front, last, before, moves⟩⟩ := temporaryFor_cases path
  all_goals
    have start : fs.startOf (temporaryFor path) = fs.startOf path := by
      unfold startOf
      rw [absolute]
    unfold placeOf
    rw [start, moves]
  · rw [walk_append, walk_names (by decide)]
    intro same
    simpa using congrArg List.length same
  · rw [before, walk_append, walk_append]
    have down := ne_dots_of_getLast? (getLast?_append_temporarySuffix last) (by decide)
    rw [walk_names (by simpa using Ne.symm down)]
    show _ ≠ advance _ last
    unfold advance
    intro same
    split_ifs at same with dots
    · have shorter := congrArg List.length same
      simp at shorter
      omega
    · have longer := congrArg String.length (List.head_eq_of_cons_eq (List.append_inj' same rfl).2)
      have filled : 0 < temporarySuffix.length := by decide
      rw [String.length_append] at longer
      omega

/-- Nothing is seen of an output: its file and the outputs are as before, and only its
temporary file and missing folders around it have been touched. -/
structure Hidden (root : Path) (name : QualifiedName) (before after : Disk) : Prop where
  outputs : after.outputs = before.outputs
  file : after.files.fileAt? (before.files.placeOf (pathFor root name)) =
    before.files.fileAt? (before.files.placeOf (pathFor root name))
  found : ∀ content, before.files.find (pathFor root name) = .ok (.file content) →
    after.files.find (pathFor root name) = .ok (.file content)
  touches : TouchesOnly [before.files.placeOf (temporaryFor (pathFor root name))]
    (foldersFor before.files (pathFor root name)) before.files after.files

/-- An output is taken in: its file has the content, the outputs have gained its name, and
nothing else is touched but its temporary file and missing folders around it. -/
structure Committed (root : Path) (name : QualifiedName) (provenance : Provenance)
    (content : List UInt8) (before after : Disk) : Prop where
  file : after.files.find (pathFor root name) = .ok (.file content)
  outputs : after.outputs = before.outputs.insert name ⟨pathFor root name, provenance⟩
  touches : TouchesOnly
    [before.files.placeOf (temporaryFor (pathFor root name)),
      before.files.placeOf (pathFor root name)]
    (foldersFor before.files (pathFor root name)) before.files after.files

/-- A session is taken in whole or not at all. -/
structure Atomic (root : Path) (session : WriterSession) (before : Disk)
    (result : Except FileError Unit) (after : Disk) : Prop where
  /-- Nothing is seen while a writer is open for the output, whatever it was given so far. -/
  held : ∀ {content writer disk}, (flushing root).Holds session.name session.provenance before
    content writer disk → Hidden root session.name before disk
  /-- The output is taken in when its writer could be finished. -/
  committed : session.finished = true → result = .ok () →
    Committed root session.name session.provenance session.content before after
  /-- Nothing is seen of a session that drops its writer, or that fails at whichever call. -/
  undone : session.finished = false ∨ result ≠ .ok () → Hidden root session.name before after
  /-- When a writer that was opened is gone, so is its temporary file. -/
  cleared : ∀ {writer opened},
    create root session.name session.provenance before = (.ok writer, opened) →
      after.files.itemAt? (before.files.placeOf (temporaryFor (pathFor root session.name))) = none ∧
        after.created = before.created.insert session.name
  /-- A writer that could not be opened ends the session; at most folders were made for it,
  and the names are as before. -/
  refused : ∀ {error opened},
    create root session.name session.provenance before = (.error error, opened) →
      (result = .error error ∧ after = opened) ∧ after.created = before.created ∧
        TouchesOnly [] (foldersFor before.files (pathFor root session.name)) before.files after.files
  /-- A name that could not be opened can be tried again: as soon as the files permit it, there
  is a writer. -/
  retried : ∀ {error opened},
    create root session.name session.provenance before = (.error error, opened) →
      session.name ∉ before.created → ∀ files, (prepare (pathFor root session.name)
        (temporaryFor (pathFor root session.name)) files).1 = .ok () →
          ∃ writer last, create root session.name session.provenance { after with files } =
            (.ok writer, last)

/-- What an open writer has done: its temporary file is there, and nothing else is seen. -/
structure Holding (root : Path) (name : QualifiedName) (provenance : Provenance)
    (before : Disk) (content : List UInt8) (writer : DiskWriter) (disk : Disk) : Prop where
  writer_eq : writer =
    ⟨name, provenance, pathFor root name, temporaryFor (pathFor root name), content⟩
  created : disk.created = before.created.insert name
  holds : disk.files.HoldsFile (temporaryFor (pathFor root name))
  hidden : Hidden root name before disk

section Sessions

variable {root : Path} {name : QualifiedName} {provenance : Provenance} {before after disk : Disk}
  {content : List UInt8} {writer : DiskWriter}

theorem Hidden.of_touches (outputs : after.outputs = before.outputs)
    (touches : TouchesOnly [before.files.placeOf (temporaryFor (pathFor root name))]
      (foldersFor before.files (pathFor root name)) before.files after.files) :
    Hidden root name before after := by
  have file := touches.changesOnly.files (before.files.placeOf (pathFor root name))
    (by simpa using (placeOf_temporaryFor_ne before.files (pathFor root name)).symm)
  exact ⟨outputs, file,
    fun content found => (find_of_keeps touches.keeps found file).trans found, touches⟩

theorem Hidden.later (hidden : Hidden root name before disk)
    (outputs : after.outputs = disk.outputs)
    (touches : TouchesOnly [disk.files.placeOf (temporaryFor (pathFor root name))] []
      disk.files after.files) :
    Hidden root name before after := by
  rw [hidden.touches.keeps.placeOf] at touches
  exact .of_touches (outputs.trans hidden.outputs)
    (hidden.touches.trans (touches.mono (List.Subset.refl _) (List.nil_subset _)))

theorem holding_of_create (opens : create root name provenance before = (.ok writer, after)) :
    Holding root name provenance before [] writer after := by
  rcases create_outcomes root name provenance before with
    ⟨-, refused⟩ | ⟨error, files, refused, -⟩ | ⟨files, made, touches, found⟩
  · cases opens.symm.trans refused
  · cases opens.symm.trans refused
  · cases opens.symm.trans made
    exact ⟨rfl, rfl, ⟨[], found⟩, .of_touches rfl touches⟩

/-- A writer that cannot be opened leaves missing folders behind, and the names as before. -/
theorem touchesOnly_of_refused {error : FileError}
    (refused : create root name provenance before = (.error error, after)) :
    after.created = before.created ∧ after.outputs = before.outputs ∧
      TouchesOnly [] (foldersFor before.files (pathFor root name)) before.files after.files := by
  rcases create_outcomes root name provenance before with
    ⟨-, taken⟩ | ⟨failure, files, fails, touches⟩ | ⟨files, made, -⟩
  · cases refused.symm.trans taken
    exact ⟨rfl, rfl, .refl _ _ _⟩
  · cases refused.symm.trans fails
    exact ⟨rfl, rfl, touches⟩
  · cases refused.symm.trans made

namespace Holding

theorem temporary_eq (holding : Holding root name provenance before content writer disk) :
    writer.temporary = temporaryFor (pathFor root name) := by rw [holding.writer_eq]

theorem write (holding : Holding root name provenance before content writer disk)
    {chunk : List UInt8} {next : DiskWriter}
    (writes : Disk.write writer chunk disk = (.ok next, after)) :
    Holding root name provenance before (content ++ chunk) next after := by
  obtain ⟨rfl, rfl⟩ := write_eq_ok writes
  refine ⟨?_, holding.created, holding.holds, holding.hidden⟩
  rw [holding.writer_eq]

theorem flush_eq (holding : Holding root name provenance before content writer disk) :
    ∃ after, flush writer disk = (.ok writer, after) ∧
      Holding root name provenance before content writer after := by
  obtain ⟨files, writes, holds⟩ := holding.holds.writeFile writer.content
  have touches := touchesOnly_writeFile disk.files (temporaryFor (pathFor root name)) writer.content
  rw [writes] at touches
  refine ⟨{ disk with files }, ?_, holding.writer_eq, holding.created, holds,
    holding.hidden.later rfl touches⟩
  unfold flush onFiles Action.andThen Action.done
  simp only [holding.temporary_eq, writes]

theorem dropped (holding : Holding root name provenance before content writer disk) :
    (drop writer disk).created = before.created.insert name ∧
      (drop writer disk).files.itemAt?
        (before.files.placeOf (temporaryFor (pathFor root name))) = none ∧
      Hidden root name before (drop writer disk) := by
  have touches := touchesOnly_drop writer disk
  have gone : disk.files.HoldsFile writer.temporary → _ := gone_of_drop
  rw [holding.temporary_eq] at touches gone
  rw [holding.hidden.touches.keeps.placeOf] at gone
  exact ⟨holding.created, gone holding.holds, holding.hidden.later rfl touches⟩

/-- A writer that is finished leaves its output, and one that cannot be finished nothing but
folders. -/
theorem finished (holding : Holding root name provenance before content writer disk) :
    ∃ result after, finish writer disk = (result, after) ∧
      after.created = before.created.insert name ∧
      after.files.itemAt? (before.files.placeOf (temporaryFor (pathFor root name))) = none ∧
      match (result : Except FileError Unit) with
      | .error _ => Hidden root name before after
      | .ok _ => Committed root name provenance content before after := by
  have sameTemporary := holding.hidden.touches.keeps.placeOf (temporaryFor (pathFor root name))
  have samePath := holding.hidden.touches.keeps.placeOf (pathFor root name)
  have path : writer.path = pathFor root name := by rw [holding.writer_eq]
  have cases := finish_cases writer disk
  rw [holding.temporary_eq, path] at cases
  rcases cases with ⟨error, after, fails, touches, gone⟩ | ⟨after, succeeds, touches, found, gone⟩
  · refine ⟨_, after, fails, ?_, ?_, ?_⟩
    · rw [created_of_finish fails, holding.created]
    · rw [← sameTemporary]
      exact gone holding.holds
    · exact holding.hidden.later (outputs_of_finish_error fails) touches
  · refine ⟨_, after, succeeds, ?_, ?_, ?_, ?_, ?_⟩
    · rw [created_of_finish succeeds, holding.created]
    · rw [← sameTemporary]
      exact gone (placeOf_temporaryFor_ne _ _)
    · rw [found, holding.writer_eq]
    · rw [outputs_of_finish succeeds, holding.hidden.outputs, holding.writer_eq]
    · rw [sameTemporary, samePath] at touches
      exact (holding.hidden.touches.mono (by simp) (List.Subset.refl _)).trans
        (touches.mono (List.Subset.refl _) (List.nil_subset _))

theorem ended {session : WriterSession} (holding : Holding root session.name session.provenance
      before session.content writer disk) :
    ∃ result last, (if session.finished then finish writer disk else (.ok (), drop writer disk)) =
        (result, last) ∧
      last.created = before.created.insert session.name ∧
      last.files.itemAt? (before.files.placeOf (temporaryFor (pathFor root session.name))) = none ∧
      (session.finished = true → result = .ok () →
        Committed root session.name session.provenance session.content before last) ∧
      (session.finished = false ∨ result ≠ .ok () → Hidden root session.name before last) := by
  cases wanted : session.finished with
  | false =>
    obtain ⟨created, gone, hidden⟩ := holding.dropped
    exact ⟨_, _, rfl, created, gone, nofun, fun _ => hidden⟩
  | true =>
    obtain ⟨result, last, ends, created, gone, seen⟩ := holding.finished
    refine ⟨result, last, ends, created, gone, ?_, ?_⟩
    · rintro - rfl
      exact seen
    · intro unfinished
      cases result with
      | error error => exact seen
      | ok done => simp at unfinished

end Holding

theorem holding_of_holds
    (holds : (flushing root).Holds name provenance before content writer disk) :
    Holding root name provenance before content writer disk := by
  induction holds with
  | opened opens => exact holding_of_create opens
  | written earlier writes ih => exact ih.write writes
  | flushed earlier flushes ih =>
    obtain ⟨after, ends, later⟩ := ih.flush_eq
    cases ends.symm.trans flushes
    exact later

theorem holds_of_create (opens : create root name provenance before = (.ok writer, after)) :
    (flushing root).Holds name provenance before [] writer after := .opened opens

theorem exists_flushIf (holds : (flushing root).Holds name provenance before content writer disk)
    (wanted : Bool) :
    ∃ after, (if wanted then (flushing root).flushOrDrop writer else Action.done writer) disk =
      (.ok writer, after) := by
  cases wanted with
  | false => exact ⟨disk, rfl⟩
  | true =>
    obtain ⟨after, flushes, -⟩ := (holding_of_holds holds).flush_eq
    refine ⟨after, ?_⟩
    rw [if_pos rfl, FlushingFiler.flushOrDrop, flush_flushing, flushes]

/-- A session whose writer is opened comes to its end with all that was to be written. -/
theorem run_of_opened {session : WriterSession}
    (opens : create root session.name session.provenance before = (.ok writer, after)) :
    ∃ held disk, (flushing root).Holds session.name session.provenance before session.content
        held disk ∧
      session.run (flushing root) before =
        if session.finished then finish held disk else (.ok (), drop held disk) := by
  have writes := writeAll_eq root session.chunks writer after
  have written := (holds_of_create opens).writeAll writes
  obtain ⟨disk, flushes⟩ := exists_flushIf written session.flushed
  exact ⟨_, disk, written.flushIf flushes, WriterSession.run_of_held opens writes flushes⟩

theorem create_of_prepared (fresh : name ∉ disk.created)
    (prepared : (prepare (pathFor root name) (temporaryFor (pathFor root name)) disk.files).1 =
      .ok ()) : ∃ writer after, create root name provenance disk = (.ok writer, after) := by
  rcases create_cases root name provenance disk with
    ⟨taken, -⟩ | ⟨-, error, files, fails, -⟩ | ⟨-, files, -, made⟩
  · exact absurd taken fresh
  · rw [fails] at prepared
    cases prepared
  · exact ⟨_, _, made⟩

theorem run_of_refused {session : WriterSession} {error : FileError}
    (refused : create root session.name session.provenance before = (.error error, after)) :
    session.run (flushing root) before = (.error error, after) := by
  rw [← create_flushing] at refused
  exact WriterSession.run_of_refused refused

/-- Sessions are atomic on every tree of files, whatever the filer did before: a session ends
with the output in its file, or as if it had not been there. -/
theorem run_atomic (root : Path) (session : WriterSession) (before : Disk) :
    Atomic root session before (session.run (flushing root) before).1
      (session.run (flushing root) before).2 := by
  have held {content : List UInt8} {writer : DiskWriter} {disk : Disk}
      (holds : (flushing root).Holds session.name session.provenance before content writer disk) :
      Hidden root session.name before disk := (holding_of_holds holds).hidden
  rcases opens : create root session.name session.provenance before with ⟨error | writer, opened⟩
  · obtain ⟨created, outputs, touches⟩ := touchesOnly_of_refused opens
    have hidden : Hidden root session.name before opened :=
      .of_touches outputs (touches.mono (List.nil_subset _) (List.Subset.refl _))
    rw [run_of_refused opens]
    constructor
    case held => exact held
    case committed =>
      intro _ ends
      cases ends
    case undone => exact fun _ => hidden
    case cleared =>
      intro writer other succeeds
      cases opens.symm.trans succeeds
    case refused =>
      intro failure other fails
      cases opens.symm.trans fails
      exact ⟨⟨rfl, rfl⟩, created, touches⟩
    case retried =>
      intro failure other fails fresh files prepared
      exact create_of_prepared (created ▸ fresh) prepared
  · obtain ⟨writer, disk, holds, run⟩ := run_of_opened opens
    obtain ⟨result, last, ends, created, gone, committed, undone⟩ := (holding_of_holds holds).ended
    rw [run, ends]
    constructor
    case held => exact held
    case committed => exact committed
    case undone => exact undone
    case cleared => exact fun _ => ⟨gone, created⟩
    case refused =>
      intro failure other fails
      cases opens.symm.trans fails
    case retried =>
      intro failure other fails
      cases opens.symm.trans fails

end Sessions

/-- A folder that stands where an output is to be, beside what is left of an earlier session. -/
def blockedRoot : FileSystem :=
  (emptyRoot.put ["root", "A.java"] .folder).put ["root", "A.java.tmp"] (.file [0x2F])

/-- The output cannot take the place of the folder, and its temporary file is gone. -/
example : (splitSession "A" true true).run (flushing ⟨"root"⟩) { files := blockedRoot } =
    (.error .isAFolder, {
      files := emptyRoot.put ["root", "A.java"] .folder
      created := NameSet.empty.insert "A" }) := by decide +kernel

end Disk

end Stencil
