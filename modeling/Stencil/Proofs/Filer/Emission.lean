import Mathlib.Tactic
import Stencil.Filer.Disk
import Stencil.Filer.Faulty
import Stencil.Filer.Memory
import Stencil.Proofs.Text.Utf8

/-!
# Emission, call by call

Taking an output in means three calls, and each of them can fail.  `Emits` and
`Refuses` say which calls were made and what they left; they describe exactly
what `Filer.emit` does.

Two laws of filers are stated in these terms.  A filer that `Records` changes
what it shows only when an output is taken in whole.  A filer that is
`Independent` answers for every output on its own.
-/

namespace Stencil

namespace Filer

variable {σ ω : Type}

/-- All three calls for an output succeed. -/
inductive Emits (filer : Filer σ ω) (generated : GeneratedUnit) (before after : σ) : Prop where
  | intro {writer next : ω} {opened written : σ}
      (created : filer.create generated.qualifiedName generated.provenance before =
        (.ok writer, opened))
      (wrote : filer.write writer (Text.octets generated.text) opened = (.ok next, written))
      (finished : filer.finish next written = (.ok (), after))

/-- One of the calls for an output fails, and the calls before it succeed.  A
writer that could not write is dropped. -/
inductive Refuses (filer : Filer σ ω) (generated : GeneratedUnit) (before : σ)
    (error : FileError) : σ → Prop where
  | create {after : σ}
      (failed : filer.create generated.qualifiedName generated.provenance before =
        (.error error, after)) : Refuses filer generated before error after
  | write {writer : ω} {opened after : σ}
      (created : filer.create generated.qualifiedName generated.provenance before =
        (.ok writer, opened))
      (failed : filer.write writer (Text.octets generated.text) opened = (.error error, after)) :
      Refuses filer generated before error (filer.drop writer after)
  | finish {writer next : ω} {opened written after : σ}
      (created : filer.create generated.qualifiedName generated.provenance before =
        (.ok writer, opened))
      (wrote : filer.write writer (Text.octets generated.text) opened = (.ok next, written))
      (failed : filer.finish next written = (.error error, after)) :
      Refuses filer generated before error after

theorem emit_cases (filer : Filer σ ω) (generated : GeneratedUnit) (before : σ) :
    (∃ after, filer.emit generated before = (.ok (), after) ∧
        filer.Emits generated before after) ∨
      ∃ error after, filer.emit generated before = (.error error, after) ∧
        filer.Refuses generated before error after := by
  unfold emit Action.andThen writeOrDrop
  rcases created : filer.create generated.qualifiedName generated.provenance before with
    ⟨error | writer, opened⟩
  · exact .inr ⟨error, opened, rfl, .create created⟩
  rcases wrote : filer.write writer (Text.octets generated.text) opened with
    ⟨error | next, written⟩
  · exact .inr ⟨error, filer.drop writer written, by simp only [wrote], .write created wrote⟩
  rcases finished : filer.finish next written with ⟨error | done, after⟩
  · exact .inr ⟨error, after, by simp only [wrote, finished], .finish created wrote finished⟩
  · exact .inl ⟨after, by simp only [wrote, finished], .intro created wrote finished⟩

theorem Emits.emit_eq {filer : Filer σ ω} {generated : GeneratedUnit} {before after : σ}
    (emits : filer.Emits generated before after) :
    filer.emit generated before = (.ok (), after) := by
  obtain ⟨created, wrote, finished⟩ := emits
  simp only [emit, Action.andThen, writeOrDrop, created, wrote, finished]

theorem Refuses.emit_eq {filer : Filer σ ω} {generated : GeneratedUnit} {before after : σ}
    {error : FileError} (refuses : filer.Refuses generated before error after) :
    filer.emit generated before = (.error error, after) := by
  cases refuses with
  | create failed => simp only [emit, Action.andThen, failed]
  | write created failed => simp only [emit, Action.andThen, writeOrDrop, created, failed]
  | finish created wrote failed =>
    simp only [emit, Action.andThen, writeOrDrop, created, wrote, failed]

theorem emit_eq_ok_iff {filer : Filer σ ω} {generated : GeneratedUnit} {before after : σ} :
    filer.emit generated before = (.ok (), after) ↔ filer.Emits generated before after := by
  constructor
  · intro equal
    rcases filer.emit_cases generated before with ⟨state, ends, emits⟩ | ⟨error, state, ends, -⟩
    · rw [ends] at equal
      cases equal
      exact emits
    · rw [ends] at equal
      cases equal
  · exact Emits.emit_eq

theorem emit_eq_error_iff {filer : Filer σ ω} {generated : GeneratedUnit} {before after : σ}
    {error : FileError} :
    filer.emit generated before = (.error error, after) ↔
      filer.Refuses generated before error after := by
  constructor
  · intro equal
    rcases filer.emit_cases generated before with ⟨state, ends, -⟩ | ⟨other, state, ends, refuses⟩
    · rw [ends] at equal
      cases equal
    · rw [ends] at equal
      cases equal
      exact refuses
  · exact Refuses.emit_eq

/-- What a filer shows changes with the outputs that it takes in, and with nothing
else: not with calls that come to nothing. -/
structure Records {α : Type} (filer : Filer σ ω) (shown : σ → QualifiedName → Option α)
    (entry : GeneratedUnit → α) : Prop where
  emitted : ∀ {generated before after}, filer.emit generated before = (.ok (), after) →
    ∀ name, shown after name =
      if name = generated.qualifiedName then some (entry generated) else shown before name
  refused : ∀ {generated before error after},
    filer.emit generated before = (.error error, after) → shown after = shown before

/-- What comes of an emission depends on the name of the output alone, as long as
the filer is ready for it; and such an emission leaves the filer ready for all other
names. -/
structure Independent (filer : Filer σ ω) (ready : σ → QualifiedName → Prop)
    (fault : QualifiedName → Option FileError) : Prop where
  answers : ∀ {generated before}, ready before generated.qualifiedName →
    (filer.emit generated before).1 =
      match fault generated.qualifiedName with
      | none => .ok ()
      | some error => .error error
  others : ∀ {generated before name}, name ≠ generated.qualifiedName →
    ready before generated.qualifiedName → ready before name →
    ready (filer.emit generated before).2 name

section Failing

variable {plan : QualifiedName → Option FilerCall} {error : FileError} {filer : Filer σ ω}
  {generated : GeneratedUnit}

theorem emit_failing_of_none (planned : plan generated.qualifiedName = none) (before : σ) :
    (filer.failing plan error).emit generated before = filer.emit generated before := by
  simp only [emit, writeOrDrop, Action.andThen, Action.done, failing, planned]
  rcases filer.create generated.qualifiedName generated.provenance before with
    ⟨refused | writer, opened⟩
  · rfl
  rcases wrote : filer.write writer (Text.octets generated.text) opened with
    ⟨refused | next, written⟩
  · simp only [Action.andThen, wrote]
  · simp only [Action.andThen, Action.done, wrote]

theorem emit_failing_of_some {call : FilerCall} (planned : plan generated.qualifiedName = some call)
    (before : σ) : (filer.failing plan error).emit generated before = (.error error, before) := by
  simp only [emit, writeOrDrop, Action.andThen, failing, planned]
  cases call with
  | create => rfl
  | write => rfl
  | finish => rfl

theorem Records.failing {α : Type} {shown : σ → QualifiedName → Option α}
    {entry : GeneratedUnit → α} (records : filer.Records shown entry)
    (plan : QualifiedName → Option FilerCall) (error : FileError) :
    (filer.failing plan error).Records shown entry where
  emitted := by
    intro generated before after emits
    cases planned : plan generated.qualifiedName with
    | none =>
      rw [emit_failing_of_none planned] at emits
      exact records.emitted emits
    | some call =>
      rw [emit_failing_of_some planned] at emits
      cases emits
  refused := by
    intro generated before failure after refuses
    cases planned : plan generated.qualifiedName with
    | none =>
      rw [emit_failing_of_none planned] at refuses
      exact records.refused refuses
    | some call =>
      rw [emit_failing_of_some planned] at refuses
      cases refuses
      rfl

/-- A filer that is made to fail answers for every output on its own, if the one
behind it does. -/
theorem Independent.failing {ready : σ → QualifiedName → Prop}
    {fault : QualifiedName → Option FileError} (independent : filer.Independent ready fault)
    (plan : QualifiedName → Option FilerCall) (error : FileError) :
    (filer.failing plan error).Independent ready fun name =>
      if (plan name).isSome then some error else fault name where
  answers := by
    intro generated before prepared
    cases planned : plan generated.qualifiedName with
    | none =>
      rw [emit_failing_of_none planned]
      exact independent.answers prepared
    | some call =>
      rw [emit_failing_of_some planned]
      rfl
  others := by
    intro generated before name different own prepared
    cases planned : plan generated.qualifiedName with
    | none =>
      rw [emit_failing_of_none planned]
      exact independent.others different own prepared
    | some call =>
      rw [emit_failing_of_some planned]
      exact prepared

end Failing

end Filer

namespace Memory

def shown (memory : Memory) (name : QualifiedName) : Option MemoryOutput :=
  memory.outputs.get? name

def entryOf (generated : GeneratedUnit) : MemoryOutput := ⟨generated.text, generated.provenance⟩

def Ready (memory : Memory) (name : QualifiedName) : Prop := memory.created.contains name = false

theorem emit_of_created {memory : Memory} {generated : GeneratedUnit}
    (created : memory.created.contains generated.qualifiedName = true) :
    filer.emit generated memory = (.error (.recreated generated.qualifiedName), memory) := by
  simp only [Filer.emit, Action.andThen, filer, create, created, if_true]

/-- The octets of a text are text again, so a name that is ready is taken in. -/
theorem emit_of_ready {memory : Memory} {generated : GeneratedUnit}
    (ready : memory.Ready generated.qualifiedName) :
    filer.emit generated memory = (.ok (), {
      created := memory.created.insert generated.qualifiedName
      outputs := memory.outputs.insert generated.qualifiedName (entryOf generated) }) := by
  unfold Ready at ready
  simp only [Filer.emit, Filer.writeOrDrop, Action.andThen, filer, create, ready, write,
    Action.done, finish, List.nil_append, Text.decode_octets, Bool.false_eq_true, if_false]
  rfl

theorem filer_records : filer.Records shown entryOf where
  emitted := by
    intro generated before after emits name
    by_cases created : before.created.contains generated.qualifiedName = true
    · rw [emit_of_created created] at emits
      cases emits
    · rw [emit_of_ready (Bool.eq_false_iff.mpr created)] at emits
      cases emits
      exact NameMap.get?_insert _ _ _ _
  refused := by
    intro generated before error after refuses
    by_cases created : before.created.contains generated.qualifiedName = true
    · rw [emit_of_created created] at refuses
      cases refuses
      rfl
    · rw [emit_of_ready (Bool.eq_false_iff.mpr created)] at refuses
      cases refuses

theorem filer_independent : filer.Independent Ready fun _ => none where
  answers := by
    intro generated before ready
    rw [emit_of_ready ready]
  others := by
    intro generated before name different own ready
    by_cases created : before.created.contains generated.qualifiedName = true
    · rw [emit_of_created created]
      exact ready
    · rw [emit_of_ready (Bool.eq_false_iff.mpr created)]
      apply Bool.eq_false_iff.mpr
      intro contained
      rcases NameSet.mem_insert.mp (NameSet.contains_iff.mp contained) with same | member
      · exact different same
      · exact Bool.eq_false_iff.mp ready (NameSet.contains_iff.mpr member)

end Memory

namespace Disk

def shown (disk : Disk) (name : QualifiedName) : Option DiskOutput := disk.outputs.get? name

def entryOf (root : Path) (generated : GeneratedUnit) : DiskOutput :=
  ⟨pathFor root generated.qualifiedName, generated.provenance⟩

theorem outputs_of_onFiles {α : Type} {action : Action FileSystem α} {before after : Disk}
    {result : Except FileError α} (ends : onFiles action before = (result, after)) :
    after.outputs = before.outputs := by
  unfold onFiles at ends
  cases ends
  rfl

theorem created_of_onFiles {α : Type} {action : Action FileSystem α} {before after : Disk}
    {result : Except FileError α} (ends : onFiles action before = (result, after)) :
    after.created = before.created := by
  unfold onFiles at ends
  cases ends
  rfl

@[simp] theorem create_filer (root : Path) : (filer root).create = create root := rfl

@[simp] theorem write_filer (root : Path) : (filer root).write = write := rfl

@[simp] theorem finish_filer (root : Path) : (filer root).finish = finish := rfl

/-- What comes of opening a writer: the name is taken, or the temporary file of the output
cannot be made, or there is a writer with nothing written yet. -/
theorem create_cases (root : Path) (name : QualifiedName) (provenance : Provenance)
    (before : Disk) :
    (name ∈ before.created ∧
        create root name provenance before = (.error (.recreated name), before)) ∨
      (name ∉ before.created ∧
        ∃ error files, prepare (pathFor root name) (temporaryFor (pathFor root name))
            before.files = (.error error, files) ∧
          create root name provenance before = (.error error, { before with files })) ∨
      (name ∉ before.created ∧
        ∃ files, prepare (pathFor root name) (temporaryFor (pathFor root name))
            before.files = (.ok (), files) ∧
          create root name provenance before =
            (.ok ⟨name, provenance, pathFor root name, temporaryFor (pathFor root name), []⟩,
              { before with files, created := before.created.insert name })) := by
  unfold create onFiles
  by_cases taken : name ∈ before.created
  · exact .inl ⟨taken, if_pos (NameSet.contains_iff.mpr taken)⟩
  · rw [if_neg fun contained => taken (NameSet.contains_iff.mp contained)]
    rcases prepared : prepare (pathFor root name) (temporaryFor (pathFor root name))
      before.files with ⟨error | done, files⟩
    · exact .inr (.inl ⟨taken, error, files, rfl, by simp only [prepared]⟩)
    · exact .inr (.inr ⟨taken, files, rfl, by simp only [prepared]⟩)

theorem writer_of_create {root : Path} {name : QualifiedName} {provenance : Provenance}
    {before after : Disk} {writer : DiskWriter}
    (opens : create root name provenance before = (.ok writer, after)) :
    writer = ⟨name, provenance, pathFor root name, temporaryFor (pathFor root name), []⟩ := by
  rcases create_cases root name provenance before with
    ⟨-, refused⟩ | ⟨-, error, files, -, refused⟩ | ⟨-, files, -, made⟩
  · rw [opens] at refused
    cases refused
  · rw [opens] at refused
    cases refused
  · rw [opens] at made
    cases made
    rfl

theorem write_eq_ok {writer next : DiskWriter} {content : List UInt8} {before after : Disk}
    (wrote : write writer content before = (.ok next, after)) :
    next = { writer with content := writer.content ++ content } ∧ after = before := by
  unfold write Action.done at wrote
  obtain ⟨equal, same⟩ := Prod.mk.inj wrote
  exact ⟨(Except.ok.inj equal).symm, same.symm⟩

theorem write_ne_error {writer : DiskWriter} {content : List UInt8} {before after : Disk}
    {error : FileError} : write writer content before ≠ (.error error, after) := by
  unfold write Action.done
  intro failed
  obtain ⟨absurdity, -⟩ := Prod.mk.inj failed
  cases absurdity

theorem outputs_of_create {root : Path} {name : QualifiedName} {provenance : Provenance}
    {before after : Disk} {result : Except FileError DiskWriter}
    (ends : create root name provenance before = (result, after)) :
    after.outputs = before.outputs := by
  rcases create_cases root name provenance before with
    ⟨-, refused⟩ | ⟨-, error, files, -, refused⟩ | ⟨-, files, -, made⟩
  · rw [ends] at refused
    rw [(Prod.mk.inj refused).2]
  · rw [ends] at refused
    rw [(Prod.mk.inj refused).2]
  · rw [ends] at made
    rw [(Prod.mk.inj made).2]

theorem outputs_of_finish {writer : DiskWriter} {before after : Disk}
    (ends : finish writer before = (.ok (), after)) :
    after.outputs = before.outputs.insert writer.name ⟨writer.path, writer.provenance⟩ := by
  unfold finish at ends
  rcases moved : onFiles ((FileSystem.writeFile writer.temporary writer.content).andThen fun _ =>
      FileSystem.moveFile writer.temporary writer.path) before with ⟨error | done, state⟩
  · simp only [moved] at ends
    cases ends
  · simp only [moved] at ends
    cases ends
    simp only [outputs_of_onFiles moved]

theorem outputs_of_finish_error {writer : DiskWriter} {before after : Disk} {error : FileError}
    (ends : finish writer before = (.error error, after)) :
    after.outputs = before.outputs := by
  unfold finish at ends
  rcases moved : onFiles ((FileSystem.writeFile writer.temporary writer.content).andThen fun _ =>
      FileSystem.moveFile writer.temporary writer.path) before with ⟨failure | done, state⟩
  · simp only [moved] at ends
    cases ends
    show (drop writer state).outputs = before.outputs
    rw [← outputs_of_onFiles moved]
    rfl
  · simp only [moved] at ends
    cases ends

theorem created_of_finish {writer : DiskWriter} {before after : Disk}
    {result : Except FileError Unit} (ends : finish writer before = (result, after)) :
    after.created = before.created := by
  unfold finish at ends
  rcases moved : onFiles ((FileSystem.writeFile writer.temporary writer.content).andThen fun _ =>
      FileSystem.moveFile writer.temporary writer.path) before with ⟨failure | done, state⟩
  all_goals
    have same := created_of_onFiles moved
    simp only [moved] at ends
    cases ends
    exact same

/-- The writer of an output that its text was written to. -/
def filled (root : Path) (generated : GeneratedUnit) : DiskWriter where
  name := generated.qualifiedName
  provenance := generated.provenance
  path := pathFor root generated.qualifiedName
  temporary := temporaryFor (pathFor root generated.qualifiedName)
  content := Text.octets generated.text

section Emission

variable {root : Path} {generated : GeneratedUnit} {before after : Disk}

theorem filled_of_write {writer next : DiskWriter} {opened written : Disk}
    (created : (filer root).create generated.qualifiedName generated.provenance before =
      (.ok writer, opened))
    (wrote : (filer root).write writer (Text.octets generated.text) opened = (.ok next, written)) :
    next = filled root generated ∧ written = opened := by
  rw [create_filer] at created
  rw [write_filer] at wrote
  obtain rfl := writer_of_create created
  obtain ⟨rfl, rfl⟩ := write_eq_ok wrote
  refine ⟨?_, rfl⟩
  rw [filled, List.nil_append]

/-- An output is taken in by opening a writer for it and finishing it with its text. -/
theorem emits_filer (emits : (filer root).Emits generated before after) :
    ∃ writer opened,
      create root generated.qualifiedName generated.provenance before = (.ok writer, opened) ∧
      finish (filled root generated) opened = (.ok (), after) := by
  obtain ⟨created, wrote, finished⟩ := emits
  obtain ⟨rfl, rfl⟩ := filled_of_write created wrote
  rw [create_filer] at created
  rw [finish_filer] at finished
  exact ⟨_, _, created, finished⟩

/-- An output is not taken in if no writer is opened for it, or its writer is not finished:
writing its text does not fail. -/
theorem refuses_filer {error : FileError}
    (refuses : (filer root).Refuses generated before error after) :
    create root generated.qualifiedName generated.provenance before = (.error error, after) ∨
      ∃ writer opened,
        create root generated.qualifiedName generated.provenance before = (.ok writer, opened) ∧
        finish (filled root generated) opened = (.error error, after) := by
  cases refuses with
  | create failed =>
    rw [create_filer] at failed
    exact .inl failed
  | write created failed =>
    rw [write_filer] at failed
    exact absurd failed write_ne_error
  | finish created wrote failed =>
    obtain ⟨rfl, rfl⟩ := filled_of_write created wrote
    rw [create_filer] at created
    rw [finish_filer] at failed
    exact .inr ⟨_, _, created, failed⟩

end Emission

theorem filer_records (root : Path) : (filer root).Records shown (entryOf root) where
  emitted := by
    intro generated before after emits name
    obtain ⟨writer, opened, created, finished⟩ := emits_filer (Filer.emit_eq_ok_iff.mp emits)
    unfold shown
    rw [outputs_of_finish finished, NameMap.get?_insert, outputs_of_create created, filled,
      entryOf]
  refused := by
    intro generated before error after refuses
    unfold shown
    rcases refuses_filer (Filer.emit_eq_error_iff.mp refuses) with
      failed | ⟨writer, opened, created, failed⟩
    · rw [outputs_of_create failed]
    · rw [outputs_of_finish_error failed, outputs_of_create created]

end Disk

end Stencil
