import Stencil.Proofs.TypeRef.Alike

/-!
# The records of a document

Each record of a document is read the same from trees that say the same, because
its fields are independent of each other and put nothing new into a blank record
when they hold their defaults.  No record is read from a tree that is not well formed.
-/

namespace Stencil.Document

open Json

/-! ## Records -/

section Records

variable {α σ : Type} {reader : Reader α} {record : Record σ} {role : Role}

/-- Whether a reader makes nothing else of a default than some content. -/
def Supplies (reader : Reader α) (default : Default) (content : α) : Prop :=
  ∀ ⦃tree levels result⦄, default.HeldBy tree → reader levels tree = .ok result → result = content

theorem supplies_text (expected content : String) :
    Supplies (.text expected) (.text content) content := by
  intro tree levels result held read
  match tree, held with
  | .text quoted, held => exact Except.ok.inj (read.symm.trans held)

theorem supplies_list (item : Reader α) : Supplies (.list item) .noItems [] := by
  intro tree levels result held read
  match tree, held with
  | .list [] .closed, _ =>
    obtain ⟨_, -, read⟩ := bind_eq_ok.mp read
    cases read
    rfl

theorem supplies_variant {variants : List (String × α)} {name : String} {content : α}
    (known : variants.find? (·.1 = name) = some (name, content)) :
    Supplies (.variant variants) (.variant name) content := by
  have chosen : ∀ {result}, Reader.variant? variants name = .ok result → result = content := by
    intro result found
    rw [Reader.variant?, known] at found
    exact (Except.ok.inj found).symm
  intro tree levels result held read
  match tree, held with
  | .text quoted, held =>
    obtain ⟨_, nameRead, found⟩ := bind_eq_ok.mp read
    cases nameRead.symm.trans held
    exact chosen found
  | .object [(key, .null)] .closed, held =>
    obtain ⟨_, _, ⟨⟩, -, keyRead, found⟩ := Reader.variant_object read
    cases keyRead.symm.trans held
    exact chosen found

theorem supplies_type (name : String) : Supplies TypeRef.reader (.text name) (.plain name) := by
  intro tree levels result held read
  match tree, held with
  | .text quoted, held =>
    obtain ⟨_, valueRead, read⟩ := bind_eq_ok.mp read
    obtain ⟨content, nameRead, ⟨⟩⟩ := bind_eq_ok.mp valueRead
    cases nameRead.symm.trans held
    exact (Except.ok.inj read).symm

/-- Whether a field reads what a slot describes, where a blank record holds the
default. -/
structure Fits (blank : σ) (field : Json.Field σ) (slot : Slot) : Prop where
  key : field.key = slot.key
  respects : Respects field.read slot.role
  blank : ∀ {default}, slot.default? = some default →
    ∀ {tree levels change}, default.HeldBy tree → field.read levels tree = .ok change →
      change blank = blank

theorem respects_fieldOf {key : String} {required : Bool} {put : α → σ → σ}
    (respects : Respects reader role) : Respects (fieldOf key required reader put).read role := by
  intro first second alike levels change otherChange read otherRead
  obtain ⟨content, contentRead, rfl⟩ := fieldOf_read read
  obtain ⟨other, otherContentRead, rfl⟩ := fieldOf_read otherRead
  rw [respects alike contentRead otherContentRead]

theorem fits_required {key : String} {put : α → σ → σ} {blank : σ}
    (respects : Respects reader role) :
    Fits blank (fieldOf key true reader put) ⟨key, role, none⟩ where
  key := rfl
  respects := respects_fieldOf respects
  blank := nofun

theorem fits_optional {key : String} {put : α → σ → σ} {blank : σ} {default : Default} {content : α}
    (respects : Respects reader role) (supplies : Supplies reader default content)
    (holds : put content blank = blank) :
    Fits blank (fieldOf key false reader put) ⟨key, role, some default⟩ where
  key := rfl
  respects := respects_fieldOf respects
  blank := by
    rintro _ ⟨⟩ tree levels change held read
    obtain ⟨result, resultRead, rfl⟩ := fieldOf_read read
    rw [supplies held resultRead, holds]

/-- Whether a role describes a record, field by field. -/
structure Describes (role : Role) (record : Record σ) : Prop where
  isRecord : role.isRecord = true
  fields : List.Forall₂ (Fits record.blank) record.fields role.slots
  independent : record.fields.Pairwise Field.Independent

namespace Role

/-- The items of a record that is written as a list stand for its fields in order. -/
theorem item_of_isRecord (isRecord : role.isRecord = true) {index : Nat} {slot : Slot}
    (known : role.slots[index]? = some slot) : role.item index = slot.role := by
  cases role with
  | type | listOf _ | other => cases isRecord
  | _ => simp [item, known]

theorem OmitsItems.held (isRecord : role.isRecord = true) {items omitted : List Tree}
    (omits : role.OmitsItems items omitted) {index : Nat} {tree : Tree}
    (member : omitted[index]? = some tree) : ∃ slot default,
      role.slots[items.length + index]? = some slot ∧ slot.default? = some default ∧
        default.HeldBy tree := by
  cases role with
  | type | listOf _ | other => cases isRecord
  | _ => exact omits index tree member

end Role

/-- A key is given alike by trees that say the same. -/
theorem agree_of_fits {levels : Nat} {key : String} {tree other : Tree}
    (alike : ∀ field, record.field? key = some field → ∃ slot, Fits record.blank field slot ∧
      Alike slot.role tree other) : record.Agree levels (key, tree) (key, other) where
  key := rfl
  change := by
    intro field known change otherChange read otherRead
    obtain ⟨slot, fits, alike⟩ := alike field known
    exact fits.respects alike read otherRead

namespace Describes

variable (describes : Describes role record) {levels : Nat}

include describes

theorem fits_at {index : Nat} {field : Json.Field σ} {slot : Slot}
    (known : record.fields[index]? = some field) (slotKnown : role.slots[index]? = some slot) :
    Fits record.blank field slot := by
  obtain ⟨_, rfl⟩ := List.getElem?_eq_some_iff.mp known
  obtain ⟨_, rfl⟩ := List.getElem?_eq_some_iff.mp slotKnown
  exact describes.fields.get _ _

theorem exists_field_at {index : Nat} {slot : Slot} (known : role.slots[index]? = some slot) :
    ∃ field, record.fields[index]? = some field ∧ Fits record.blank field slot := by
  obtain ⟨bound, -⟩ := List.getElem?_eq_some_iff.mp known
  have found := List.getElem?_eq_getElem (describes.fields.length_eq ▸ bound)
  exact ⟨_, found, describes.fits_at found known⟩

theorem exists_slot_at {index : Nat} {field : Json.Field σ}
    (known : record.fields[index]? = some field) :
    ∃ slot, role.slots[index]? = some slot ∧ Fits record.blank field slot := by
  obtain ⟨bound, -⟩ := List.getElem?_eq_some_iff.mp known
  have found := List.getElem?_eq_getElem (describes.fields.length_eq ▸ bound)
  exact ⟨_, found, describes.fits_at known found⟩

theorem exists_slot {key : String} {field : Json.Field σ} (known : record.field? key = some field) :
    ∃ slot, role.slots.find? (·.key = key) = some slot ∧ Fits record.blank field slot := by
  have fields := describes.fields
  unfold Record.field? at known
  generalize record.fields = fields, role.slots = slots at fields known
  induction fields with
  | nil => cases known
  | @cons first slot fields slots fits _ ih =>
    by_cases same : first.key = key
    · rw [List.find?_cons_of_pos (by simpa using same)] at known
      cases known
      exact ⟨slot, List.find?_cons_of_pos (by simpa using fits.key ▸ same), fits⟩
    · rw [List.find?_cons_of_neg (by simpa using same)] at known
      rw [List.find?_cons_of_neg (by simpa using fits.key ▸ same)]
      exact ih known

theorem put_held {slot : Slot} (known : slot ∈ role.slots) {default : Default}
    (optional : slot.default? = some default) {tree : Tree} (held : default.HeldBy tree) :
    record.put levels record.blank (slot.key, tree) = record.blank := by
  obtain ⟨index, known⟩ := List.mem_iff_getElem?.mp known
  obtain ⟨field, member, fits⟩ := describes.exists_field_at known
  have found : record.field? slot.key = some field :=
    fits.key ▸ Record.field?_key describes.independent (List.mem_of_getElem? member)
  cases read : field.read levels tree with
  | error fault => simp only [Record.put, found, read]
  | ok change => rw [Record.put_of_read found read, fits.blank optional held read]

end Describes

/-- Objects of a record that say the same are read as one record. -/
private theorem reader_object (describes : Describes role record)
    {entries others : List (Quoted × Tree)} {kept : List (Quoted × Tree × Tree)}
    {omitted otherOmitted : List (Quoted × Tree)}
    (order : entries.Perm (kept.map (fun field => (field.1, field.2.1)) ++ omitted))
    (otherOrder : others.Perm (kept.map (fun field => (field.1, field.2.2)) ++ otherOmitted))
    (alike : ∀ field ∈ kept, Alike (role.under field.1) field.2.1 field.2.2)
    (omits : role.Omits (kept.map (·.1)) omitted)
    (otherOmits : role.Omits (kept.map (·.1)) otherOmitted) {levels : Nat} {result other : σ}
    (read : record.reader levels (.object entries .closed) = .ok result)
    (otherRead : record.reader levels (.object others .closed) = .ok other) : result = other := by
  have blank : ∀ {keys omitted}, role.Omits keys omitted → ∀ levels,
      ∀ entry ∈ record.given (.object omitted .closed),
        record.put levels record.blank entry = record.blank := by
    intro keys omitted omits levels ⟨name, tree⟩ member
    obtain ⟨key, member, keyRead⟩ := Record.mem_of_mem_given member
    obtain ⟨slot, known, default, optional, slotRead, held⟩ := omits.held _ member
    cases keyRead.symm.trans slotRead
    exact describes.put_held known optional held
  refine Record.reader_unique describes.independent (Record.given_object_perm order .closed)
    (Record.given_object_perm otherOrder .closed) ?_ (blank omits) (blank otherOmits) read otherRead
  intro levels
  clear order otherOrder omits otherOmits
  induction kept with
  | nil => exact .nil
  | cons field rest ih =>
    obtain ⟨key, tree, other⟩ := field
    have later := ih fun field member => alike field (List.mem_cons_of_mem _ member)
    rw [List.map_cons, List.map_cons]
    cases keyRead : key.read with
    | error fault =>
      rwa [Record.given_object_cons_of_error keyRead, Record.given_object_cons_of_error keyRead]
    | ok name =>
      rw [Record.given_object_cons keyRead, Record.given_object_cons keyRead]
      refine .cons (agree_of_fits ?_) later
      intro field known
      obtain ⟨slot, slotKnown, fits⟩ := describes.exists_slot known
      have under : role.under key = slot.role := by
        rw [Role.under_of_read keyRead, slotKnown]
        rfl
      exact ⟨slot, fits, under ▸ alike _ List.mem_cons_self⟩

private theorem forall₂_zip_map {keys : List String} {kept : List (Tree × Tree)}
    {R : String × Tree → String × Tree → Prop}
    (each : ∀ (index : Nat) (key : String) (pair : Tree × Tree), keys[index]? = some key →
      kept[index]? = some pair → R (key, pair.1) (key, pair.2)) :
    List.Forall₂ R (keys.zip (kept.map (·.1))) (keys.zip (kept.map (·.2))) := by
  induction keys generalizing kept with
  | nil => exact .nil
  | cons key keys ih =>
    cases kept with
    | nil => exact .nil
    | cons pair rest =>
      exact .cons (each 0 key pair rfl rfl)
        (ih fun index key pair known found => each (index + 1) key pair known found)

/-- Lists of a record that say the same are read as one record. -/
private theorem reader_list (describes : Describes role record) {kept : List (Tree × Tree)}
    {omitted otherOmitted : List Tree}
    (alike : ∀ index pair, kept[index]? = some pair → Alike (role.item index) pair.1 pair.2)
    (omits : role.OmitsItems (kept.map (·.1)) omitted)
    (otherOmits : role.OmitsItems (kept.map (·.2)) otherOmitted) {levels : Nat} {result other : σ}
    (read : record.reader levels (.list (kept.map (·.1) ++ omitted) .closed) = .ok result)
    (otherRead : record.reader levels (.list (kept.map (·.2) ++ otherOmitted) .closed) =
      .ok other) : result = other := by
  have blank : ∀ {items omitted}, role.OmitsItems items omitted → ∀ levels,
      ∀ entry ∈ ((record.fields.map (·.key)).drop items.length).zip omitted,
        record.put levels record.blank entry = record.blank := by
    intro items omitted omits levels ⟨name, tree⟩ member
    obtain ⟨index, found⟩ := List.mem_iff_getElem?.mp member
    obtain ⟨key, item⟩ := List.getElem?_zip_eq_some.mp found
    obtain ⟨slot, default, known, optional, held⟩ := omits.held describes.isRecord item
    obtain ⟨field, member, fits⟩ := describes.exists_field_at known
    rw [List.getElem?_drop, List.getElem?_map, member, Option.map_some, fits.key] at key
    cases key
    exact describes.put_held (List.mem_of_getElem? known) optional held
  refine Record.reader_unique describes.independent (.of_eq (Record.given_list_append _ _ .closed))
    (.of_eq (Record.given_list_append _ _ .closed)) ?_ (blank omits) (blank otherOmits)
    read otherRead
  intro levels
  apply forall₂_zip_map
  intro index key pair keyKnown found
  rw [List.getElem?_map] at keyKnown
  obtain ⟨field, member, rfl⟩ := Option.map_eq_some_iff.mp keyKnown
  obtain ⟨slot, slotKnown, fits⟩ := describes.exists_slot_at member
  apply agree_of_fits
  intro other known
  have same := Record.field?_key describes.independent (List.mem_of_getElem? member)
  cases same.symm.trans known
  exact ⟨slot, fits, Role.item_of_isRecord describes.isRecord slotKnown ▸ alike index pair found⟩

theorem respects_record (describes : Describes role record) : Respects record.reader role := by
  intro first second alike levels result other read otherRead
  cases alike with
  | same => exact Except.ok.inj (read.symm.trans otherRead)
  | object kept omitted otherOmitted order otherOrder alike omits otherOmits =>
    exact reader_object describes order otherOrder alike omits otherOmits read otherRead
  | list kept omitted otherOmitted alike omits otherOmits =>
    exact reader_list describes alike omits otherOmits read otherRead

end Records

/-! ## The records of a document -/

theorem respects_parameter : Respects Parameter.record.reader .parameter :=
  respects_record {
    isRecord := rfl
    fields := .cons (fits_required (respects_text _)) <| .cons (fits_required respects_type) .nil
    independent := by
      simp only [Parameter.record, List.pairwise_cons, List.forall_mem_cons]
      and_intros <;> first
        | exact fieldOf_independent (by decide) fun _ _ _ => rfl
        | simp }

theorem respects_texts : Respects textsReader .other :=
  respects_list (respects_text _) (fun _ => rfl) rfl

theorem respects_member : Respects Member.record.reader .member :=
  respects_record {
    isRecord := rfl
    fields :=
      .cons (fits_required (respects_text _)) <|
      .cons (fits_optional (respects_variant _) (supplies_variant rfl) rfl) <|
      .cons (fits_optional (respects_list respects_parameter (fun _ => rfl) rfl)
        (supplies_list _) rfl) <|
      .cons (fits_optional respects_type (supplies_type _) rfl) <|
      .cons (fits_optional (respects_list (respects_variant _) (fun _ => rfl) rfl)
        (supplies_list _) rfl) .nil
    independent := by
      simp only [Member.record, List.pairwise_cons, List.forall_mem_cons]
      and_intros <;> first
        | exact fieldOf_independent (by decide) fun _ _ _ => rfl
        | simp }

theorem respects_declaration : Respects Declaration.record.reader .declaration :=
  respects_record {
    isRecord := rfl
    fields :=
      .cons (fits_required (respects_text _)) <|
      .cons (fits_optional (respects_variant _) (supplies_variant rfl) rfl) <|
      .cons (fits_optional respects_texts (supplies_list _) rfl) <|
      .cons (fits_optional respects_texts (supplies_list _) rfl) <|
      .cons (fits_optional (respects_list respects_type (fun _ => rfl) rfl)
        (supplies_list _) rfl) <|
      .cons (fits_optional (respects_list (respects_variant _) (fun _ => rfl) rfl)
        (supplies_list _) rfl) <|
      .cons (fits_optional (respects_list respects_member (fun _ => rfl) rfl)
        (supplies_list _) rfl) .nil
    independent := by
      simp only [Declaration.record, List.pairwise_cons, List.forall_mem_cons]
      and_intros <;> first
        | exact fieldOf_independent (by decide) fun _ _ _ => rfl
        | simp }

theorem respects_package : Respects Package.record.reader .package :=
  respects_record {
    isRecord := rfl
    fields :=
      .cons (fits_optional (respects_text _) (supplies_text _ _) rfl) <|
      .cons (fits_optional (respects_list respects_declaration (fun _ => rfl) rfl)
        (supplies_list _) rfl) .nil
    independent := by
      simp only [Package.record, List.pairwise_cons, List.forall_mem_cons]
      and_intros <;> first
        | exact fieldOf_independent (by decide) fun _ _ _ => rfl
        | simp }

theorem respects_document : Respects Document.record.reader .document :=
  respects_record {
    isRecord := rfl
    fields :=
      .cons (fits_optional (respects_list respects_package (fun _ => rfl) rfl)
        (supplies_list _) rfl) .nil
    independent := by simp [Document.record] }

/-! ## Well-formed trees -/

theorem thorough_type : TypeRef.reader.Thorough := by
  intro levels tree type read
  obtain ⟨_, valueRead, -⟩ := bind_eq_ok.mp read
  exact wellFormed_of_value tree valueRead

theorem thorough_parameter : Parameter.record.reader.Thorough := by
  apply Record.thorough
  simp only [Parameter.record, List.forall_mem_cons]
  exact ⟨thorough_fieldOf (Reader.thorough_text _), thorough_fieldOf thorough_type,
    List.forall_mem_nil _⟩

theorem thorough_texts : textsReader.Thorough :=
  Reader.thorough_list (Reader.thorough_text _)

theorem thorough_member : Member.record.reader.Thorough := by
  apply Record.thorough
  simp only [Member.record, List.forall_mem_cons]
  exact ⟨thorough_fieldOf (Reader.thorough_text _),
    thorough_fieldOf (Reader.thorough_variant _),
    thorough_fieldOf (Reader.thorough_list thorough_parameter),
    thorough_fieldOf thorough_type,
    thorough_fieldOf (Reader.thorough_list (Reader.thorough_variant _)), List.forall_mem_nil _⟩

theorem thorough_declaration : Declaration.record.reader.Thorough := by
  apply Record.thorough
  simp only [Declaration.record, List.forall_mem_cons]
  exact ⟨thorough_fieldOf (Reader.thorough_text _),
    thorough_fieldOf (Reader.thorough_variant _),
    thorough_fieldOf thorough_texts,
    thorough_fieldOf thorough_texts,
    thorough_fieldOf (Reader.thorough_list thorough_type),
    thorough_fieldOf (Reader.thorough_list (Reader.thorough_variant _)),
    thorough_fieldOf (Reader.thorough_list thorough_member), List.forall_mem_nil _⟩

theorem thorough_package : Package.record.reader.Thorough := by
  apply Record.thorough
  simp only [Package.record, List.forall_mem_cons]
  exact ⟨thorough_fieldOf (Reader.thorough_text _),
    thorough_fieldOf (Reader.thorough_list thorough_declaration), List.forall_mem_nil _⟩

theorem thorough_document : Document.record.reader.Thorough := by
  apply Record.thorough
  simp only [Document.record, List.forall_mem_cons]
  exact ⟨thorough_fieldOf (Reader.thorough_list thorough_package), List.forall_mem_nil _⟩

end Stencil.Document
