import Stencil.Proofs.Json.Records

/-!
# Trees that say the same

Two trees in a document say the same if they differ only in the order of keys in
objects and in whether fields that hold their default are written.  Which fields
have a default depends on what a tree stands for in the document, so this comes
first.  A record that is written as a list can leave out its last fields.
-/

namespace Stencil.Document

open Json

/-! ## What the trees of a document stand for -/

/-- What a tree stands for. -/
inductive Role where
  | document
  | package
  | declaration
  | member
  | parameter
  | type
  | listOf (role : Role)
  /-- Something in which no field has a default. -/
  | other

/-- What a field holds if it is left out. -/
inductive Default where
  | text (content : String)
  | variant (name : String)
  | noItems

/-- Whether a tree holds a default. -/
def Default.HeldBy : Default → Tree → Prop
  | .text content, .text quoted => quoted.read = .ok content
  | .variant name, .text quoted => quoted.read = .ok name
  | .variant name, .object [(key, .null)] .closed => key.read = .ok name
  | .noItems, .list [] .closed => True
  | _, _ => False

/-- A key of an object, with what its value stands for. -/
structure Slot where
  key : String
  role : Role
  default? : Option Default

namespace Role

/-- The keys that count in what a tree stands for. -/
def slots : Role → List Slot
  | document => [⟨"packages", .listOf .package, some .noItems⟩]
  | package => [
    ⟨"name", .other, some (.text "")⟩,
    ⟨"declarations", .listOf .declaration, some .noItems⟩]
  | declaration => [
    ⟨"name", .other, none⟩,
    ⟨"kind", .other, some (.variant "class")⟩,
    ⟨"annotations", .other, some .noItems⟩,
    ⟨"typeParams", .other, some .noItems⟩,
    ⟨"supertypes", .listOf .type, some .noItems⟩,
    ⟨"modifiers", .other, some .noItems⟩,
    ⟨"members", .listOf .member, some .noItems⟩]
  | member => [
    ⟨"name", .other, none⟩,
    ⟨"kind", .other, some (.variant "method")⟩,
    ⟨"params", .listOf .parameter, some .noItems⟩,
    ⟨"returnType", .type, some (.text "void")⟩,
    ⟨"modifiers", .other, some .noItems⟩]
  | parameter => [⟨"name", .other, none⟩, ⟨"type", .type, none⟩]
  | type => [
    ⟨"declared", .other, none⟩,
    ⟨"args", .listOf .type, some .noItems⟩,
    ⟨"array", .type, none⟩]
  | listOf _ | other => []

/-- Whether a record is meant. -/
def isRecord : Role → Bool
  | document | package | declaration | member | parameter => true
  | type | listOf _ | other => false

/-- What the value of a key stands for. -/
def under (role : Role) (key : Quoted) : Role :=
  match key.read with
  | .ok name => ((role.slots.find? (·.key = name)).map Slot.role).getD .other
  | .error _ => .other

theorem under_of_read {role : Role} {key : Quoted} {name : String} (read : key.read = .ok name) :
    role.under key = ((role.slots.find? (·.key = name)).map Slot.role).getD .other := by
  rw [under, read]

/-- What an item stands for. -/
def item : Role → Nat → Role
  | listOf role, _ => role
  | type, 0 => type
  | type, 1 => listOf type
  | type, _ => other
  | role, index => ((role.slots[index]?).map Slot.role).getD .other

/-- Whether some fields of an object hold their defaults, so that they could be
left out: they are given once, and not among the other keys. -/
structure Omits (role : Role) (keys : List Quoted) (omitted : List (Quoted × Tree)) : Prop where
  held : ∀ field ∈ omitted, ∃ slot ∈ role.slots, ∃ default, slot.default? = some default ∧
    field.1.read = .ok slot.key ∧ default.HeldBy field.2
  once : (omitted.map (·.1.read)).Nodup
  apart : ∀ field ∈ omitted, ∀ key ∈ keys, key.read ≠ field.1.read

/-- Whether the items after others are fields that hold their defaults, so that
they could be left out.  In a type, only a name can stand before them. -/
def OmitsItems : Role → List Tree → List Tree → Prop
  | type, items, omitted =>
    omitted = [] ∨ ∃ name arguments, items = [.text name] ∧ omitted = [arguments] ∧
      Default.noItems.HeldBy arguments
  | role, items, omitted =>
    ∀ index tree, omitted[index]? = some tree → ∃ slot default,
      role.slots[items.length + index]? = some slot ∧ slot.default? = some default ∧
        default.HeldBy tree

end Role

theorem Role.Omits.nil (role : Role) (keys : List Quoted) : role.Omits keys [] where
  held := fun _ member => nomatch member
  once := List.nodup_nil
  apart := fun _ member => nomatch member

theorem Role.Omits.single {role : Role} {slot : Slot} (known : slot ∈ role.slots)
    {default : Default} (optional : slot.default? = some default) {key : Quoted} {tree : Tree}
    (keyRead : key.read = .ok slot.key) (held : default.HeldBy tree) {keys : List Quoted}
    (apart : ∀ other ∈ keys, other.read ≠ .ok slot.key) : role.Omits keys [(key, tree)] where
  held := by
    intro field member
    cases List.mem_singleton.mp member
    exact ⟨slot, known, default, optional, keyRead, held⟩
  once := List.pairwise_singleton _ _
  apart := by
    intro field member other known
    cases List.mem_singleton.mp member
    exact keyRead ▸ apart other known

/-- Whether two trees that stand for the same say the same: they differ only in
the order of keys, and in which fields that hold their default are written. -/
inductive Alike : Role → Tree → Tree → Prop where
  | same (role : Role) (tree : Tree) : Alike role tree tree
  | list {role : Role} (kept : List (Tree × Tree)) (omitted otherOmitted : List Tree)
      (items : ∀ index pair, kept[index]? = some pair → Alike (role.item index) pair.1 pair.2)
      (omits : role.OmitsItems (kept.map (·.1)) omitted)
      (otherOmits : role.OmitsItems (kept.map (·.2)) otherOmitted) :
      Alike role (.list (kept.map (·.1) ++ omitted) .closed)
        (.list (kept.map (·.2) ++ otherOmitted) .closed)
  | object {role : Role} {entries others : List (Quoted × Tree)}
      (kept : List (Quoted × Tree × Tree)) (omitted otherOmitted : List (Quoted × Tree))
      (order : entries.Perm (kept.map (fun field => (field.1, field.2.1)) ++ omitted))
      (otherOrder : others.Perm (kept.map (fun field => (field.1, field.2.2)) ++ otherOmitted))
      (fields : ∀ field ∈ kept, Alike (role.under field.1) field.2.1 field.2.2)
      (omits : role.Omits (kept.map (·.1)) omitted)
      (otherOmits : role.Omits (kept.map (·.1)) otherOmitted) :
      Alike role (.object entries .closed) (.object others .closed)

theorem Alike.items {role : Role} (kept : List (Tree × Tree))
    (items : ∀ index pair, kept[index]? = some pair → Alike (role.item index) pair.1 pair.2) :
    Alike role (.list (kept.map (·.1)) .closed) (.list (kept.map (·.2)) .closed) := by
  have nothing : ∀ items, role.OmitsItems items [] := by
    intro items
    cases role with
    | type => exact .inl rfl
    | _ => exact fun _ _ found => nomatch found
  have alike := Alike.list kept [] [] items (nothing _) (nothing _)
  rwa [List.append_nil, List.append_nil] at alike

/-! ## Readers that cannot tell them apart -/

/-- Whether a reader makes the same of trees that say the same. -/
def Respects {α : Type} (reader : Reader α) (role : Role) : Prop :=
  ∀ ⦃first second⦄, Alike role first second → ∀ ⦃levels result other⦄,
    reader levels first = .ok result → reader levels second = .ok other → result = other

section Readers

variable {α : Type} {role : Role}

theorem respects_text (expected : String) : Respects (.text expected) role := by
  intro first second alike levels result other read otherRead
  cases alike with
  | same => exact Except.ok.inj (read.symm.trans otherRead)
  | list => cases read
  | object => cases read

theorem Role.Omits.eq_nil {keys : List Quoted} {omitted : List (Quoted × Tree)}
    (omits : role.Omits keys omitted) (plain : role.slots = []) : omitted = [] := by
  apply List.eq_nil_iff_forall_not_mem.mpr
  intro field member
  obtain ⟨slot, known, -⟩ := omits.held field member
  simp [plain] at known

theorem Role.OmitsItems.eq_nil {items omitted : List Tree} (omits : role.OmitsItems items omitted)
    (plain : role.slots = []) : omitted = [] := by
  cases omitted with
  | nil => rfl
  | cons tree rest =>
    cases role with
    | type => cases plain
    | _ =>
      obtain ⟨slot, default, known, -⟩ := omits 0 tree rfl
      simp [plain] at known

private theorem eq_of_forall₂ {read : Tree → Except Fault α} {kept : List (Tree × Tree)}
    (each : ∀ pair ∈ kept, ∀ {result other}, read pair.1 = .ok result → read pair.2 = .ok other →
      result = other) {results others : List α}
    (first : List.Forall₂ (fun item value => read item = .ok value) (kept.map (·.1)) results)
    (second : List.Forall₂ (fun item value => read item = .ok value) (kept.map (·.2)) others) :
    results = others := by
  induction kept generalizing results others with
  | nil =>
    cases first
    cases second
    rfl
  | cons pair rest ih =>
    obtain ⟨same, others⟩ := List.forall_mem_cons.mp each
    cases first with
    | cons pairRead restRead =>
      cases second with
      | cons otherRead otherRestRead =>
        rw [same pairRead otherRead, ih others restRead otherRestRead]

theorem respects_list {item : Reader α} {itemRole : Role} (each : Respects item itemRole)
    (items : ∀ index, role.item index = itemRole) (plain : role.slots = []) :
    Respects (.list item) role := by
  intro first second alike levels result other read otherRead
  cases alike with
  | same => exact Except.ok.inj (read.symm.trans otherRead)
  | object => cases read
  | list kept omitted otherOmitted alike omits otherOmits =>
    rw [omits.eq_nil plain, List.append_nil] at read
    rw [otherOmits.eq_nil plain, List.append_nil] at otherRead
    obtain ⟨inner, entered, read⟩ := bind_eq_ok.mp read
    obtain ⟨values, itemsRead, read⟩ := bind_eq_ok.mp read
    obtain ⟨_, otherEntered, otherRead⟩ := bind_eq_ok.mp otherRead
    obtain ⟨otherValues, otherItemsRead, otherRead⟩ := bind_eq_ok.mp otherRead
    cases read
    cases otherRead
    cases entered.symm.trans otherEntered
    refine eq_of_forall₂ ?_ (Reader.forall₂_of_mapM itemsRead)
      (Reader.forall₂_of_mapM otherItemsRead)
    intro pair member result other pairRead otherPairRead
    obtain ⟨index, found⟩ := List.mem_iff_getElem?.mp member
    exact each (items index ▸ alike index pair found) pairRead otherPairRead

theorem respects_variant (variants : List (String × α)) : Respects (.variant variants) .other := by
  intro first second alike levels result other read otherRead
  cases alike with
  | same => exact Except.ok.inj (read.symm.trans otherRead)
  | list => cases read
  | object kept omitted otherOmitted order otherOrder _ omits otherOmits =>
    rw [omits.eq_nil rfl, List.append_nil] at order
    rw [otherOmits.eq_nil rfl, List.append_nil] at otherOrder
    obtain ⟨key, name, rfl, -, keyRead, found⟩ := Reader.variant_object read
    obtain ⟨otherKey, otherName, rfl, -, otherKeyRead, otherFound⟩ :=
      Reader.variant_object otherRead
    have single := List.perm_singleton.mp order.symm
    obtain ⟨field, rfl, same⟩ := List.map_eq_singleton_iff.mp single
    have otherSame := List.singleton_perm_singleton.mp otherOrder
    have sameKey : otherKey = key := (congrArg Prod.fst otherSame).trans (congrArg Prod.fst same)
    have sameName : otherName = name :=
      Except.ok.inj (otherKeyRead.symm.trans (sameKey ▸ keyRead))
    exact Except.ok.inj (found.symm.trans (sameName ▸ otherFound))

end Readers

end Stencil.Document
