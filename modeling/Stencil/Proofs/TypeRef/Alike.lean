import Stencil.Proofs.Declaration.Alike
import Stencil.Proofs.TypeRef.Forms

/-!
# Types that are written differently

Trees of types that say the same are taken for the same type.  This needs more
than types to be related: a tree within a type can also be taken for a name or
for a list of types, and each form sees only some of this.
-/

namespace Stencil.Document

open Json TypeRef

/-- Whether two values that stand for the same can be taken for the same. -/
structure FormsAgree (role : Role) (forms others : TypeRef.Forms) : Prop where
  text : forms.text? = others.text?
  type : role = .type → forms.type? = others.type?
  types : role = .listOf .type → forms.types? = others.types?

private theorem mapM_type? {levels : Nat} {kept : List (Tree × Tree)} {values others : List Value}
    (read : List.Forall₂ (fun item value => item.value levels = .ok value) (kept.map (·.1)) values)
    (otherRead : List.Forall₂ (fun item value => item.value levels = .ok value)
      (kept.map (·.2)) others)
    (each : ∀ pair ∈ kept, ∀ value other, pair.1.value levels = .ok value →
      pair.2.value levels = .ok other → (forms value).type? = (forms other).type?) :
    (formsOfItems values).mapM Forms.type? = (formsOfItems others).mapM Forms.type? := by
  induction kept generalizing values others with
  | nil =>
    cases read
    cases otherRead
    rfl
  | cons pair rest ih =>
    cases read with
    | cons itemRead restRead =>
      cases otherRead with
      | cons otherItemRead otherRestRead =>
        have first := each pair List.mem_cons_self _ _ itemRead otherItemRead
        have later := ih restRead otherRestRead
          fun pair member => each pair (List.mem_cons_of_mem _ member)
        rw [formsOfItems, formsOfItems, List.mapM_cons, List.mapM_cons, first, later]

/-- A name in a list stands for a declared type, with or without its empty
arguments. -/
private theorem type?_named {levels : Nat} {name : Quoted} {omitted : List Tree}
    (omits : Role.type.OmitsItems [.text name] omitted) {values : List Value}
    (read : List.Forall₂ (fun item value => item.value levels = .ok value)
      ([.text name] ++ omitted) values) :
    ∃ content, name.read = .ok content ∧
      (forms (.list values)).type? = some (.declared content []) := by
  cases read with
  | cons textRead restRead =>
    obtain ⟨content, nameRead, same⟩ := bind_eq_ok.mp textRead
    cases same
    refine ⟨content, nameRead, ?_⟩
    obtain rfl | ⟨_, arguments, -, rfl, held⟩ := omits
    · cases restRead
      rfl
    · cases restRead with
      | cons argumentsRead nothing =>
        cases nothing
        match arguments, held with
        | .list [] .closed, _ =>
          obtain ⟨_, _, -, itemsRead, rfl⟩ := value_list argumentsRead
          cases itemsRead
          rfl

theorem Alike.text_left {role : Role} {quoted : Quoted} {tree : Tree}
    (alike : Alike role (.text quoted) tree) : tree = .text quoted := by
  cases alike
  rfl

theorem Alike.text_right {role : Role} {quoted : Quoted} {tree : Tree}
    (alike : Alike role tree (.text quoted)) : tree = .text quoted := by
  cases alike
  rfl

private theorem type?_items {levels : Nat} {kept : List (Tree × Tree)}
    (agree : ∀ index pair, kept[index]? = some pair → ∀ {value other},
      pair.1.value levels = .ok value → pair.2.value levels = .ok other →
        FormsAgree (Role.type.item index) (forms value) (forms other))
    {values others : List Value}
    (read : List.Forall₂ (fun item value => item.value levels = .ok value) (kept.map (·.1)) values)
    (otherRead : List.Forall₂ (fun item value => item.value levels = .ok value)
      (kept.map (·.2)) others) :
    (forms (.list values)).type? = (forms (.list others)).type? := by
  match kept, agree, read, otherRead with
  | [], _, .nil, .nil => rfl
  | [pair], agree, .cons itemRead .nil, .cons otherRead .nil =>
    have first := agree 0 pair rfl itemRead otherRead
    simp only [forms, formsOfItems, declaredOfItems?, arrayOfItems?, first.text, first.type rfl]
  | [pair, next], agree, .cons itemRead (.cons nextRead .nil),
      .cons otherRead (.cons otherNextRead .nil) =>
    have first := agree 0 pair rfl itemRead otherRead
    have second := agree 1 next rfl nextRead otherNextRead
    simp only [forms, formsOfItems, declaredOfItems?, arrayOfItems?, first.text, second.types rfl]
  | _ :: _ :: _ :: _, _, .cons _ (.cons _ (.cons _ _)), .cons _ (.cons _ (.cons _ _)) => rfl

/-- Lists that say the same stand for the same type: items that are written in
both are taken for the same, and what is omitted only follows a name. -/
private theorem type?_list {levels : Nat} {kept : List (Tree × Tree)}
    {omitted otherOmitted : List Tree}
    (alike : ∀ index pair, kept[index]? = some pair →
      Alike (Role.type.item index) pair.1 pair.2)
    (agree : ∀ index pair, kept[index]? = some pair → ∀ {value other},
      pair.1.value levels = .ok value → pair.2.value levels = .ok other →
        FormsAgree (Role.type.item index) (forms value) (forms other))
    (omits : Role.type.OmitsItems (kept.map (·.1)) omitted)
    (otherOmits : Role.type.OmitsItems (kept.map (·.2)) otherOmitted)
    {values others : List Value}
    (read : List.Forall₂ (fun item value => item.value levels = .ok value)
      (kept.map (·.1) ++ omitted) values)
    (otherRead : List.Forall₂ (fun item value => item.value levels = .ok value)
      (kept.map (·.2) ++ otherOmitted) others) :
    (forms (.list values)).type? = (forms (.list others)).type? := by
  have named : ∀ {name}, kept = [(.text name, .text name)] →
      (forms (.list values)).type? = (forms (.list others)).type? := by
    rintro name rfl
    obtain ⟨content, nameRead, taken⟩ := type?_named omits read
    obtain ⟨other, otherNameRead, otherTaken⟩ := type?_named otherOmits otherRead
    cases nameRead.symm.trans otherNameRead
    rw [taken, otherTaken]
  rcases omits with rfl | ⟨name, arguments, items, -, -⟩
  · rcases otherOmits with rfl | ⟨name, arguments, items, -, -⟩
    · rw [List.append_nil] at read otherRead
      exact type?_items agree read otherRead
    · obtain ⟨⟨first, second⟩, pair, rfl⟩ := List.map_eq_singleton_iff.mp items
      have same : first = .text name := (alike 0 _ (by rw [pair]; rfl)).text_right
      exact named (same ▸ pair)
  · obtain ⟨⟨first, second⟩, pair, rfl⟩ := List.map_eq_singleton_iff.mp items
    have same : second = .text name := (alike 0 _ (by rw [pair]; rfl)).text_left
    exact named (same ▸ pair)

private theorem held_of_omits {keys : List Quoted} {omitted : List (Quoted × Tree)}
    (omits : Role.type.Omits keys omitted) :
    ∀ field ∈ omitted, field.1.read = .ok "args" ∧ Default.noItems.HeldBy field.2 := by
  intro field member
  obtain ⟨slot, known, default, optional, keyRead, held⟩ := omits.held field member
  simp only [Role.slots, List.mem_cons, List.not_mem_nil, or_false] at known
  obtain rfl | rfl | rfl := known
  · cases optional
  · cases optional
    exact ⟨keyRead, held⟩
  · cases optional

private theorem given_held {levels : Nat} {key : Quoted} {tree : Tree} {value : Value}
    (keyRead : key.read = .ok "args") (held : Default.noItems.HeldBy tree)
    (read : tree.value levels = .ok value) :
    given levels "args" Forms.types? [(key, tree)] = [some []] := by
  match tree, held with
  | .list [] .closed, _ =>
    obtain ⟨_, _, -, itemsRead, rfl⟩ := value_list read
    cases itemsRead
    simp [given, keyRead, read, forms, formsOfItems]

/-- Arguments are the same with and without an empty list of them. -/
private theorem argumentsFrom?_kept {levels : Nat} {kept omitted : List (Quoted × Tree)}
    (omits : Role.type.Omits (kept.map (·.1)) omitted)
    (readable : ∀ entry ∈ omitted, ∃ value, entry.2.value levels = .ok value) :
    argumentsFrom? (given levels "args" Forms.types? (kept ++ omitted)) =
      argumentsFrom? (given levels "args" Forms.types? kept) := by
  have held := held_of_omits omits
  match omitted, omits.once, omits.apart, held, readable with
  | [], _, _, _, _ => rw [List.append_nil]
  | [(key, tree)], _, apart, held, readable =>
    obtain ⟨keyRead, held⟩ := held (key, tree) List.mem_cons_self
    obtain ⟨value, valueRead⟩ := readable (key, tree) List.mem_cons_self
    have nothing : given levels "args" Forms.types? kept = [] := by
      apply given_eq_nil
      intro field member same
      have other := apart (key, tree) List.mem_cons_self field.1 (List.mem_map_of_mem member)
      exact other (same.trans keyRead.symm)
    rw [given_append, nothing, given_held keyRead held valueRead]
    rfl
  | field :: next :: _, once, _, held, _ =>
    have first := (held field (by simp)).1
    have second := (held next (by simp)).1
    simp [first, second] at once

/-- The fields that are omitted from a type give it nothing but empty arguments. -/
private theorem typeFrom?_kept {levels : Nat} {entries kept omitted : List (Quoted × Tree)}
    (order : entries.Perm (kept ++ omitted)) (omits : Role.type.Omits (kept.map (·.1)) omitted)
    (readable : ∀ entry ∈ entries, ∃ name value, entry.1.read = .ok name ∧
      entry.2.value levels = .ok value) :
    typeFrom? (given levels "declared" Forms.text? entries)
        (given levels "args" Forms.types? entries) (given levels "array" Forms.type? entries) =
      typeFrom? (given levels "declared" Forms.text? kept)
        (given levels "args" Forms.types? kept) (given levels "array" Forms.type? kept) := by
  have others : ∀ {α : Type} (key : String) (use : Forms → α), key ≠ "args" →
      given levels key use omitted = [] := by
    intro α key use different
    apply given_eq_nil
    intro field member same
    exact different (Except.ok.inj (same.symm.trans (held_of_omits omits field member).1))
  have arguments : argumentsFrom? (given levels "args" Forms.types? (kept ++ omitted)) =
      argumentsFrom? (given levels "args" Forms.types? kept) := by
    apply argumentsFrom?_kept omits
    intro entry member
    obtain ⟨_, value, -, read⟩ :=
      readable entry (order.mem_iff.mpr (List.mem_append_right kept member))
    exact ⟨value, read⟩
  rw [typeFrom?, typeFrom?, sole?_perm (given_perm order "declared" _),
    argumentsFrom?_perm (given_perm order "args" _), sole?_perm (given_perm order "array" _),
    arguments, given_append, given_append, others "declared" _ (by decide),
    others "array" _ (by decide), List.append_nil, List.append_nil]

/-- What is written in both objects is taken for the same. -/
private theorem given_kept {α : Type} {levels : Nat} {key : String} {use : Forms → α}
    {kept : List (Quoted × Tree × Tree)}
    (readable : ∀ field ∈ kept, (∃ value, field.2.1.value levels = .ok value) ∧
      ∃ other, field.2.2.value levels = .ok other)
    (agree : ∀ field ∈ kept, field.1.read = .ok key → ∀ {value other},
      field.2.1.value levels = .ok value → field.2.2.value levels = .ok other →
        use (forms value) = use (forms other)) :
    given levels key use (kept.map fun field => (field.1, field.2.1)) =
      given levels key use (kept.map fun field => (field.1, field.2.2)) := by
  unfold given
  rw [List.filterMap_map, List.filterMap_map]
  apply List.filterMap_congr
  intro field member
  obtain ⟨⟨value, read⟩, other, otherRead⟩ := readable field member
  cases keyRead : field.1.read with
  | error fault => simp [keyRead]
  | ok name =>
    by_cases same : name = key
    · have taken := agree field member (same ▸ keyRead) read otherRead
      simp [keyRead, read, otherRead, taken]
    · simp [keyRead, read, otherRead, same]

private theorem type?_entries {levels : Nat} {entries others : List (Quoted × Tree)}
    {kept : List (Quoted × Tree × Tree)} {omitted otherOmitted : List (Quoted × Tree)}
    (order : entries.Perm (kept.map (fun field => (field.1, field.2.1)) ++ omitted))
    (otherOrder : others.Perm (kept.map (fun field => (field.1, field.2.2)) ++ otherOmitted))
    (agree : ∀ field ∈ kept, ∀ {value other}, field.2.1.value levels = .ok value →
      field.2.2.value levels = .ok other →
        FormsAgree (Role.type.under field.1) (forms value) (forms other))
    (omits : Role.type.Omits (kept.map (·.1)) omitted)
    (otherOmits : Role.type.Omits (kept.map (·.1)) otherOmitted)
    {fields otherFields : List (String × Value)}
    (read : valuesOfFields levels entries = .ok fields)
    (otherRead : valuesOfFields levels others = .ok otherFields) :
    (forms (.object fields)).type? = (forms (.object otherFields)).type? := by
  have readable := readable_of_valuesOfFields read
  have otherReadable := readable_of_valuesOfFields otherRead
  have keys : (kept.map fun field => (field.1, field.2.1)).map (·.1) = kept.map (·.1) := by simp
  have otherKeys : (kept.map fun field => (field.1, field.2.2)).map (·.1) = kept.map (·.1) := by
    simp
  have keptReadable : ∀ field ∈ kept, (∃ value, field.2.1.value levels = .ok value) ∧
      ∃ other, field.2.2.value levels = .ok other := by
    intro field member
    obtain ⟨_, value, -, fieldRead⟩ := readable (field.1, field.2.1)
      (order.mem_iff.mpr (List.mem_append_left _ (List.mem_map.mpr ⟨field, member, rfl⟩)))
    obtain ⟨_, other, -, otherFieldRead⟩ := otherReadable (field.1, field.2.2)
      (otherOrder.mem_iff.mpr (List.mem_append_left _ (List.mem_map.mpr ⟨field, member, rfl⟩)))
    exact ⟨⟨value, fieldRead⟩, other, otherFieldRead⟩
  rw [type?_object read, type?_object otherRead,
    typeFrom?_kept order (keys ▸ omits) readable,
    typeFrom?_kept otherOrder (otherKeys ▸ otherOmits) otherReadable]
  congr 1
  · exact given_kept keptReadable fun field member _ _ _ read otherRead =>
      (agree field member read otherRead).text
  · exact given_kept keptReadable fun field member keyRead _ _ read otherRead =>
      (agree field member read otherRead).types ((Role.under_of_read keyRead).trans rfl)
  · exact given_kept keptReadable fun field member keyRead _ _ read otherRead =>
      (agree field member read otherRead).type ((Role.under_of_read keyRead).trans rfl)

theorem formsAgree_of_alike {role : Role} {first second : Tree} (alike : Alike role first second)
    {levels : Nat} {value other : Value} (read : first.value levels = .ok value)
    (otherRead : second.value levels = .ok other) :
    FormsAgree role (forms value) (forms other) := by
  induction alike generalizing levels value other with
  | same role tree =>
    cases Except.ok.inj (read.symm.trans otherRead)
    exact ⟨rfl, fun _ => rfl, fun _ => rfl⟩
  | @list role kept omitted otherOmitted alike omits otherOmits ih =>
    obtain ⟨inner, values, entered, itemsRead, rfl⟩ := value_list read
    obtain ⟨_, others, otherEntered, otherItemsRead, rfl⟩ := value_list otherRead
    cases entered.symm.trans otherEntered
    have readItems := forall₂_of_valuesOfItems itemsRead
    have otherReadItems := forall₂_of_valuesOfItems otherItemsRead
    refine ⟨rfl, ?_, ?_⟩
    · rintro rfl
      exact type?_list alike (fun index pair found => ih index pair found) omits otherOmits
        readItems otherReadItems
    · rintro rfl
      cases omits.eq_nil rfl
      cases otherOmits.eq_nil rfl
      rw [List.append_nil] at readItems otherReadItems
      apply mapM_type? readItems otherReadItems
      intro pair member value other read otherRead
      obtain ⟨index, found⟩ := List.mem_iff_getElem?.mp member
      exact (ih index pair found read otherRead).type rfl
  | @object role entries others kept omitted otherOmitted order otherOrder alike omits otherOmits
      ih =>
    obtain ⟨inner, fields, entered, entriesRead, rfl⟩ := value_object read
    obtain ⟨_, otherFields, otherEntered, otherEntriesRead, rfl⟩ := value_object otherRead
    cases entered.symm.trans otherEntered
    refine ⟨rfl, ?_, fun _ => rfl⟩
    rintro rfl
    exact type?_entries order otherOrder (fun field member => ih field member) omits otherOmits
      entriesRead otherEntriesRead

theorem respects_type : Respects TypeRef.reader .type := by
  intro first second alike levels result other read otherRead
  obtain ⟨value, firstRead, read⟩ := bind_eq_ok.mp read
  obtain ⟨otherValue, secondRead, otherRead⟩ := bind_eq_ok.mp otherRead
  have same := (formsAgree_of_alike alike firstRead secondRead).type rfl
  rw [ofValue, same] at read
  exact Except.ok.inj (read.symm.trans otherRead)

end Stencil.Document
