import Stencil.Proofs.Json.Trees

/-!
# What was read, from what came of it

Where a reader makes something of a tree, each of its parts has made something of its own.
In particular it has gone over the whole tree, and would have stopped at a place where the
text is not well formed.
-/

namespace Stencil.Json

theorem bind_eq_ok {α β : Type} {first : Except Fault α} {next : α → Except Fault β} {result : β} :
    (first >>= next) = .ok result ↔ ∃ value, first = .ok value ∧ next value = .ok result := by
  cases first with
  | error fault => exact ⟨nofun, fun ⟨_, absurdity, _⟩ => nomatch absurdity⟩
  | ok value =>
    constructor
    · exact fun read => ⟨value, rfl, read⟩
    · rintro ⟨_, ⟨⟩, read⟩
      exact read

theorem map_eq_ok {α β : Type} {change : α → β} {first : Except Fault α} {result : β} :
    first.map change = .ok result ↔ ∃ value, first = .ok value ∧ change value = result := by
  cases first with
  | error fault => exact ⟨nofun, fun ⟨_, absurdity, _⟩ => nomatch absurdity⟩
  | ok value => simp [Except.map]

private theorem fault?_of_readUnits {ending : TextEnd} {units : List TextUnit} {text : List Char}
    (read : readUnits ending units = .ok text) : ending.fault? = none := by
  fun_induction readUnits ending units generalizing text with
  | case1 fine => exact fine
  | case3 _ _ ih | case7 _ _ _ _ _ _ ih | case9 _ _ _ _ ih =>
    obtain ⟨rest, restRead, -⟩ := map_eq_ok.mp read
    exact ih restRead
  | _ => cases read

theorem TextEnd.eq_closed {ending : TextEnd} (fine : ending.fault? = none) : ending = .closed := by
  cases ending <;> first | rfl | cases fine

theorem Quoted.closed_of_read {quoted : Quoted} {text : String} (read : quoted.read = .ok text) :
    quoted.ending = .closed := by
  obtain ⟨characters, unitsRead, -⟩ := map_eq_ok.mp read
  exact TextEnd.eq_closed (fault?_of_readUnits unitsRead)

theorem Quoted.closed_of_skip {quoted : Quoted} (skipped : quoted.skip = .ok ()) :
    quoted.ending = .closed := by
  apply TextEnd.eq_closed
  cases fault : quoted.ending.fault? with
  | none => rfl
  | some fault' => simp [Quoted.skip, fault] at skipped

theorem Ending.eq_closed_of_list {ending : Ending} (closes : ending.closesList = .ok ()) :
    ending = .closed := by
  cases ending <;> first | rfl | cases closes

theorem Ending.eq_closed_of_object {ending : Ending} (closes : ending.closesObject = .ok ()) :
    ending = .closed := by
  cases ending <;> first | rfl | cases closes

mutual

/-- A tree that can be skipped is well formed. -/
theorem wellFormed_of_skip : ∀ tree : Tree, tree.skip = .ok () → tree.WellFormed
  | .null, _ => trivial
  | .bool _, _ => trivial
  | .number _, _ => trivial
  | .text _, skipped => Quoted.closed_of_skip skipped
  | .list items ending, skipped => by
    obtain ⟨_, itemsSkipped, closes⟩ := bind_eq_ok.mp skipped
    have closed : ending = .closed := by cases ending <;> first | rfl | cases closes
    exact ⟨wellFormedItems_of_skip items itemsSkipped, closed⟩
  | .object fields ending, skipped => by
    obtain ⟨_, fieldsSkipped, closes⟩ := bind_eq_ok.mp skipped
    have closed : ending = .closed := by cases ending <;> first | rfl | cases closes
    exact ⟨wellFormedFields_of_skip fields fieldsSkipped, closed⟩

theorem wellFormedItems_of_skip : ∀ items : List Tree, skipItems items = .ok () →
    WellFormedItems items
  | [], _ => trivial
  | item :: rest, skipped => by
    obtain ⟨_, first, others⟩ := bind_eq_ok.mp skipped
    exact ⟨wellFormed_of_skip item first, wellFormedItems_of_skip rest others⟩

theorem wellFormedFields_of_skip : ∀ fields : List (Quoted × Tree), skipFields fields = .ok () →
    WellFormedFields fields
  | [], _ => trivial
  | (key, value) :: rest, skipped => by
    obtain ⟨_, keySkipped, skipped⟩ := bind_eq_ok.mp skipped
    obtain ⟨_, first, others⟩ := bind_eq_ok.mp skipped
    exact ⟨Quoted.closed_of_skip keySkipped, wellFormed_of_skip value first,
      wellFormedFields_of_skip rest others⟩

end

/-- Whether a reader makes something of well-formed trees only. -/
def Reader.Thorough {α : Type} (reader : Reader α) : Prop :=
  ∀ {levels tree value}, reader levels tree = .ok value → tree.WellFormed

namespace Reader

variable {α : Type}

theorem thorough_text (expected : String) : (text expected).Thorough := by
  intro levels tree value read
  cases tree with
  | text quoted => exact Quoted.closed_of_read read
  | _ => cases read

theorem forall₂_of_mapM {read : Tree → Except Fault α} {items : List Tree} {values : List α}
    (itemsRead : items.mapM read = .ok values) :
    List.Forall₂ (fun item value => read item = .ok value) items values := by
  induction items generalizing values with
  | nil =>
    cases itemsRead
    exact .nil
  | cons first rest ih =>
    rw [List.mapM_cons] at itemsRead
    obtain ⟨_, firstRead, itemsRead⟩ := bind_eq_ok.mp itemsRead
    obtain ⟨_, restRead, itemsRead⟩ := bind_eq_ok.mp itemsRead
    cases itemsRead
    exact .cons firstRead (ih restRead)

theorem wellFormedItems_of_forall₂ {read : Tree → Except Fault α}
    (each : ∀ {tree value}, read tree = .ok value → tree.WellFormed) {items : List Tree}
    {values : List α}
    (itemsRead : List.Forall₂ (fun item value => read item = .ok value) items values) :
    WellFormedItems items := by
  induction itemsRead with
  | nil => trivial
  | cons first _ ih => exact ⟨each first, ih⟩

theorem thorough_list {item : Reader α} (each : item.Thorough) : (list item).Thorough := by
  intro levels tree value read
  cases tree with
  | list items ending =>
    obtain ⟨inner, -, read⟩ := bind_eq_ok.mp read
    obtain ⟨values, itemsRead, read⟩ := bind_eq_ok.mp read
    obtain ⟨_, closes, -⟩ := bind_eq_ok.mp read
    exact ⟨wellFormedItems_of_forall₂ each (forall₂_of_mapM itemsRead),
      Ending.eq_closed_of_list closes⟩
  | _ => cases read

/-- A variant that is written as an object has its name as the only key and null as the
value. -/
theorem variant_object {variants : List (String × α)} {levels : Nat}
    {entries : List (Quoted × Tree)} {ending : Ending} {chosen : α}
    (read : variant variants levels (.object entries ending) = .ok chosen) :
    ∃ key name, entries = [(key, .null)] ∧ ending = .closed ∧ key.read = .ok name ∧
      variant? variants name = .ok chosen := by
  obtain ⟨inner, -, read⟩ := bind_eq_ok.mp read
  match entries, read with
  | [], read => cases ending <;> cases read
  | (key, tree) :: more, read =>
    obtain ⟨name, keyRead, read⟩ := bind_eq_ok.mp read
    obtain ⟨value, found, read⟩ := bind_eq_ok.mp read
    obtain ⟨_, treeRead, read⟩ := bind_eq_ok.mp read
    obtain ⟨_, closes, read⟩ := bind_eq_ok.mp read
    cases read
    have isNull : tree = .null := by
      cases tree with
      | null => rfl
      | _ => cases treeRead
    have closed : more = [] ∧ ending = .closed := by
      cases more with
      | nil => cases ending <;> first | exact ⟨rfl, rfl⟩ | cases closes
      | cons _ _ => cases closes
    obtain ⟨rfl, rfl⟩ := closed
    exact ⟨key, name, by rw [isNull], rfl, keyRead, found⟩

theorem thorough_variant (variants : List (String × α)) : (variant variants).Thorough := by
  intro levels tree value read
  cases tree with
  | text quoted =>
    obtain ⟨_, nameRead, -⟩ := bind_eq_ok.mp read
    exact Quoted.closed_of_read nameRead
  | object entries ending =>
    obtain ⟨key, name, rfl, closed, keyRead, -⟩ := variant_object read
    exact ⟨⟨Quoted.closed_of_read keyRead, trivial, trivial⟩, closed⟩
  | null | bool _ | number _ | list _ _ => cases read
  | broken breakage => cases breakage <;> cases read

end Reader

/-! ## Values -/

theorem forall₂_of_valuesOfItems {levels : Nat} {items : List Tree} {values : List Value}
    (read : valuesOfItems levels items = .ok values) :
    List.Forall₂ (fun item value => item.value levels = .ok value) items values := by
  induction items generalizing values with
  | nil =>
    cases read
    exact .nil
  | cons item rest ih =>
    obtain ⟨value, itemRead, read⟩ := bind_eq_ok.mp read
    obtain ⟨later, restRead, read⟩ := bind_eq_ok.mp read
    cases read
    exact .cons itemRead (ih restRead)

theorem readable_of_valuesOfFields {levels : Nat} {entries : List (Quoted × Tree)}
    {fields : List (String × Value)} (read : valuesOfFields levels entries = .ok fields) :
    ∀ entry ∈ entries, ∃ name value,
      entry.1.read = .ok name ∧ entry.2.value levels = .ok value := by
  induction entries generalizing fields with
  | nil => exact fun _ member => nomatch member
  | cons entry rest ih =>
    obtain ⟨name, keyRead, read⟩ := bind_eq_ok.mp read
    obtain ⟨value, valueRead, read⟩ := bind_eq_ok.mp read
    obtain ⟨later, restRead, -⟩ := bind_eq_ok.mp read
    exact List.forall_mem_cons.mpr ⟨⟨name, value, keyRead, valueRead⟩, ih restRead⟩

theorem value_list {levels : Nat} {items : List Tree} {ending : Ending} {value : Value}
    (read : (Tree.list items ending).value levels = .ok value) :
    ∃ inner values, enter levels = .ok inner ∧ valuesOfItems inner items = .ok values ∧
      value = .list values := by
  obtain ⟨inner, entered, read⟩ := bind_eq_ok.mp read
  obtain ⟨values, itemsRead, read⟩ := bind_eq_ok.mp read
  obtain ⟨_, -, read⟩ := bind_eq_ok.mp read
  exact ⟨inner, values, entered, itemsRead, (Except.ok.inj read).symm⟩

theorem value_object {levels : Nat} {entries : List (Quoted × Tree)} {ending : Ending}
    {value : Value} (read : (Tree.object entries ending).value levels = .ok value) :
    ∃ inner fields, enter levels = .ok inner ∧ valuesOfFields inner entries = .ok fields ∧
      value = .object fields := by
  obtain ⟨inner, entered, read⟩ := bind_eq_ok.mp read
  obtain ⟨fields, entriesRead, read⟩ := bind_eq_ok.mp read
  obtain ⟨_, -, read⟩ := bind_eq_ok.mp read
  exact ⟨inner, fields, entered, entriesRead, (Except.ok.inj read).symm⟩

mutual

theorem wellFormed_of_value : ∀ {levels : Nat} (tree : Tree) {value : Value},
    tree.value levels = .ok value → tree.WellFormed
  | _, .null, _, _ => trivial
  | _, .bool _, _, _ => trivial
  | _, .number _, _, _ => trivial
  | _, .text _, _, read => by
    obtain ⟨_, textRead, -⟩ := bind_eq_ok.mp read
    exact Quoted.closed_of_read textRead
  | _, .list items _, _, read => by
    obtain ⟨_, -, read⟩ := bind_eq_ok.mp read
    obtain ⟨_, itemsRead, read⟩ := bind_eq_ok.mp read
    obtain ⟨_, closes, -⟩ := bind_eq_ok.mp read
    exact ⟨wellFormed_of_values items itemsRead, Ending.eq_closed_of_list closes⟩
  | _, .object fields _, _, read => by
    obtain ⟨_, -, read⟩ := bind_eq_ok.mp read
    obtain ⟨_, fieldsRead, read⟩ := bind_eq_ok.mp read
    obtain ⟨_, closes, -⟩ := bind_eq_ok.mp read
    exact ⟨wellFormed_of_entries fields fieldsRead, Ending.eq_closed_of_object closes⟩

theorem wellFormed_of_values : ∀ {levels : Nat} (items : List Tree) {values : List Value},
    valuesOfItems levels items = .ok values → WellFormedItems items
  | _, [], _, _ => trivial
  | _, item :: rest, _, read => by
    obtain ⟨_, itemRead, read⟩ := bind_eq_ok.mp read
    obtain ⟨_, restRead, -⟩ := bind_eq_ok.mp read
    exact ⟨wellFormed_of_value item itemRead, wellFormed_of_values rest restRead⟩

theorem wellFormed_of_entries : ∀ {levels : Nat} (fields : List (Quoted × Tree))
    {values : List (String × Value)}, valuesOfFields levels fields = .ok values →
      WellFormedFields fields
  | _, [], _, _ => trivial
  | _, (_, value) :: rest, _, read => by
    obtain ⟨_, keyRead, read⟩ := bind_eq_ok.mp read
    obtain ⟨_, valueRead, read⟩ := bind_eq_ok.mp read
    obtain ⟨_, restRead, -⟩ := bind_eq_ok.mp read
    exact ⟨Quoted.closed_of_read keyRead, wellFormed_of_value value valueRead,
      wellFormed_of_entries rest restRead⟩

end

end Stencil.Json
