import Stencil.Declaration.Json
import Stencil.Proofs.Json.Trees

/-!
# Readers of printed values

What a reader makes of a printed value is settled by two things: the result,
which does not depend on the levels that may still open, and the depth of the
value, which alone decides whether there is a result.  Readers that are put
together keep this law, so it is enough to know it of their parts.
-/

namespace Stencil.Json

/-- Whether a reader makes something of a printed value, and refuses the value
exactly where it is too deep. -/
def Reader.ReadsBack {α : Type} (reader : Reader α) (value : Value) (result : α) : Prop :=
  ∀ levels, reader levels value.tree = withinLevels levels value.depth result

theorem wholeFields_map {α : Type} {value : α → Value} (whole : ∀ item, (value item).Whole)
    (pairs : List (String × α)) :
    WholeFields (pairs.map fun pair => (pair.1, value pair.2)) := by
  induction pairs with
  | nil => trivial
  | cons pair rest ih => exact ⟨whole pair.2, ih⟩

namespace Reader

variable {α : Type}

theorem readsBack_value {value : Value} (whole : value.Whole) :
    Reader.value.ReadsBack value value :=
  fun levels => value_tree value levels whole

theorem readsBack_text (expected content : String) :
    (text expected).ReadsBack (.text content) content :=
  fun _ => (Quoted.read_ofText content).trans (withinLevels_zero content).symm

theorem readsBack_naturalBelow {limit n : Nat} (expected : String) (small : n < limit)
    (whole : n < UInt64.size) : (naturalBelow limit expected).ReadsBack (.natural n) n := by
  intro levels
  show naturalBelow limit expected levels (.number (Lexeme.ofNat n)) = withinLevels levels 0 n
  simp only [naturalBelow, Lexeme.value_ofNat whole, if_pos small, withinLevels_zero]

theorem readsBack_variant {variants : List (String × α)} {name : String} {chosen : α}
    (known : variants.find? (·.1 = name) = some (name, chosen)) :
    (variant variants).ReadsBack (.text name) chosen := by
  intro levels
  show ((Quoted.ofText name).read >>= variant? variants) = withinLevels levels 0 chosen
  rw [Quoted.read_ofText, withinLevels_zero]
  show variant? variants name = .ok chosen
  rw [variant?, known]

theorem readsBack_list {item : Reader α} {write : α → Value}
    (each : ∀ value, item.ReadsBack (write value) value) (values : List α) :
    (list item).ReadsBack (.list (values.map write)) values := by
  have items : ∀ levels, (treesOfItems (values.map write)).mapM (item levels) =
      withinLevels levels (depthOfItems (values.map write)) values := by
    intro levels
    induction values with
    | nil => exact (withinLevels_zero _).symm
    | cons value rest ih =>
      rw [List.map_cons, treesOfItems, depthOfItems, List.mapM_cons, each value levels]
      apply withinLevels_bind
      rw [ih]
      exact withinLevels_bind_ok rfl
  intro levels
  apply enter_bind
  intro inner
  rw [items inner]
  exact withinLevels_bind_ok rfl

theorem readsBack_fields {value : Reader α} {write : α → Value}
    (each : ∀ content, value.ReadsBack (write content) content) (pairs : List (String × α)) :
    (fields value).ReadsBack (.object (pairs.map fun pair => (pair.1, write pair.2))) pairs := by
  have entries : ∀ levels, (treesOfFields (pairs.map fun pair => (pair.1, write pair.2))).mapM
      (fun entry => do
        let name ← entry.1.read
        let read ← value levels entry.2
        return (name, read)) =
      withinLevels levels (depthOfFields (pairs.map fun pair => (pair.1, write pair.2))) pairs := by
    intro levels
    induction pairs with
    | nil => exact (withinLevels_zero _).symm
    | cons pair rest ih =>
      have first : (do
          let name ← (Quoted.ofText pair.1).read
          let read ← value levels (write pair.2).tree
          return (name, read)) = withinLevels levels (write pair.2).depth pair := by
        rw [Quoted.read_ofText, each pair.2 levels]
        exact withinLevels_bind_ok rfl
      rw [List.map_cons, treesOfFields, depthOfFields, List.mapM_cons, first]
      apply withinLevels_bind
      rw [ih]
      exact withinLevels_bind_ok rfl
  intro levels
  apply enter_bind
  intro inner
  rw [entries inner]
  exact withinLevels_bind_ok rfl

/-- A text that spells a printed value is read as the value is. -/
theorem run_of_ofText {reader : Reader α} {value : Value} {result : α} {text : String}
    (spelled : Tree.ofText text = (value.tree, false)) (reads : reader.ReadsBack value result) :
    reader.run text = withinLevels deepest value.depth result := by
  unfold run
  rw [spelled]
  show reader deepest value.tree >>= _ = _
  rw [reads deepest]
  exact withinLevels_bind_ok rfl

end Reader

namespace Record

variable {σ : Type} {record : Record σ}

/-- Whether the entries of a printed object change a record as given, where
other keys were read before. -/
def ReadsEntries (record : Record σ) (fields : List (String × Value)) (seen : List String)
    (current result : σ) : Prop :=
  ∀ levels, record.readEntries levels (treesOfFields fields) current seen =
    withinLevels levels (depthOfFields fields) (result, (fields.map (·.1)).reverse ++ seen)

theorem readsEntries_nil (seen : List String) (current : σ) :
    record.ReadsEntries [] seen current current :=
  fun _ => (withinLevels_zero _).symm

/-- A field that is known, and that comes for the first time, changes the record. -/
theorem readsEntries_cons {α : Type} {key : String} {required : Bool} {reader : Reader α}
    {put : α → σ → σ} {value : Value} {content : α}
    (known : record.fields.find? (·.key = key) = some (fieldOf key required reader put))
    {seen : List String} (fresh : seen.contains key = false)
    (reads : reader.ReadsBack value content) {rest : List (String × Value)} {current result : σ}
    (later : record.ReadsEntries rest (key :: seen) (put content current) result) :
    record.ReadsEntries ((key, value) :: rest) seen current result := by
  intro levels
  have change : (fieldOf key required reader put).read levels value.tree =
      withinLevels levels value.depth (put content) := by
    show (reader levels value.tree).map put = _
    rw [reads levels, withinLevels_map]
  have keys : (((key, value) :: rest).map (·.1)).reverse ++ seen =
      (rest.map (·.1)).reverse ++ key :: seen := by
    rw [List.map_cons, List.reverse_cons, List.append_assoc, List.singleton_append]
  rw [treesOfFields, readEntries, depthOfFields, Quoted.read_ofText, keys]
  simp only [bind, Except.bind, known, fresh, Bool.false_eq_true, if_false, change]
  exact withinLevels_bind (later levels)

theorem readsBack_of_entries {fields : List (String × Value)} {result : σ}
    (complete : record.missing? (fields.map (·.1)).reverse = none)
    (entries : record.ReadsEntries fields [] record.blank result) :
    record.reader.ReadsBack (.object fields) result := by
  intro levels
  apply enter_bind
  intro inner
  rw [entries inner, List.append_nil]
  apply withinLevels_bind_ok
  simp only [Ending.closesObject, complete]
  rfl

end Record

end Stencil.Json
