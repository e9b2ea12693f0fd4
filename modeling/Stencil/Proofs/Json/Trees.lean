import Stencil.Json.Reader
import Stencil.Proofs.Json.Tokens

/-!
# Trees of printed values

The tokens of a printed value spell one tree, whichever form was printed, and
reading that tree gives back the value as far as the levels suffice.  Values
with the same printed text are therefore equal.
-/

namespace Stencil.Json

mutual

def Value.tree : Value → Tree
  | .null => .null
  | .bool b => .bool b
  | .number (.natural n) => .number (Lexeme.ofNat n)
  | .number _ => .broken .noValue
  | .text text => .text (Quoted.ofText text)
  | .list items => .list (treesOfItems items) .closed
  | .object fields => .object (treesOfFields fields) .closed
termination_by structural value => value

def treesOfItems : List Value → List Tree
  | [] => []
  | item :: rest => item.tree :: treesOfItems rest
termination_by structural items => items

def treesOfFields : List (String × Value) → List (Quoted × Tree)
  | [] => []
  | (key, value) :: rest => (Quoted.ofText key, value.tree) :: treesOfFields rest
termination_by structural fields => fields

end

mutual

/-- How many lists and objects are open at once within a value. -/
def Value.depth : Value → Nat
  | .null | .bool _ | .number _ | .text _ => 0
  | .list items => depthOfItems items + 1
  | .object fields => depthOfFields fields + 1
termination_by structural value => value

def depthOfItems : List Value → Nat
  | [] => 0
  | item :: rest => max item.depth (depthOfItems rest)
termination_by structural items => items

def depthOfFields : List (String × Value) → Nat
  | [] => 0
  | (_, value) :: rest => max value.depth (depthOfFields rest)
termination_by structural fields => fields

end

theorem depthOfItems_map_le {α : Type} {value : α → Value} {bound : Nat}
    (each : ∀ item, (value item).depth ≤ bound) (items : List α) :
    depthOfItems (items.map value) ≤ bound := by
  induction items with
  | nil => exact Nat.zero_le bound
  | cons item rest ih => exact max_le (each item) ih

theorem depthOfFields_map_le {α : Type} {value : α → Value} {bound : Nat}
    (each : ∀ content, (value content).depth ≤ bound) (pairs : List (String × α)) :
    depthOfFields (pairs.map fun pair => (pair.1, value pair.2)) ≤ bound := by
  induction pairs with
  | nil => exact Nat.zero_le bound
  | cons pair rest ih => exact max_le (each pair.2) ih

/-! ## Trees from tokens -/

mutual

/-- Whether a tree is well formed: nothing in it is broken off or out of place. -/
def Tree.WellFormed : Tree → Prop
  | .null | .bool _ | .number _ => True
  | .text quoted => quoted.ending = .closed
  | .list items ending => WellFormedItems items ∧ ending = .closed
  | .object fields ending => WellFormedFields fields ∧ ending = .closed
  | .broken _ => False
termination_by structural tree => tree

def WellFormedItems : List Tree → Prop
  | [] => True
  | item :: rest => item.WellFormed ∧ WellFormedItems rest
termination_by structural items => items

def WellFormedFields : List (Quoted × Tree) → Prop
  | [] => True
  | (key, value) :: rest => key.ending = .closed ∧ value.WellFormed ∧ WellFormedFields rest
termination_by structural fields => fields

end

mutual

def Tree.tokens : Tree → List Token
  | .null => [.null]
  | .bool b => [.bool b]
  | .number lexeme => [.number lexeme]
  | .text quoted => [.text quoted]
  | .list [] _ => [.openList, .closeList]
  | .list (item :: rest) _ => .openList :: item.tokens ++ tokensOfTrees rest ++ [.closeList]
  | .object [] _ => [.openObject, .closeObject]
  | .object ((key, value) :: rest) _ =>
    .openObject :: .text key :: .colon :: value.tokens ++ tokensOfEntries rest ++ [.closeObject]
  | .broken _ => [.stray]
termination_by structural tree => tree

def tokensOfTrees : List Tree → List Token
  | [] => []
  | item :: rest => .comma :: item.tokens ++ tokensOfTrees rest
termination_by structural items => items

def tokensOfEntries : List (Quoted × Tree) → List Token
  | [] => []
  | (key, value) :: rest => .comma :: .text key :: .colon :: value.tokens ++ tokensOfEntries rest
termination_by structural fields => fields

end

theorem tokens_eq_cons (tree : Tree) :
    ∃ first more, tree.tokens = first :: more ∧ first ≠ .closeList := by
  cases tree with
  | null => exact ⟨_, _, rfl, by simp⟩
  | bool b => exact ⟨_, _, rfl, by simp⟩
  | number lexeme => exact ⟨_, _, rfl, by simp⟩
  | text quoted => exact ⟨_, _, rfl, by simp⟩
  | list items ending => cases items <;> exact ⟨_, _, rfl, by simp⟩
  | object fields ending =>
    cases fields with
    | nil => exact ⟨_, _, rfl, by simp⟩
    | cons field rest => exact ⟨_, _, rfl, by simp⟩
  | broken breakage => exact ⟨_, _, rfl, by simp⟩

private theorem step_firstItem (tree : Tree) (frames : List Frame) :
    tree.tokens.foldl Place.step (.firstItem frames) =
      tree.tokens.foldl Place.step (.value (.items [] :: frames)) := by
  obtain ⟨first, more, spelled, opens⟩ := tokens_eq_cons tree
  simp [spelled, Place.step, opens]

private theorem step_item (tree : Tree) (frames : List Frame) (done : List Tree) :
    tree.tokens.foldl Place.step (.item frames done) =
      tree.tokens.foldl Place.step (.value (.items done :: frames)) := by
  obtain ⟨first, more, spelled, opens⟩ := tokens_eq_cons tree
  simp [spelled, Place.step, opens]

private theorem step_key {key : Quoted} (closed : key.ending = .closed) (frames : List Frame)
    (done : List (Quoted × Tree)) :
    [Token.text key, .colon].foldl Place.step (.nextKey frames done) =
      .value (.field done key :: frames) := by
  simp [Place.step, readKey, closed]

mutual

/-- The tokens of a well-formed tree, read where a value is due, spell the tree. -/
theorem foldl_step_tokens : ∀ (tree : Tree) (frames : List Frame), tree.WellFormed →
    tree.tokens.foldl Place.step (.value frames) = .after tree frames
  | .null, _, _ => rfl
  | .bool _, _, _ => rfl
  | .number _, _, _ => rfl
  | .text quoted, frames, closed => by
    have ending : quoted.ending = .closed := closed
    simp [Tree.tokens, Place.step, readValue, ending]
  | .list [] _, _, ⟨_, rfl⟩ => rfl
  | .list (item :: rest) _, frames, ⟨wellFormed, rfl⟩ => by
    have first := foldl_step_tokens item (.items [] :: frames) wellFormed.1
    have others := foldl_step_items rest frames [item] wellFormed.2
    rw [Tree.tokens, List.cons_append, List.cons_append, List.foldl_cons, List.append_assoc,
      List.foldl_append]
    change (tokensOfTrees rest ++ [Token.closeList]).foldl Place.step
      (item.tokens.foldl Place.step (.firstItem frames)) = _
    rw [step_firstItem, first, Place.after, others]
    rfl
  | .object [] _, _, ⟨_, rfl⟩ => rfl
  | .object ((key, value) :: rest) _, frames, ⟨⟨closed, valueFormed, restFormed⟩, rfl⟩ => by
    have first := foldl_step_tokens value (.field [] key :: frames) valueFormed
    have others := foldl_step_fields rest frames [(key, value)] restFormed
    have opened : [Token.openObject, .text key, .colon].foldl Place.step (.value frames) =
        .value (.field [] key :: frames) := by
      simp [Place.step, readValue, readKey, closed]
    have spelled : (Tree.object ((key, value) :: rest) .closed).tokens =
        [.openObject, .text key, .colon] ++
          (value.tokens ++ (tokensOfEntries rest ++ [.closeObject])) := by
      simp [Tree.tokens]
    rw [spelled, List.foldl_append, opened, List.foldl_append, first, Place.after, others]
    rfl
  | .broken _, _, absurdity => absurdity.elim

theorem foldl_step_items : ∀ (items : List Tree) (frames : List Frame) (done : List Tree),
    WellFormedItems items →
    (tokensOfTrees items ++ [Token.closeList]).foldl Place.step (.afterItem frames done) =
      .after (.list (done.reverse ++ items) .closed) frames
  | [], frames, done, _ => by simp [tokensOfTrees, Place.step]
  | item :: rest, frames, done, wellFormed => by
    have first := foldl_step_tokens item (.items done :: frames) wellFormed.1
    have others := foldl_step_items rest frames (item :: done) wellFormed.2
    rw [tokensOfTrees, List.cons_append, List.cons_append, List.foldl_cons, List.append_assoc,
      List.foldl_append]
    change (tokensOfTrees rest ++ [Token.closeList]).foldl Place.step
      (item.tokens.foldl Place.step (.item frames done)) = _
    rw [step_item, first, Place.after, others]
    simp

theorem foldl_step_fields : ∀ (fields : List (Quoted × Tree)) (frames : List Frame)
    (done : List (Quoted × Tree)), WellFormedFields fields →
    (tokensOfEntries fields ++ [Token.closeObject]).foldl Place.step (.afterField frames done) =
      .after (.object (done.reverse ++ fields) .closed) frames
  | [], frames, done, _ => by simp [tokensOfEntries, Place.step]
  | (key, value) :: rest, frames, done, ⟨closed, valueFormed, restFormed⟩ => by
    have first := foldl_step_tokens value (.field done key :: frames) valueFormed
    have others := foldl_step_fields rest frames ((key, value) :: done) restFormed
    have spelled : tokensOfEntries ((key, value) :: rest) ++ [.closeObject] =
        .comma :: ([.text key, .colon] ++
          (value.tokens ++ (tokensOfEntries rest ++ [.closeObject]))) := by
      simp [tokensOfEntries]
    rw [spelled, List.foldl_cons, List.foldl_append]
    change (value.tokens ++ _).foldl Place.step
      ([Token.text key, .colon].foldl Place.step (.nextKey frames done)) = _
    rw [step_key closed, List.foldl_append, first, Place.after, others]
    simp

end

/-- The tokens of a well-formed tree spell this tree and nothing after it. -/
theorem Tree.ofTokens_tokens {tree : Tree} (wellFormed : tree.WellFormed) :
    Tree.ofTokens tree.tokens = (tree, false) := by
  rw [Tree.ofTokens, foldl_step_tokens tree [] wellFormed]
  rfl

mutual

theorem wellFormed_tree : ∀ value : Value, value.Whole → value.tree.WellFormed
  | .null, _ => trivial
  | .bool _, _ => trivial
  | .number (.natural _), _ => trivial
  | .text _, _ => rfl
  | .list items, whole => ⟨wellFormed_treesOfItems items whole, rfl⟩
  | .object fields, whole => ⟨wellFormed_treesOfFields fields whole, rfl⟩

theorem wellFormed_treesOfItems : ∀ items : List Value, WholeItems items →
    WellFormedItems (treesOfItems items)
  | [], _ => trivial
  | item :: rest, whole => ⟨wellFormed_tree item whole.1, wellFormed_treesOfItems rest whole.2⟩

theorem wellFormed_treesOfFields : ∀ fields : List (String × Value), WholeFields fields →
    WellFormedFields (treesOfFields fields)
  | [], _ => trivial
  | (_, value) :: rest, whole =>
    ⟨rfl, wellFormed_tree value whole.1, wellFormed_treesOfFields rest whole.2⟩

end

mutual

theorem tokens_tree : ∀ value : Value, value.tree.tokens = value.tokens
  | .null => rfl
  | .bool _ => rfl
  | .number (.natural _) => rfl
  | .number (.negative _) => rfl
  | .number (.decimal _) => rfl
  | .text _ => rfl
  | .list [] => rfl
  | .list (item :: rest) => by
    simp only [Value.tree, treesOfItems, Tree.tokens, Value.tokens, tokens_tree item,
      tokensOfTrees_treesOfItems rest]
  | .object [] => rfl
  | .object ((key, value) :: rest) => by
    simp only [Value.tree, treesOfFields, Tree.tokens, Value.tokens, tokens_tree value,
      tokensOfEntries_treesOfFields rest]

theorem tokensOfTrees_treesOfItems : ∀ items : List Value,
    tokensOfTrees (treesOfItems items) = tokensOfItems items
  | [] => rfl
  | item :: rest => by
    simp only [treesOfItems, tokensOfTrees, tokensOfItems, tokens_tree item,
      tokensOfTrees_treesOfItems rest]

theorem tokensOfEntries_treesOfFields : ∀ fields : List (String × Value),
    tokensOfEntries (treesOfFields fields) = tokensOfFields fields
  | [] => rfl
  | (key, value) :: rest => by
    simp only [treesOfFields, tokensOfEntries, tokensOfFields, tokens_tree value,
      tokensOfEntries_treesOfFields rest]

end

/-- Whether a text spells a tree, and nothing but this tree. -/
def Tree.SpelledBy (tree : Tree) (text : String) : Prop :=
  tree.WellFormed ∧ LaidOut tree.tokens text.toList

/-- A text that spells a tree is read as this tree. -/
theorem Tree.SpelledBy.ofText_eq {tree : Tree} {text : String} (spelled : tree.SpelledBy text) :
    Tree.ofText text = (tree, false) := by
  rw [Tree.ofText, Json.tokens, spelled.2.tokensFrom_eq, Tree.ofTokens_tokens spelled.1]

theorem spelledBy_toCompact {value : Value} (whole : value.Whole) :
    value.tree.SpelledBy value.toCompact :=
  ⟨wellFormed_tree value whole, tokens_tree value ▸ laidOut_toCompact whole⟩

theorem spelledBy_toPretty {value : Value} (whole : value.Whole) :
    value.tree.SpelledBy value.toPretty :=
  ⟨wellFormed_tree value whole, tokens_tree value ▸ laidOut_toPretty whole⟩

theorem ofText_toCompact {value : Value} (whole : value.Whole) :
    Tree.ofText value.toCompact = (value.tree, false) :=
  (spelledBy_toCompact whole).ofText_eq

theorem ofText_toPretty {value : Value} (whole : value.Whole) :
    Tree.ofText value.toPretty = (value.tree, false) :=
  (spelledBy_toPretty whole).ofText_eq

/-! ## Reading trees back -/

private theorem readUnits_ofChar (text : List Char) :
    readUnits .closed (text.map TextUnit.ofChar) = .ok text := by
  induction text with
  | nil => rfl
  | cons c rest ih =>
    by_cases control : c.toNat < 0x20 ∧ c ∉ ['\x08', '\t', '\n', '\x0c', '\r']
    · have noTrailing : isTrailingSurrogate c.toNat = false := by
        simp [isTrailingSurrogate]
        omega
      have noLeading : isLeadingSurrogate c.toNat = false := by
        simp [isLeadingSurrogate]
        omega
      rw [List.map_cons, TextUnit.ofChar, if_pos control, readUnits.eq_def]
      simp [noTrailing, noLeading, ih, Char.ofNat_toNat, Except.map]
    · rw [List.map_cons, TextUnit.ofChar, if_neg control, readUnits, ih]
      rfl

@[simp] theorem Quoted.read_ofText (text : String) : (Quoted.ofText text).read = .ok text := by
  rw [Quoted.read, Quoted.ofText, readUnits_ofChar]
  simp [Except.map]

/-- What is read where some levels may open, by something that opens as many as
given within each other. -/
def withinLevels {α : Type} (levels depth : Nat) (result : α) : Except Fault α :=
  if depth ≤ levels then .ok result else .error .tooDeep

section Levels

variable {α β : Type} {levels : Nat}

theorem withinLevels_of_le {depth : Nat} (fits : depth ≤ levels) (result : α) :
    withinLevels levels depth result = .ok result := by
  rw [withinLevels, if_pos fits]

@[simp] theorem withinLevels_zero (result : α) : withinLevels levels 0 result = .ok result :=
  withinLevels_of_le (Nat.zero_le levels) result

theorem withinLevels_bind {first second : Nat} {value : α} {next : α → Except Fault β}
    {result : β} (later : next value = withinLevels levels second result) :
    withinLevels levels first value >>= next = withinLevels levels (max first second) result := by
  unfold withinLevels at later ⊢
  by_cases fits : first ≤ levels
  · rw [if_pos fits]
    simp only [bind, Except.bind, later, Nat.max_le, fits, true_and]
  · rw [if_neg fits, if_neg fun both => fits (le_trans (le_max_left _ _) both)]
    rfl

/-- What is made of something that was read opens no level of its own. -/
theorem withinLevels_bind_ok {depth : Nat} {value : α} {next : α → Except Fault β} {result : β}
    (made : next value = .ok result) :
    withinLevels levels depth value >>= next = withinLevels levels depth result := by
  have read : withinLevels levels depth value >>= next =
      withinLevels levels (max depth 0) result :=
    withinLevels_bind (made.trans (withinLevels_zero result).symm)
  rwa [Nat.max_zero] at read

theorem enter_bind {depth : Nat} {next : Nat → Except Fault β} {result : β}
    (inside : ∀ inner, next inner = withinLevels inner depth result) :
    enter levels >>= next = withinLevels levels (depth + 1) result := by
  cases levels with
  | zero => rfl
  | succ inner =>
    change next inner = _
    rw [inside inner]
    simp only [withinLevels, Nat.succ_le_succ_iff]

theorem withinLevels_map {depth : Nat} (change : α → β) (value : α) :
    (withinLevels levels depth value).map change = withinLevels levels depth (change value) := by
  unfold withinLevels
  split <;> rfl

end Levels

mutual

/-- The tree of a printed value is read back where it is not too deep, and
refused for its depth where it is. -/
theorem value_tree : ∀ (value : Value) (levels : Nat), value.Whole →
    value.tree.value levels = withinLevels levels value.depth value
  | .null, _, _ => (withinLevels_zero _).symm
  | .bool _, _, _ => (withinLevels_zero _).symm
  | .number (.natural n), _, whole => by
    have small : n < UInt64.size := whole
    simp [Value.tree, Tree.value, Value.depth, Lexeme.value_ofNat small]
  | .text text, _, _ => by
    simp [Value.tree, Tree.value, Value.depth]
  | .list items, levels, whole => by
    rw [Value.tree, Tree.value, Value.depth]
    refine enter_bind fun inner => ?_
    rw [valuesOfItems_trees items inner whole]
    exact withinLevels_bind_ok rfl
  | .object fields, levels, whole => by
    rw [Value.tree, Tree.value, Value.depth]
    refine enter_bind fun inner => ?_
    rw [valuesOfFields_trees fields inner whole]
    exact withinLevels_bind_ok rfl

theorem valuesOfItems_trees : ∀ (items : List Value) (levels : Nat), WholeItems items →
    valuesOfItems levels (treesOfItems items) = withinLevels levels (depthOfItems items) items
  | [], _, _ => (withinLevels_zero _).symm
  | item :: rest, levels, whole => by
    rw [treesOfItems, valuesOfItems, depthOfItems, value_tree item levels whole.1]
    refine withinLevels_bind ?_
    rw [valuesOfItems_trees rest levels whole.2]
    exact withinLevels_bind_ok rfl

theorem valuesOfFields_trees : ∀ (fields : List (String × Value)) (levels : Nat),
    WholeFields fields →
    valuesOfFields levels (treesOfFields fields) =
      withinLevels levels (depthOfFields fields) fields
  | [], _, _ => (withinLevels_zero _).symm
  | (key, value) :: rest, levels, whole => by
    rw [treesOfFields, valuesOfFields, depthOfFields, Quoted.read_ofText]
    change value.tree.value levels >>= _ = _
    rw [value_tree value levels whole.1]
    refine withinLevels_bind ?_
    rw [valuesOfFields_trees rest levels whole.2]
    exact withinLevels_bind_ok rfl

end

theorem tree_injective {first second : Value} (whole : first.Whole) (otherWhole : second.Whole)
    (same : first.tree = second.tree) : first = second := by
  let levels := max first.depth second.depth
  have read : first.tree.value levels = .ok first := by
    rw [value_tree first levels whole, withinLevels_of_le (le_max_left _ _)]
  rw [same, value_tree second levels otherWhole, withinLevels_of_le (le_max_right _ _)] at read
  exact (Except.ok.inj read).symm

/-- Values with the same compact text are equal. -/
theorem toCompact_injective {first second : Value} (whole : first.Whole)
    (otherWhole : second.Whole) (same : first.toCompact = second.toCompact) :
    first = second := by
  have trees := ofText_toCompact whole
  rw [same, ofText_toCompact otherWhole] at trees
  exact tree_injective whole otherWhole (congrArg Prod.fst trees).symm

end Stencil.Json
