import Mathlib.Tactic
import Stencil.Text.EditDistance

/-!
# The edit distance counts the fewest edits

`Edits` relates two lists if some number of edits turns one into the other.  The rows
that are computed one after the other hold the least such numbers for all prefixes.
Prefixes grow at their ends, so the proof looks at them backwards, where an element more
is an element in front.
-/

namespace Stencil.Text

variable {α : Type}

/-- Editing a list from its front to its end.  Keeping an element costs nothing, and
each other step is one edit. -/
inductive Edits : Nat → List α → List α → Prop where
  | nil : Edits 0 [] []
  | keep {edits : Nat} {source target : List α} (element : α) :
      Edits edits source target → Edits edits (element :: source) (element :: target)
  | replace {edits : Nat} {source target : List α} (old new : α) :
      Edits edits source target → Edits (edits + 1) (old :: source) (new :: target)
  | delete {edits : Nat} {source target : List α} (old : α) :
      Edits edits source target → Edits (edits + 1) (old :: source) target
  | insert {edits : Nat} {source target : List α} (new : α) :
      Edits edits source target → Edits (edits + 1) source (new :: target)

namespace Edits

variable {edits : Nat} {source target : List α}

theorem symm (changes : Edits edits source target) : Edits edits target source := by
  induction changes with
  | nil => exact .nil
  | keep element _ ih => exact .keep element ih
  | replace old new _ ih => exact .replace new old ih
  | delete old _ ih => exact .insert old ih
  | insert new _ ih => exact .delete new ih

theorem append {more : Nat} {sourceEnd targetEnd : List α}
    (changes : Edits edits source target) (changesEnd : Edits more sourceEnd targetEnd) :
    Edits (edits + more) (source ++ sourceEnd) (target ++ targetEnd) := by
  induction changes with
  | nil => simpa using changesEnd
  | keep element _ ih => exact .keep element ih
  | replace old new _ ih =>
      rw [Nat.add_right_comm]
      exact .replace old new ih
  | delete old _ ih =>
      rw [Nat.add_right_comm]
      exact .delete old ih
  | insert new _ ih =>
      rw [Nat.add_right_comm]
      exact .insert new ih

theorem reverse (changes : Edits edits source target) :
    Edits edits source.reverse target.reverse := by
  induction changes with
  | nil => exact .nil
  | keep element _ ih =>
      rw [List.reverse_cons, List.reverse_cons]
      exact ih.append (.keep element .nil)
  | replace old new _ ih =>
      rw [List.reverse_cons, List.reverse_cons]
      exact ih.append (.replace old new .nil)
  | delete old _ ih =>
      rw [List.reverse_cons]
      simpa using ih.append (.delete old .nil)
  | insert new _ ih =>
      rw [List.reverse_cons]
      simpa using ih.append (.insert new .nil)

theorem eq_of_zero (changes : Edits 0 source target) : source = target := by
  generalize none : 0 = edits at changes
  induction changes with
  | nil => rfl
  | keep element _ ih => rw [ih none]
  | replace => cases none
  | delete => cases none
  | insert => cases none

theorem length_source_le (changes : Edits edits source target) :
    source.length ≤ edits + target.length := by
  induction changes with
  | nil => exact Nat.le_refl 0
  | keep => simp only [List.length_cons]; omega
  | replace => simp only [List.length_cons]; omega
  | delete => simp only [List.length_cons]; omega
  | insert => simp only [List.length_cons]; omega

/-- An element less in the source costs at most one edit more. -/
theorem drop_source {first : α} (changes : Edits edits (first :: source) target) :
    ∃ fewer ≤ edits + 1, Edits fewer source target := by
  generalize begins : first :: source = whole at changes
  induction changes with
  | nil => cases begins
  | keep element rest _ =>
      cases begins
      exact ⟨_, Nat.le_refl _, .insert first rest⟩
  | replace old new rest _ =>
      cases begins
      exact ⟨_, Nat.le_succ _, .insert new rest⟩
  | delete old rest _ =>
      cases begins
      exact ⟨_, by omega, rest⟩
  | insert new _ ih =>
      obtain ⟨fewer, bound, rest⟩ := ih begins
      exact ⟨fewer + 1, by omega, .insert new rest⟩

/-- Between lists that start alike, the first elements can as well be kept. -/
theorem of_same_first {first : α} (changes : Edits edits (first :: source) (first :: target)) :
    ∃ fewer ≤ edits, Edits fewer source target := by
  cases changes with
  | keep _ rest => exact ⟨edits, Nat.le_refl _, rest⟩
  | replace _ _ rest => exact ⟨_, Nat.le_succ _, rest⟩
  | delete _ rest =>
      obtain ⟨fewer, bound, kept⟩ := rest.symm.drop_source
      exact ⟨fewer, bound, kept.symm⟩
  | insert _ rest => exact rest.drop_source

end Edits

theorem edits_from_nil (target : List α) : Edits target.length [] target := by
  induction target with
  | nil => exact .nil
  | cons new rest ih => exact .insert new ih

variable [DecidableEq α]

/-- The least number of edits, by the first elements of the lists. -/
def fewestEdits : (source target : List α) → Nat
  | [], target => target.length
  | old :: source, [] => source.length + 1
  | old :: source, new :: target =>
    if old = new then fewestEdits source target
    else 1 + min (fewestEdits source target)
      (min (fewestEdits (old :: source) target) (fewestEdits source (new :: target)))
termination_by source target => source.length + target.length

theorem fewestEdits_nil (source : List α) : fewestEdits source [] = source.length := by
  cases source with
  | nil => rw [fewestEdits]
  | cons old rest => rw [fewestEdits, List.length_cons]

theorem edits_fewestEdits (source target : List α) :
    Edits (fewestEdits source target) source target := by
  induction source, target using fewestEdits.induct with
  | case1 target =>
      rw [fewestEdits]
      exact edits_from_nil target
  | case2 old source =>
      rw [fewestEdits]
      exact (edits_from_nil (old :: source)).symm
  | case3 source first target ih =>
      rw [fewestEdits, if_pos rfl]
      exact .keep first ih
  | case4 old source new target different replaced inserted deleted =>
      rw [fewestEdits, if_neg different, Nat.add_comm]
      rcases min_choice (fewestEdits source target) (min (fewestEdits (old :: source) target)
        (fewestEdits source (new :: target))) with least | least
      · rw [least]
        exact .replace old new replaced
      · rw [least]
        rcases min_choice (fewestEdits (old :: source) target)
          (fewestEdits source (new :: target)) with less | less
        · rw [less]
          exact .insert new inserted
        · rw [less]
          exact .delete old deleted

theorem fewestEdits_le {edits : Nat} {source target : List α}
    (changes : Edits edits source target) : fewestEdits source target ≤ edits := by
  induction source, target using fewestEdits.induct generalizing edits with
  | case1 target =>
      rw [fewestEdits]
      exact changes.symm.length_source_le
  | case2 old source =>
      rw [fewestEdits]
      exact changes.length_source_le
  | case3 source first target ih =>
      rw [fewestEdits, if_pos rfl]
      obtain ⟨fewer, bound, rest⟩ := changes.of_same_first
      exact Nat.le_trans (ih rest) bound
  | case4 old source new target different replaced inserted deleted =>
      rw [fewestEdits, if_neg different]
      cases changes with
      | keep => exact absurd rfl different
      | replace _ _ rest =>
          have bound := replaced rest
          omega
      | delete _ rest =>
          have bound := deleted rest
          omega
      | insert _ rest =>
          have bound := inserted rest
          omega

/-- The fewest edits from a list to the prefixes of another one that are longer than
some first part.  The source and the first part are given backwards. -/
def fewestAfter (source : List α) : (before targets : List α) → List Nat
  | _, [] => []
  | before, target :: targets =>
    fewestEdits source (target :: before) :: fewestAfter source (target :: before) targets

theorem firstRow_eq (target : List α) : firstRow target = 0 :: fewestAfter [] [] target := by
  have counted (before targets : List α) :
      fewestAfter [] before targets = List.range' (before.length + 1) targets.length := by
    induction targets generalizing before with
    | nil => rfl
    | cons target rest ih =>
        rw [fewestAfter, fewestEdits, ih, List.length_cons, List.length_cons, List.range'_succ]
  rw [firstRow, List.range_eq_range', List.range'_succ, counted]
  rfl

theorem fillRow_eq (element : α) (source before targets : List α) :
    fillRow element (fewestEdits source before) (fewestEdits (element :: source) before) targets
        (fewestAfter source before targets) =
      fewestAfter (element :: source) before targets := by
  induction targets generalizing before with
  | nil => rfl
  | cons target rest ih =>
      have here : fewestEdits (element :: source) (target :: before) =
          if element = target then fewestEdits source before
          else 1 + min (fewestEdits source before) (min (fewestEdits (element :: source) before)
            (fewestEdits source (target :: before))) := by
        rw [fewestEdits]
      rw [fewestAfter, fewestAfter, fillRow, ← here, ih]

theorem nextRow_eq (element : α) (source target : List α) :
    nextRow target (source.length :: fewestAfter source [] target) element =
      (element :: source).length :: fewestAfter (element :: source) [] target := by
  have filled := fillRow_eq element source [] target
  rw [fewestEdits_nil, fewestEdits_nil] at filled
  exact congrArg _ filled

/-- Each element of the source takes the rows one prefix further. -/
theorem foldl_nextRow (source before target : List α) :
    source.foldl (nextRow target) (before.length :: fewestAfter before [] target) =
      (source.reverse ++ before).length :: fewestAfter (source.reverse ++ before) [] target := by
  induction source generalizing before with
  | nil => rfl
  | cons element rest ih =>
      rw [List.foldl_cons, nextRow_eq, ih, List.reverse_cons, List.append_assoc]
      rfl

theorem getLastD_fewestAfter (source before targets : List α) :
    (fewestAfter source before targets).getLastD (fewestEdits source before) =
      fewestEdits source (targets.reverse ++ before) := by
  induction targets generalizing before with
  | nil => rfl
  | cons target rest ih =>
      rw [fewestAfter, List.getLastD_cons, ih, List.reverse_cons, List.append_assoc]
      rfl

theorem editDistance_eq (source target : List α) :
    editDistance source target = fewestEdits source.reverse target.reverse := by
  have rows := foldl_nextRow source [] target
  have last := getLastD_fewestAfter source.reverse [] target
  rw [List.append_nil] at rows
  rw [fewestEdits_nil, List.append_nil] at last
  calc
    editDistance source target
      = (source.foldl (nextRow target) (0 :: fewestAfter [] [] target)).getLastD 0 := by
        rw [editDistance, firstRow_eq]
    _ = (source.reverse.length :: fewestAfter source.reverse [] target).getLastD 0 :=
        congrArg (List.getLastD · 0) rows
    _ = fewestEdits source.reverse target.reverse := by rw [List.getLastD_cons, last]

/-- The edit distance is the least number of edits that turn one list into another. -/
theorem isLeast_editDistance (source target : List α) :
    IsLeast {edits | Edits edits source target} (editDistance source target) := by
  rw [editDistance_eq]
  constructor
  · have changes := (edits_fewestEdits source.reverse target.reverse).reverse
    rwa [List.reverse_reverse, List.reverse_reverse] at changes
  · intro edits changes
    exact fewestEdits_le changes.reverse

end Stencil.Text
