/-!
# Lists of keys and values

A key stands for the value of the first pair that has it.  The lemmas say what a
key stands for after pairs are added or taken away.
-/

namespace Stencil

variable {κ α : Type} [DecidableEq κ] [BEq κ] [LawfulBEq κ]

/-- The pairs with other keys. -/
def withoutKey (key : κ) (pairs : List (κ × α)) : List (κ × α) :=
  pairs.filter fun pair => !decide (pair.1 = key)

theorem lookup_cons_eq_ite (key : κ) (first : κ × α) (rest : List (κ × α)) :
    (first :: rest).lookup key = if key = first.1 then some first.2 else rest.lookup key := by
  obtain ⟨other, value⟩ := first
  by_cases same : key = other
  · simp [same]
  · have different : (key == other) = false := by simpa using same
    simp [List.lookup_cons, different, same]

/-- A key that is taken away stands for nothing, and all others for what they
did. -/
theorem lookup_withoutKey (key other : κ) (pairs : List (κ × α)) :
    (withoutKey key pairs).lookup other = if other = key then none else pairs.lookup other := by
  induction pairs with
  | nil => simp [withoutKey]
  | cons first rest ih =>
    rw [withoutKey] at ih ⊢
    by_cases dropped : first.1 = key
    · rw [List.filter_cons_of_neg (by simpa using dropped), ih, lookup_cons_eq_ite, dropped]
      by_cases same : other = key <;> simp [same]
    · rw [List.filter_cons_of_pos (by simpa using dropped), lookup_cons_eq_ite,
        lookup_cons_eq_ite, ih]
      by_cases same : other = first.1
      · simp [same, dropped]
      · simp [same]

/-- A pair at the end counts if nothing before has its key. -/
theorem lookup_append_single (other key : κ) (value : α) (pairs : List (κ × α))
    (absent : pairs.lookup key = none) :
    (pairs ++ [(key, value)]).lookup other =
      if other = key then some value else pairs.lookup other := by
  induction pairs with
  | nil => rw [List.nil_append, lookup_cons_eq_ite]
  | cons first rest ih =>
    rw [lookup_cons_eq_ite] at absent
    split at absent
    · exact absurd absent (by simp)
    · rename_i different
      rw [List.cons_append, lookup_cons_eq_ite, lookup_cons_eq_ite, ih absent]
      by_cases same : other = first.1
      · simp [same, Ne.symm different]
      · simp [same]

end Stencil
