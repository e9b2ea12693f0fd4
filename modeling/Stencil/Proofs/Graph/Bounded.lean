import Mathlib.Tactic.SplitIfs
import Stencil.Graph.Assignable

/-!
# Searches that are cut off

A search need not have an end, so there is nothing in it to do an induction on.  A search
that gives up when more types would have to be followed in a row than it may follow always
ends.  The search itself ends exactly if some search of this kind comes to a result, and
its result is the same.
-/

namespace Stencil

namespace Graph

/-- Runs a search on types in turn until one succeeds, handing on what was seen. -/
def anyInTurn (search : TypeRef → List (List Char) → Option (Bool × List (List Char))) :
    List TypeRef → List (List Char) → Option (Bool × List (List Char))
  | [], seen => some (false, seen)
  | type :: rest, seen =>
    match search type seen with
    | none => none
    | some (true, seen) => some (true, seen)
    | some (false, seen) => anyInTurn search rest seen

/-- The search for a chain of supertypes, cut off where more types than allowed would have
to be followed in a row. -/
def reachesWithin (graph : Graph) (target : TypeRef) :
    Nat → TypeRef → List (List Char) → Option (Bool × List (List Char))
  | 0, _, _ => none
  | steps + 1, current, seen =>
    if arrivesAt target current then
      some (true, seen)
    else if current.declaredName?.isNone || seen.contains current.display then
      some (false, seen)
    else
      anyInTurn (graph.reachesWithin target steps) (graph.supertypesOf current)
        (current.display :: seen)

/-- Whether a value of one type can be used as one of another, from a search that is cut
off. -/
def assignableWithin? (graph : Graph) (steps : Nat) (source target : TypeRef) : Option Bool :=
  if source.sameType target then
    some true
  else if source.isPrimitive || source.isVoid || target.isPrimitive || target.isVoid then
    some false
  else if target.sameType Library.objectType then
    some true
  else
    (graph.reachesWithin target steps source []).map (·.1)

variable {graph : Graph} {source target : TypeRef}

section InTurn

variable {search further : TypeRef → List (List Char) → Option (Bool × List (List Char))}

/-- Searches in turn end with the first one if it succeeds, and go on with what it listed if
it was in vain. -/
theorem anyInTurn_cons_eq_some_iff {type : TypeRef} {rest : List TypeRef}
    {before : List (List Char)} {result : Bool × List (List Char)} :
    anyInTurn search (type :: rest) before = some result ↔
      (∃ seen, search type before = some (true, seen) ∧ result = (true, seen)) ∨
        ∃ seen, search type before = some (false, seen) ∧
          anyInTurn search rest seen = some result := by
  rw [anyInTurn]
  cases search type before with
  | none => simp
  | some pair =>
    obtain ⟨answer, seen⟩ := pair
    cases answer with
    | true => simp [eq_comm]
    | false => simp

theorem anyInTurn_mono {types : List TypeRef}
    (agrees : ∀ type ∈ types, ∀ seen result, search type seen = some result →
      further type seen = some result)
    {before : List (List Char)} {result : Bool × List (List Char)}
    (ends : anyInTurn search types before = some result) :
    anyInTurn further types before = some result := by
  induction types generalizing before with
  | nil => exact ends
  | cons type rest ih =>
    rw [anyInTurn_cons_eq_some_iff] at ends ⊢
    rcases ends with ⟨seen, found, same⟩ | ⟨seen, found, later⟩
    · exact .inl ⟨seen, agrees type List.mem_cons_self before _ found, same⟩
    · refine .inr ⟨seen, agrees type List.mem_cons_self before _ found, ?_⟩
      exact ih (fun other member => agrees other (List.mem_cons_of_mem _ member)) later

end InTurn

theorem reachesWithin_mono {steps more : Nat} (fewer : steps ≤ more) {current : TypeRef}
    {before : List (List Char)} {result : Bool × List (List Char)}
    (ends : graph.reachesWithin target steps current before = some result) :
    graph.reachesWithin target more current before = some result := by
  induction steps generalizing more current before result with
  | zero => cases ends
  | succ steps ih =>
    obtain ⟨more, rfl⟩ : ∃ rest, more = rest + 1 := ⟨more - 1, by omega⟩
    rw [reachesWithin] at ends ⊢
    split_ifs at ends ⊢
    · exact ends
    · exact ends
    · refine anyInTurn_mono (fun next _ seen result found => ih ?_ found) ends
      omega

/-- The search from some types runs the search on these types in turn. -/
theorem reachesFromAny_eq (graph : Graph) (target : TypeRef) (types : List TypeRef)
    (before : List (List Char)) :
    graph.reachesFromAny target types before = anyInTurn (graph.reaches target) types before := by
  induction types generalizing before with
  | nil =>
    rw [reachesFromAny]
    rfl
  | cons type rest ih =>
    rw [reachesFromAny, anyInTurn]
    cases graph.reaches target type before with
    | none => rfl
    | some pair =>
      obtain ⟨found, seen⟩ := pair
      cases found with
      | true => rfl
      | false => exact ih seen

/-- A search that is cut off but comes to a result comes to that of the search. -/
theorem reaches_of_reachesWithin {steps : Nat} {current : TypeRef}
    {before : List (List Char)} {result : Bool × List (List Char)}
    (ends : graph.reachesWithin target steps current before = some result) :
    graph.reaches target current before = some result := by
  induction steps generalizing current before result with
  | zero => cases ends
  | succ steps ih =>
    rw [reachesWithin] at ends
    rw [reaches]
    split_ifs at ends ⊢
    · exact ends
    · exact ends
    · rw [reachesFromAny_eq]
      exact anyInTurn_mono (fun next _ seen result found => ih found) ends

theorem anyInTurn_reachesWithin_mono {steps more : Nat} (fewer : steps ≤ more)
    {types : List TypeRef} {before : List (List Char)} {result : Bool × List (List Char)}
    (ends : anyInTurn (graph.reachesWithin target steps) types before = some result) :
    anyInTurn (graph.reachesWithin target more) types before = some result :=
  anyInTurn_mono (fun _ _ _ _ found => reachesWithin_mono fewer found) ends

/-- A search that ends need not be cut off, if it may follow enough types in a row. -/
theorem exists_reachesWithin :
    (∀ current before result, graph.reaches target current before = some result →
      ∃ steps, graph.reachesWithin target steps current before = some result) ∧
    (∀ types before result, graph.reachesFromAny target types before = some result →
      ∃ steps, anyInTurn (graph.reachesWithin target steps) types before = some result) := by
  apply reaches.mutual_partial_correctness graph target
  case h_1 =>
    intro searchAny any current before result ends
    split_ifs at ends with arrives stops
    · exact ⟨1, by rw [reachesWithin, if_pos arrives, ends]⟩
    · exact ⟨1, by rw [reachesWithin, if_neg arrives, if_pos stops, ends]⟩
    · obtain ⟨steps, found⟩ := any _ _ _ ends
      exact ⟨steps + 1, by rw [reachesWithin, if_neg arrives, if_neg stops, found]⟩
  case h_2 =>
    intro search searchAny one any types before result ends
    cases types with
    | nil => exact ⟨0, ends⟩
    | cons type rest =>
      obtain ⟨⟨found, seen⟩, first, later⟩ := Option.bind_eq_some_iff.mp ends
      obtain ⟨steps, searched⟩ := one _ _ _ first
      cases found with
      | true =>
        refine ⟨steps, anyInTurn_cons_eq_some_iff.mpr (.inl ⟨seen, searched, ?_⟩)⟩
        exact (Option.some.inj later).symm
      | false =>
        obtain ⟨more, continued⟩ := any _ _ _ later
        refine ⟨max steps more, anyInTurn_cons_eq_some_iff.mpr (.inr ⟨seen, ?_, ?_⟩)⟩
        · exact reachesWithin_mono (Nat.le_max_left _ _) searched
        · exact anyInTurn_reachesWithin_mono (Nat.le_max_right _ _) continued

/-- The search ends exactly if one that is cut off late enough comes to its result. -/
theorem reaches_eq_some_iff {current : TypeRef} {before : List (List Char)}
    {result : Bool × List (List Char)} :
    graph.reaches target current before = some result ↔
      ∃ steps, graph.reachesWithin target steps current before = some result :=
  ⟨exists_reachesWithin.1 current before result, fun ⟨_, ends⟩ => reaches_of_reachesWithin ends⟩

/-- Whether a type is assignable is what a search that is cut off late enough says. -/
theorem isAssignable_eq_some_iff {answer : Bool} :
    graph.isAssignable source target = some answer ↔
      ∃ steps, graph.assignableWithin? steps source target = some answer := by
  unfold isAssignable assignableWithin?
  split_ifs
  · simp
  · simp
  · simp
  · simp only [Option.map_eq_some_iff, reaches_eq_some_iff]
    exact ⟨fun ⟨result, ⟨steps, ends⟩, same⟩ => ⟨steps, result, ends, same⟩,
      fun ⟨steps, result, ends, same⟩ => ⟨result, ⟨steps, ends⟩, same⟩⟩

end Graph

end Stencil
