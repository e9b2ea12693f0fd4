import Stencil.Proofs.Graph.Search
import Stencil.Proofs.Graph.Steady

/-!
# The calls of a search

A call of the search returns at once, or puts a text in front of the list and calls on for
the supertypes, one after the other.  In a steady graph all texts that are put there show
candidates, and none is there twice, so the list is never longer than there are candidates.
From this every call ends, also if declarations inherit from each other, and no search
follows more types in a row than there are candidates.
-/

namespace Stencil

namespace Graph

variable {graph : Graph} {source target : TypeRef}

section Search

variable {search : TypeRef → List (List Char) → Option (Bool × List (List Char))}

/-- What holds of the list of texts at the start of searches in turn, and is kept by each of
them, holds at their end. -/
theorem anyInTurn_keeps {Kept : List (List Char) → Prop} {types : List TypeRef}
    (each : ∀ type ∈ types, ∀ seen answer after, search type seen = some (answer, after) →
      Kept seen → Kept after)
    {before after : List (List Char)} {answer : Bool}
    (ends : anyInTurn search types before = some (answer, after)) (kept : Kept before) :
    Kept after := by
  induction types generalizing before with
  | nil =>
    cases ends
    exact kept
  | cons type rest ih =>
    rcases anyInTurn_cons_eq_some_iff.mp ends with ⟨seen, found, same⟩ | ⟨seen, found, later⟩
    · cases same
      exact each type List.mem_cons_self before true after found kept
    · have next := each type List.mem_cons_self before false seen found kept
      exact ih (fun other member => each other (List.mem_cons_of_mem _ member)) later next

/-- What holds of the list of texts at the start of a search, and survives every text that is
put in front, holds at its end. -/
theorem reachesWithin_keeps {Kept : List (List Char) → Prop}
    (grows : ∀ type seen, graph.Leads source type → type.declaredName? ≠ none →
      type.display ∉ seen → Kept seen → Kept (type.display :: seen))
    {steps : Nat} {current : TypeRef} (reached : graph.Leads source current)
    {before after : List (List Char)} {answer : Bool}
    (ends : graph.reachesWithin target steps current before = some (answer, after))
    (kept : Kept before) : Kept after := by
  induction steps generalizing current before after answer with
  | zero => cases ends
  | succ steps ih =>
    rw [reachesWithin] at ends
    split_ifs at ends with arrives stops
    · cases ends
      exact kept
    · cases ends
      exact kept
    · rw [Bool.or_eq_true_iff, not_or, Option.isNone_iff_eq_none, List.contains_iff_mem] at stops
      have started := grows current before reached stops.1 stops.2 kept
      refine anyInTurn_keeps (fun next member seen answer after found => ?_) ends started
      exact ih (reached.tail (mem_supertypesOf_iff.mp member)) found

end Search

theorem reaches_keeps {Kept : List (List Char) → Prop}
    (grows : ∀ type seen, graph.Leads source type → type.declaredName? ≠ none →
      type.display ∉ seen → Kept seen → Kept (type.display :: seen))
    {current : TypeRef} (reached : graph.Leads source current)
    {before after : List (List Char)} {answer : Bool}
    (ends : graph.reaches target current before = some (answer, after))
    (kept : Kept before) : Kept after := by
  obtain ⟨steps, ends⟩ := reaches_eq_some_iff.mp ends
  exact reachesWithin_keeps grows reached ends kept

/-- A call of the search returns at once, or lists its type and calls on for the
supertypes. -/
theorem reaches_cases (graph : Graph) (target type : TypeRef) (seen : List (List Char)) :
    (∃ answer, ∀ steps, graph.reachesWithin target (steps + 1) type seen = some (answer, seen)) ∨
      (type.declaredName? ≠ none ∧ type.display ∉ seen ∧
        graph.reaches target type seen =
          graph.reachesFromAny target (graph.supertypesOf type) (type.display :: seen)) := by
  by_cases arrives : arrivesAt target type = true
  · exact .inl ⟨true, fun steps => by rw [reachesWithin, if_pos arrives]⟩
  by_cases stops : (type.declaredName?.isNone || seen.contains type.display) = true
  · exact .inl ⟨false, fun steps => by rw [reachesWithin, if_neg arrives, if_pos stops]⟩
  refine .inr ⟨?_, ?_, by rw [reaches, if_neg arrives, if_neg stops]⟩
  · intro undeclared
    exact stops (by rw [undeclared]; rfl)
  · intro known
    exact stops (by rw [List.contains_iff_mem.mpr known, Bool.or_true])

/-- The calls that a search from a source makes, each for a type and with the texts seen so
far. -/
inductive Called (graph : Graph) (target source : TypeRef) : TypeRef → List (List Char) → Prop
  /-- The search starts with no texts. -/
  | first : Called graph target source source []
  /-- A call that does not return at once lists its type, and calls the search for the
  supertypes in turn, with what it got back for those before. -/
  | nested {type next : TypeRef} {seen handed : List (List Char)} {before after : List TypeRef}
      (outer : Called graph target source type seen)
      (fails : arrivesAt target type = false) (named : type.declaredName? ≠ none)
      (fresh : type.display ∉ seen) (listed : graph.supertypesOf type = before ++ next :: after)
      (inVain : graph.reachesFromAny target before (type.display :: seen) =
        some (false, handed)) :
      Called graph target source next handed

/-- Whether a list has different texts, all from the renderings. -/
def Listed (graph : Graph) (source : TypeRef) (seen : List (List Char)) : Prop :=
  seen.Nodup ∧ ∀ text ∈ seen, text ∈ graph.renderings source

theorem Listed.cons (steady : graph.Steady) (type : TypeRef) (seen : List (List Char))
    (leads : graph.Leads source type) (named : type.declaredName? ≠ none)
    (fresh : type.display ∉ seen) (listed : graph.Listed source seen) :
    graph.Listed source (type.display :: seen) := by
  refine ⟨List.nodup_cons.mpr ⟨fresh, listed.1⟩, List.forall_mem_cons.mpr ⟨?_, listed.2⟩⟩
  exact display_mem_renderings steady leads named

theorem Called.leads {type : TypeRef} {seen : List (List Char)}
    (called : graph.Called target source type seen) : graph.Leads source type := by
  induction called with
  | first => exact .refl
  | nested _ _ _ _ listed _ ih =>
    refine ih.tail (mem_supertypesOf_iff.mp ?_)
    rw [listed]
    exact List.mem_append_right _ List.mem_cons_self

theorem Called.listed (steady : graph.Steady) {type : TypeRef} {seen : List (List Char)}
    (called : graph.Called target source type seen) : graph.Listed source seen := by
  induction called with
  | first => exact ⟨List.nodup_nil, fun _ absent => absurd absent List.not_mem_nil⟩
  | @nested type next seen handed before after outer fails named fresh written inVain ih =>
    have started := ih.cons steady type seen outer.leads named fresh
    rw [reachesFromAny_eq] at inVain
    refine anyInTurn_keeps (fun next member seen answer after found => ?_) inVain started
    have above : next ∈ graph.supertypesOf type := by
      rw [written]
      exact List.mem_append_left _ member
    exact reaches_keeps (Listed.cons steady)
      (outer.leads.tail (mem_supertypesOf_iff.mp above)) found

/-- Every call ends, and none follows more types in a row than there are candidates. -/
theorem Called.ends (steady : graph.Steady) {type : TypeRef} {seen : List (List Char)}
    (called : graph.Called target source type seen) :
    ∃ answer after, graph.reaches target type seen = some (answer, after) ∧
      ∀ steps, (graph.renderings source).length < steps →
        graph.reachesWithin target steps type seen = some (answer, after) := by
  have inside : ∀ last, graph.Leads type last → last.declaredName? ≠ none →
      last.display ∈ (graph.renderings source).toFinset := by
    intro last leads named
    exact List.mem_toFinset.mpr (display_mem_renderings steady (called.leads.trans leads) named)
  have few : ((graph.renderings source).toFinset \ seen.toFinset).card <
      (graph.renderings source).length + 1 :=
    calc ((graph.renderings source).toFinset \ seen.toFinset).card
        ≤ (graph.renderings source).toFinset.card := Finset.card_le_card Finset.sdiff_subset
      _ ≤ (graph.renderings source).length := List.toFinset_card_le _
      _ < (graph.renderings source).length + 1 := Nat.lt_succ_self _
  obtain ⟨answer, after, result, -⟩ := reachesWithin_isSome inside few
  exact ⟨answer, after, reaches_of_reachesWithin result,
    fun steps enough => reachesWithin_mono enough result⟩

/-- The search ends in a steady graph.  Each of its calls returns at once, or lists a new
text out of finitely many and then calls on for the supertypes; and each of them ends. -/
theorem search_terminates (steady : graph.Steady) (source target : TypeRef) :
    (∀ type seen, graph.Called target source type seen →
      (seen.Nodup ∧ ∀ text ∈ seen, text ∈ graph.renderings source) ∧
      ((∃ answer, ∀ steps,
          graph.reachesWithin target (steps + 1) type seen = some (answer, seen)) ∨
        (type.display ∈ graph.renderings source ∧ type.display ∉ seen ∧
          graph.reaches target type seen =
            graph.reachesFromAny target (graph.supertypesOf type) (type.display :: seen))) ∧
      ∃ answer after, graph.reaches target type seen = some (answer, after) ∧
        ∀ steps, (graph.renderings source).length < steps →
          graph.reachesWithin target steps type seen = some (answer, after)) ∧
    ∃ answer, graph.isAssignable source target = some answer ∧
      ∀ steps, (graph.renderings source).length < steps →
        graph.assignableWithin? steps source target = some answer := by
  constructor
  · intro type seen called
    refine ⟨called.listed steady, ?_, called.ends steady⟩
    rcases graph.reaches_cases target type seen with returns | ⟨named, fresh, calls⟩
    · exact .inl returns
    · exact .inr ⟨display_mem_renderings steady called.leads named, fresh, calls⟩
  · have start : graph.Called target source source [] := .first
    obtain ⟨answer, seen, ends, always⟩ := start.ends steady
    unfold isAssignable assignableWithin?
    split_ifs
    · exact ⟨true, rfl, fun _ _ => rfl⟩
    · exact ⟨false, rfl, fun _ _ => rfl⟩
    · exact ⟨true, rfl, fun _ _ => rfl⟩
    · refine ⟨answer, by rw [ends]; rfl, fun steps enough => ?_⟩
      rw [always steps enough]
      rfl

/-- Declarations that inherit from each other with their parameters swapped, repeated and
left out, from a parameter itself, and from an array. -/
def tangled : Graph where
  entries := entriesOf false [{
    name := "app"
    declarations := [
      { name := "A"
        typeParameters := ["T"]
        supertypes := [.plain "T", .declared "app.B" [.plain "T", Library.listOfString],
          .array (.declared "app.A" [.plain "T"])] },
      { name := "B"
        typeParameters := ["S", "U"]
        supertypes := [.declared "app.B" [.plain "U", .plain "S"],
          .declared "app.A" [.plain "S"], .plain "app.A"] }] }] ++
    libraryEntries ["app.A", "app.B"]
  distinct := by decide +kernel

/-- A type whose search leads back to it. -/
def entangled : TypeRef := .declared "app.A" [ofTexts "app.A"]

/-- The search in vain from the entangled type ends, and so does its first call for a
supertype, which is the argument. -/
theorem search_terminates_tangled :
    tangled.Steady ∧
      tangled.Called (.plain "app.C") entangled (ofTexts "app.A") [entangled.display] ∧
      (∃ answer after,
        tangled.reaches (.plain "app.C") (ofTexts "app.A") [entangled.display] =
          some (answer, after)) ∧
      tangled.isAssignable entangled (.plain "app.C") = some false ∧
      ∀ steps, (tangled.renderings entangled).length < steps →
        tangled.assignableWithin? steps entangled (.plain "app.C") = some false := by
  have steady : tangled.Steady := by decide +kernel
  have start : tangled.Called (.plain "app.C") entangled entangled [] := .first
  have listed : tangled.supertypesOf entangled = [] ++ ofTexts "app.A" ::
      [.declared "app.B" [ofTexts "app.A", Library.listOfString],
        .array (.declared "app.A" [ofTexts "app.A"])] := rfl
  have nothingBefore : tangled.reachesFromAny (.plain "app.C") [] [entangled.display] =
      some (false, [entangled.display]) := by
    rw [reachesFromAny_eq]
    rfl
  have called : tangled.Called (.plain "app.C") entangled (ofTexts "app.A") [entangled.display] :=
    start.nested (by decide +kernel) (by decide +kernel) List.not_mem_nil listed nothingBefore
  obtain ⟨calls, answer, ends, always⟩ := search_terminates steady entangled (.plain "app.C")
  obtain ⟨-, -, found, after, callEnds, -⟩ := calls _ _ called
  have inVain : tangled.isAssignable entangled (.plain "app.C") = some false :=
    isAssignable_eq_some_iff.mpr ⟨20, by decide +kernel⟩
  have same : answer = false := Option.some.inj (ends.symm.trans inVain)
  exact ⟨steady, called, ⟨found, after, callEnds⟩, inVain, same ▸ always⟩

end Graph

end Stencil
