import Stencil.Proofs.Graph.Bounded
import Stencil.Proofs.Template

/-!
# Searches without an end

A search lists the texts of the types that it has looked at.  Where every type leads to
another one with a new text first, and never arrives, the list only grows: however many types
the search may follow in a row, they are too few, so it comes to no result.  This is what
becomes of a declaration that applies itself to ever larger arguments.
-/

namespace Stencil

namespace Graph

variable {graph : Graph} {target : TypeRef}

/-- Types of which every one has the next as its first direct supertype, all shown
differently, and none of which arrives at a target. -/
structure Climbs (graph : Graph) (target : TypeRef) (step : Nat → TypeRef) : Prop where
  declared : ∀ count, (step count).declaredName?.isSome = true
  passes : ∀ count, arrivesAt target (step count) = false
  leads : ∀ count, ∃ others, graph.supertypesOf (step count) = step (count + 1) :: others
  apart : ∀ first second, (step first).display = (step second).display → first = second

section Climbs

variable {step : Nat → TypeRef} (climbs : graph.Climbs target step)
include climbs

theorem Climbs.reachesWithin_eq_none (steps count : Nat) {seen : List (List Char)}
    (fresh : ∀ later, count ≤ later → (step later).display ∉ seen) :
    graph.reachesWithin target steps (step count) seen = none := by
  induction steps generalizing count seen with
  | zero => rfl
  | succ steps ih =>
    obtain ⟨others, leads⟩ := climbs.leads count
    have goesOn : ¬((step count).declaredName?.isNone ||
        seen.contains (step count).display) = true := by
      rw [Bool.or_eq_true, List.contains_iff_mem, ← Option.not_isSome, climbs.declared count]
      rintro (stops | listed)
      · cases stops
      · exact fresh count (Nat.le_refl count) listed
    have next : graph.reachesWithin target steps (step (count + 1))
        ((step count).display :: seen) = none := by
      refine ih (count + 1) fun later above listed => ?_
      rcases List.mem_cons.mp listed with same | listed
      · have equal := climbs.apart later count same
        omega
      · exact fresh later (by omega) listed
    rw [reachesWithin, if_neg (by rw [climbs.passes count]; decide), if_neg goesOn, leads,
      anyInTurn, next]

/-- A search that climbs comes to no result. -/
theorem Climbs.reaches_eq_none (count : Nat) : graph.reaches target (step count) [] = none := by
  apply Option.eq_none_iff_forall_ne_some.mpr
  intro result ends
  obtain ⟨steps, within⟩ := reaches_eq_some_iff.mp ends
  rw [climbs.reachesWithin_eq_none steps count fun _ _ => List.not_mem_nil] at within
  cases within

end Climbs

/-- A declaration that extends itself, applied to an application of itself. -/
def nesting : Declaration where
  name := "G"
  kind := .interfaceType
  typeParameters := ["T"]
  supertypes := [.declared "app.G" [.declared "app.G" [.plain "T"]]]

/-- The declaration applied to itself again and again. -/
def nested : Nat → TypeRef
  | 0 => .declared "app.G" [.plain Library.stringName]
  | count + 1 => .declared "app.G" [nested count]

theorem exists_nested_eq (count : Nat) :
    ∃ argument, nested count = .declared "app.G" [argument] ∧
      nested (count + 1) = .declared "app.G" [.declared "app.G" [argument]] := by
  cases count with
  | zero => exact ⟨_, rfl, rfl⟩
  | succ count => exact ⟨nested count, rfl, rfl⟩

theorem length_display_nested (count : Nat) :
    (nested count).display.length = 23 + 7 * count := by
  induction count with
  | zero => decide
  | succ count ih =>
    show ("app.G".toList ++ '<' :: (nested count).display ++ [] ++ ['>']).length = _
    simp [ih]
    omega

theorem supertypesOf_nesting (found : graph.entry? "app.G" = some ⟨"app", nesting, false⟩)
    (argument : TypeRef) : graph.supertypesOf (.declared "app.G" [argument]) =
      [.declared "app.G" [.declared "app.G" [argument]]] := by
  unfold supertypesOf
  rw [TypeRef.declaredName?, Option.bind_some, found]
  rfl

theorem arrivesAt_nesting (argument : TypeRef) :
    arrivesAt Library.listOfString (.declared "app.G" [argument]) = false := by
  have different : TypeRef.display (.declared "app.G" [argument]) ≠
      Library.listOfString.display := by
    intro same
    have heads : some 'a' = some 'j' := congrArg List.head? same
    exact absurd heads (by decide)
  have apart : (TypeRef.declared "app.G" [argument]).sameType Library.listOfString = false := by
    rw [← Bool.not_eq_true, TypeRef.sameType_iff]
    exact different
  unfold arrivesAt
  rw [apart]
  rfl

theorem climbs_nested (found : graph.entry? "app.G" = some ⟨"app", nesting, false⟩) :
    graph.Climbs Library.listOfString nested := by
  constructor
  case declared =>
    intro count
    obtain ⟨argument, same, -⟩ := exists_nested_eq count
    rw [same]
    rfl
  case passes =>
    intro count
    obtain ⟨argument, same, -⟩ := exists_nested_eq count
    rw [same]
    exact arrivesAt_nesting argument
  case leads =>
    intro count
    obtain ⟨argument, same, next⟩ := exists_nested_eq count
    refine ⟨[], ?_⟩
    rw [same, next]
    exact supertypesOf_nesting found argument
  case apart =>
    intro first second same
    have lengths := congrArg List.length same
    rw [length_display_nested, length_display_nested] at lengths
    omega

/-- There is no answer to whether the declaration gives lists of texts. -/
theorem isAssignable_nesting (found : graph.entry? "app.G" = some ⟨"app", nesting, false⟩) :
    graph.isAssignable (.declared "app.G" [.plain Library.stringName]) Library.listOfString =
      none := by
  unfold isAssignable
  rw [if_neg (by decide), if_neg (by decide), if_neg (by decide)]
  exact congrArg (Option.map _) ((climbs_nested found).reaches_eq_none 0)

/-- A template with a method that returns the declaration. -/
def endlessTemplate : Declaration where
  name := "Bad"
  kind := .interfaceType
  annotations := ["aptgen.annotation.Sample"]
  members := [{ name := "A", returnType := .declared "app.G" [.plain Library.stringName] }]

theorem not_searchesEnd_endlessTemplate
    (found : graph.entry? "app.G" = some ⟨"app", nesting, false⟩)
    (template : graph.entry? "app.Bad" = some ⟨"app", endlessTemplate, false⟩) :
    ¬graph.SearchesEnd "app.Bad" := by
  intro ends
  have members : graph.membersOf "app.Bad" =
      endlessTemplate.members.map endlessTemplate.view := by
    unfold membersOf
    rw [template]
  unfold SearchesEnd at ends
  rw [members] at ends
  have answer : (graph.isAssignable (.declared "app.G" [.plain Library.stringName])
      Library.listOfString).isSome = true := ends _ List.mem_cons_self rfl rfl
  rw [isAssignable_nesting found] at answer
  cases answer

/-- A template that asks for nothing. -/
def idleTemplate : Declaration where
  name := "Good"
  kind := .interfaceType
  annotations := ["aptgen.annotation.Sample"]

/-- A document with the declaration and both templates. -/
def endlessDocument : Document where
  packages := [⟨"app", [endlessTemplate, nesting, idleTemplate]⟩]

def endless : Graph where
  entries := entriesOf false endlessDocument.packages ++
    libraryEntries ((entriesOf false endlessDocument.packages).map Entry.id)
  distinct := by decide +kernel

theorem ofDocument_endless : ofDocument endlessDocument = .ok endless := rfl

theorem annotatedWith_endless :
    endless.annotatedWith "aptgen.annotation.Sample" = ["app.Bad", "app.Good"] := by
  decide +kernel

theorem not_searchesEnd_endless : ¬endless.SearchesEnd "app.Bad" :=
  not_searchesEnd_endlessTemplate (by decide +kernel) (by decide +kernel)

end Graph

end Stencil
