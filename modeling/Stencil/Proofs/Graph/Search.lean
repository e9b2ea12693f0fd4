import Stencil.Proofs.Graph.Assignability
import Stencil.Proofs.Graph.Bounded

/-!
# The search for supertypes

A search that finds its target has followed a chain to it.  A search in vain has
expanded every type that it lists: the supertypes of a listed type are listed
too, or are no declared types.  By induction along a chain, everything that the
source leads to is then listed, and none of it is the target.

The number of types that a search may follow in a row suffices as soon as it
exceeds the number of types that can be reached and are not listed yet.
-/

namespace Stencil

namespace Graph

variable {graph : Graph} {source target : TypeRef}

theorem anyInTurn_eq_true {search : TypeRef → List (List Char) → Option (Bool × List (List Char))}
    {types : List TypeRef} {before after : List (List Char)}
    (found : anyInTurn search types before = some (true, after)) :
    ∃ type ∈ types, ∃ seen, search type seen = some (true, after) := by
  induction types generalizing before with
  | nil => cases found
  | cons type rest ih =>
    rcases anyInTurn_cons_eq_some_iff.mp found with ⟨seen, here, same⟩ | ⟨seen, -, later⟩
    · cases same
      exact ⟨type, List.mem_cons_self, before, here⟩
    · obtain ⟨other, member, found⟩ := ih later
      exact ⟨other, List.mem_cons_of_mem _ member, found⟩

theorem leads_of_reachesWithin {steps : Nat} {current : TypeRef} {before after : List (List Char)}
    (found : graph.reachesWithin target steps current before = some (true, after)) :
    ∃ last, graph.Leads current last ∧ arrivesAt target last = true := by
  induction steps generalizing current before after with
  | zero => cases found
  | succ steps ih =>
    rw [reachesWithin] at found
    split_ifs at found with arrives stops
    · exact ⟨current, .refl, arrives⟩
    · cases found
    · obtain ⟨next, member, seen, later⟩ := anyInTurn_eq_true found
      obtain ⟨last, leads, arrives⟩ := ih later
      exact ⟨last, .head (mem_supertypesOf_iff.mp member) leads, arrives⟩

/-- Whether a type was looked at in vain: it is not the target, and it is listed if
it is declared. -/
def Handled (target : TypeRef) (seen : List (List Char)) (type : TypeRef) : Prop :=
  arrivesAt target type = false ∧ (type.declaredName? = none ∨ type.display ∈ seen)

/-- Whether the supertypes of a type that is shown by a text, and that the source leads to,
were looked at in vain. -/
def Expanded (graph : Graph) (source target : TypeRef) (seen : List (List Char))
    (text : List Char) : Prop :=
  ∃ type : TypeRef, graph.Leads source type ∧ type.display = text ∧
    ∀ next ∈ graph.supertypesOf type, Handled target seen next

/-- What a search for a target from some types in vain does to the list. -/
structure Exhausts (graph : Graph) (source target : TypeRef) (before : List (List Char))
    (types : List TypeRef) (after : List (List Char)) : Prop where
  grows : ∀ text ∈ before, text ∈ after
  handled : ∀ type ∈ types, Handled target after type
  expanded : ∀ text ∈ after, text ∉ before → graph.Expanded source target after text

theorem Handled.mono {seen after : List (List Char)} {type : TypeRef}
    (handled : Handled target seen type) (grows : ∀ text ∈ seen, text ∈ after) :
    Handled target after type :=
  ⟨handled.1, handled.2.imp_right (grows _)⟩

theorem Handled.of_looksLike {seen : List (List Char)} {type other : TypeRef}
    (handled : Handled target seen type) (alike : LooksLike type other) :
    Handled target seen other := by
  obtain ⟨fails, known⟩ := handled
  exact ⟨alike.arrivesAt target ▸ fails, alike.declaredName? ▸ alike.display ▸ known⟩

theorem Expanded.mono {seen after : List (List Char)} {text : List Char}
    (expanded : graph.Expanded source target seen text) (grows : ∀ text ∈ seen, text ∈ after) :
    graph.Expanded source target after text := by
  obtain ⟨type, leads, shown, handled⟩ := expanded
  exact ⟨type, leads, shown, fun next member => (handled next member).mono grows⟩

theorem Exhausts.append {before middle after : List (List Char)} {first second : List TypeRef}
    (head : graph.Exhausts source target before first middle)
    (tail : graph.Exhausts source target middle second after) :
    graph.Exhausts source target before (first ++ second) after where
  grows text member := tail.grows text (head.grows text member)
  handled := by
    intro type member
    rcases List.mem_append.mp member with member | member
    · exact (head.handled type member).mono tail.grows
    · exact tail.handled type member
  expanded := by
    intro text member fresh
    by_cases known : text ∈ middle
    · exact (head.expanded text known fresh).mono tail.grows
    · exact tail.expanded text member known

theorem exhausts_of_anyInTurn
    {search : TypeRef → List (List Char) → Option (Bool × List (List Char))}
    {types : List TypeRef} {before after : List (List Char)}
    (each : ∀ type ∈ types, ∀ before after, search type before = some (false, after) →
      graph.Exhausts source target before [type] after)
    (inVain : anyInTurn search types before = some (false, after)) :
    graph.Exhausts source target before types after := by
  induction types generalizing before with
  | nil =>
    cases inVain
    exact ⟨fun _ member => member, fun _ absent => absurd absent List.not_mem_nil,
      fun _ member fresh => absurd member fresh⟩
  | cons type rest ih =>
    rcases anyInTurn_cons_eq_some_iff.mp inVain with ⟨seen, -, same⟩ | ⟨seen, first, later⟩
    · cases same
    · have head := each type List.mem_cons_self before seen first
      have tail := ih (fun other member => each other (List.mem_cons_of_mem _ member)) later
      exact head.append tail

/-- A search in vain expands every type that it adds to the list. -/
theorem exhausts_of_reachesWithin {steps : Nat} {current : TypeRef}
    (reached : graph.Leads source current) {before after : List (List Char)}
    (inVain : graph.reachesWithin target steps current before = some (false, after)) :
    graph.Exhausts source target before [current] after := by
  induction steps generalizing current before after with
  | zero => cases inVain
  | succ steps ih =>
    rw [reachesWithin] at inVain
    split_ifs at inVain with arrives stops
    · cases inVain
    · cases inVain
      refine ⟨fun _ member => member, ?_, fun _ member fresh => absurd member fresh⟩
      intro type member
      rw [List.mem_singleton.mp member]
      refine ⟨Bool.eq_false_iff.mpr arrives, ?_⟩
      rcases Bool.or_eq_true_iff.mp stops with undeclared | known
      · exact .inl (Option.isNone_iff_eq_none.mp undeclared)
      · exact .inr (List.contains_iff_mem.mp known)
    · have inner := exhausts_of_anyInTurn (fun next member before after result =>
        ih (reached.tail (mem_supertypesOf_iff.mp member)) result) inVain
      have listed : current.display ∈ after := inner.grows _ List.mem_cons_self
      refine ⟨fun text member => inner.grows text (List.mem_cons_of_mem _ member), ?_, ?_⟩
      · intro type member
        rw [List.mem_singleton.mp member]
        exact ⟨Bool.eq_false_iff.mpr arrives, .inr listed⟩
      · intro text member fresh
        by_cases own : text = current.display
        · exact ⟨current, reached, own.symm, inner.handled⟩
        · exact inner.expanded text member (by simp [own, fresh])

theorem DirectSupertype.declaredName?_ne_none {type next : TypeRef}
    (direct : graph.DirectSupertype type next) : type.declaredName? ≠ none := by
  cases direct with
  | erased named => simp [named]
  | applied named => simp [named]

/-- Nothing that the source leads to is the target, once the search from the source
was in vain. -/
theorem Exhausts.handled_of_leads (legible : graph.Legible source) {seen : List (List Char)}
    (exhausts : graph.Exhausts source target [] [source] seen) {last : TypeRef}
    (leads : graph.Leads source last) : Handled target seen last := by
  induction leads with
  | refl => exact exhausts.handled source List.mem_cons_self
  | @tail middle next leads direct ih =>
    have member := mem_supertypesOf_iff.mpr direct
    rcases ih.2 with undeclared | listed
    · exact absurd undeclared direct.declaredName?_ne_none
    · obtain ⟨other, otherLeads, shown, expanded⟩ :=
        exhausts.expanded _ listed List.not_mem_nil
      have alike := (legible other middle otherLeads leads shown).map_display_supertypesOf graph
      have mapped : next.display ∈ (graph.supertypesOf other).map TypeRef.display :=
        alike ▸ List.mem_map_of_mem member
      obtain ⟨second, secondMember, equal⟩ := List.mem_map.mp mapped
      have secondLeads := otherLeads.tail (mem_supertypesOf_iff.mp secondMember)
      exact (expanded second secondMember).of_looksLike
        (legible second next secondLeads (leads.tail direct) equal)

/-- A search that ends tells whether its source leads to something that arrives at the
target, if the source is legible. -/
theorem reachesWithin_eq_true_iff (legible : graph.Legible source) {steps : Nat} {answer : Bool}
    {seen : List (List Char)}
    (ends : graph.reachesWithin target steps source [] = some (answer, seen)) :
    answer = true ↔ ∃ last, graph.Leads source last ∧ arrivesAt target last = true := by
  constructor
  · rintro rfl
    exact leads_of_reachesWithin ends
  · rintro ⟨last, leads, arrives⟩
    by_contra inVain
    rw [Bool.not_eq_true] at inVain
    subst inVain
    have exhausts : graph.Exhausts source target [] [source] seen :=
      exhausts_of_reachesWithin .refl ends
    rw [(exhausts.handled_of_leads legible leads).1] at arrives
    cases arrives

theorem anyInTurn_isSome
    {search : TypeRef → List (List Char) → Option (Bool × List (List Char))}
    {types : List TypeRef} {before : List (List Char)}
    (each : ∀ type ∈ types, ∀ seen, (∀ text ∈ before, text ∈ seen) →
      ∃ answer after, search type seen = some (answer, after) ∧ ∀ text ∈ seen, text ∈ after) :
    ∃ answer after, anyInTurn search types before = some (answer, after) ∧
      ∀ text ∈ before, text ∈ after := by
  induction types generalizing before with
  | nil => exact ⟨false, before, rfl, fun _ member => member⟩
  | cons type rest ih =>
    obtain ⟨answer, seen, result, grows⟩ :=
      each type List.mem_cons_self before fun _ member => member
    rw [anyInTurn, result]
    cases answer with
    | true => exact ⟨true, seen, rfl, grows⟩
    | false =>
      obtain ⟨answer, after, later, more⟩ := ih fun other member later kept =>
        each other (List.mem_cons_of_mem _ member) later fun text known =>
          kept text (grows text known)
      exact ⟨answer, after, later, fun text member => more text (grows text member)⟩

theorem sdiff_ssubset_of_listed {texts : Finset (List Char)} {text : List Char}
    {before seen : List (List Char)} (inside : text ∈ texts) (fresh : text ∉ before)
    (listed : ∀ other ∈ text :: before, other ∈ seen) :
    texts \ seen.toFinset ⊂ texts \ before.toFinset := by
  have subset : texts \ seen.toFinset ⊆ texts \ before.toFinset := by
    intro other member
    simp only [Finset.mem_sdiff, List.mem_toFinset] at member ⊢
    exact ⟨member.1, fun known => member.2 (listed other (List.mem_cons_of_mem _ known))⟩
  rw [Finset.ssubset_iff_of_subset subset]
  refine ⟨text, ?_, ?_⟩
  · simp [inside, fresh]
  · simp [listed text List.mem_cons_self]

/-- A search ends if it may follow more types in a row than there are left that can
be reached and are not listed. -/
theorem reachesWithin_isSome {texts : Finset (List Char)} {steps : Nat} {current : TypeRef}
    (inside : ∀ last, graph.Leads current last → last.declaredName? ≠ none →
      last.display ∈ texts)
    {before : List (List Char)} (enough : (texts \ before.toFinset).card < steps) :
    ∃ answer after, graph.reachesWithin target steps current before = some (answer, after) ∧
      ∀ text ∈ before, text ∈ after := by
  induction steps generalizing current before with
  | zero => exact absurd enough (Nat.not_lt_zero _)
  | succ steps ih =>
    rw [reachesWithin]
    split_ifs with arrives stops
    · exact ⟨true, before, rfl, fun _ member => member⟩
    · exact ⟨false, before, rfl, fun _ member => member⟩
    · rw [Bool.or_eq_true_iff, not_or, Option.isNone_iff_eq_none, List.contains_iff_mem] at stops
      obtain ⟨declared, fresh⟩ := stops
      have each : ∀ next ∈ graph.supertypesOf current, ∀ seen,
          (∀ text ∈ current.display :: before, text ∈ seen) →
          ∃ answer after, graph.reachesWithin target steps next seen = some (answer, after) ∧
            ∀ text ∈ seen, text ∈ after := by
        intro next member seen listed
        apply ih fun last leads => inside last (.head (mem_supertypesOf_iff.mp member) leads)
        have smaller := Finset.card_lt_card
          (sdiff_ssubset_of_listed (inside current .refl declared) fresh listed)
        omega
      obtain ⟨answer, after, result, grows⟩ := anyInTurn_isSome each
      exact ⟨answer, after, result, fun text member => grows text (List.mem_cons_of_mem _ member)⟩

/-- Among well-formed types a search that ends tells whether its source leads to something
that meets the target. -/
theorem reachesWithin_correct (formed : graph.WellFormed) (sourceFormed : source.WellFormed)
    (targetFormed : target.WellFormed) {steps : Nat} {answer : Bool} {seen : List (List Char)}
    (ends : graph.reachesWithin target steps source [] = some (answer, seen)) :
    answer = true ↔ ∃ last, graph.Leads source last ∧ Meets last target := by
  rw [reachesWithin_eq_true_iff (formed.legible sourceFormed) ends]
  apply exists_congr
  intro last
  apply and_congr_right
  intro leads
  exact arrivesAt_iff (leads.wellFormed formed sourceFormed) targetFormed

/-- If only finitely many types can be reached from the source, the search ends once
it may follow more of them in a row than there are. -/
theorem reachesWithin_ends (finite : {type | graph.Leads source type}.Finite)
    {steps : Nat} (enough : finite.toFinset.card < steps) :
    ∃ answer seen, graph.reachesWithin target steps source [] = some (answer, seen) := by
  have inside : ∀ last, graph.Leads source last → last.declaredName? ≠ none →
      last.display ∈ finite.toFinset.image TypeRef.display := by
    intro last leads _
    exact Finset.mem_image_of_mem _ (finite.mem_toFinset.mpr leads)
  have fewer : (finite.toFinset.image TypeRef.display \ [].toFinset).card < steps :=
    calc (finite.toFinset.image TypeRef.display \ [].toFinset).card
        ≤ (finite.toFinset.image TypeRef.display).card :=
          Finset.card_le_card Finset.sdiff_subset
      _ ≤ finite.toFinset.card := Finset.card_image_le
      _ < steps := enough
  obtain ⟨answer, seen, ends, -⟩ := reachesWithin_isSome inside fewer
  exact ⟨answer, seen, ends⟩

theorem wellFormed_objectType : Library.objectType.WellFormed := by
  decide +kernel

theorem assignableWithin?_eq (formed : graph.WellFormed) {source target : TypeRef}
    (sourceFormed : source.WellFormed) (targetFormed : target.WellFormed)
    (finite : {type | graph.Leads source type}.Finite) {steps : Nat}
    (enough : finite.toFinset.card < steps) :
    ∃ answer, graph.assignableWithin? steps source target = some answer ∧
      (answer = true ↔ graph.Assignable source target) := by
  unfold assignableWithin? Assignable
  have alike : source.sameType target = true ↔ source.normal = target.normal :=
    TypeRef.sameType_iff.trans
      (TypeRef.display_eq_iff_normal_eq sourceFormed.named targetFormed.named)
  by_cases same : source.sameType target = true
  · refine ⟨true, by rw [if_pos same], ?_⟩
    simp [alike.mp same]
  · have different : source.normal ≠ target.normal := fun equal => same (alike.mpr equal)
    rw [if_neg same]
    by_cases plain : (source.isPrimitive || source.isVoid || target.isPrimitive ||
        target.isVoid) = true
    · refine ⟨false, by rw [if_pos plain], ?_⟩
      simp only [Bool.or_eq_true] at plain
      simp only [Bool.false_eq_true, different, false_or, false_iff, not_and]
      rintro ⟨first, second, third, fourth⟩
      simp [first, second, third, fourth] at plain
    · rw [if_neg plain]
      simp only [Bool.or_eq_true, not_or, Bool.not_eq_true] at plain
      have object : target.sameType Library.objectType = true ↔
          target.normal = Library.objectType :=
        TypeRef.sameType_iff.trans
          (TypeRef.display_eq_iff_normal_eq targetFormed.named wellFormed_objectType.named)
      by_cases root : target.sameType Library.objectType = true
      · refine ⟨true, by rw [if_pos root], ?_⟩
        simp [plain, object.mp root]
      · rw [if_neg root]
        have stops : ∃ answer seen,
            graph.reachesWithin target steps source [] = some (answer, seen) :=
          reachesWithin_ends finite enough
        obtain ⟨answer, seen, ends⟩ := stops
        refine ⟨answer, by rw [ends]; rfl, ?_⟩
        rw [reachesWithin_correct formed sourceFormed targetFormed ends]
        simp [different, plain, mt object.mpr root]

/-- Being assignable is being led to the target by a chain of supertypes.  If only
finitely many types can be reached, the search comes to this answer, and it never follows
more types in a row than these. -/
theorem isAssignable_correct (formed : graph.WellFormed) {source target : TypeRef}
    (sourceFormed : source.WellFormed) (targetFormed : target.WellFormed)
    (finite : {type | graph.Leads source type}.Finite) :
    ∃ answer, graph.isAssignable source target = some answer ∧
      (answer = true ↔ graph.Assignable source target) ∧
      ∀ steps, finite.toFinset.card < steps →
        graph.assignableWithin? steps source target = some answer := by
  obtain ⟨answer, ends, correct⟩ := assignableWithin?_eq formed sourceFormed targetFormed finite
    (Nat.lt_succ_self _)
  refine ⟨answer, isAssignable_eq_some_iff.mpr ⟨_, ends⟩, correct, ?_⟩
  intro steps enough
  obtain ⟨other, otherEnds, otherCorrect⟩ :=
    assignableWithin?_eq formed sourceFormed targetFormed finite enough
  have same : other = answer := Bool.eq_iff_iff.mpr (otherCorrect.trans correct.symm)
  rw [otherEnds, same]

/-- A list of types that has the direct supertypes of its members has all that they lead to. -/
theorem mem_of_leads {types : List TypeRef}
    (closed : ∀ type ∈ types, ∀ next ∈ graph.supertypesOf type, next ∈ types)
    {source : TypeRef} (member : source ∈ types) {last : TypeRef}
    (leads : graph.Leads source last) : last ∈ types := by
  induction leads with
  | refl => exact member
  | tail _ direct ih => exact closed _ ih _ (mem_supertypesOf_iff.mpr direct)

/-- Two declarations that inherit from each other; one of them is a list. -/
def cyclic : Graph where
  entries := entriesOf false [{
    name := "app"
    declarations := [
      { name := "A", typeParameters := ["T"], supertypes := [.declared "app.B" [.plain "T"]] },
      { name := "B"
        typeParameters := ["S"]
        supertypes := [.declared "app.A" [.plain "S"],
          .declared Library.listName [.plain "S"]] }] }] ++
    libraryEntries ["app.A", "app.B"]
  distinct := by decide +kernel

/-- A type applied to texts. -/
def ofTexts (name : String) : TypeRef := .declared name [.plain Library.stringName]

/-- What `A` of texts leads to. -/
def aboveA : List TypeRef :=
  [ofTexts "app.A", ofTexts "app.B", ofTexts "java.util.List", ofTexts "java.util.Collection"]

theorem mem_aboveA {type : TypeRef} (leads : cyclic.Leads (ofTexts "app.A") type) :
    type ∈ aboveA := by
  have closed : ∀ type ∈ aboveA, ∀ next ∈ cyclic.supertypesOf type, next ∈ aboveA := by
    decide +kernel
  exact mem_of_leads closed List.mem_cons_self leads

theorem finite_cyclic : {type | cyclic.Leads (ofTexts "app.A") type}.Finite :=
  (List.finite_toSet aboveA).subset fun _ leads => mem_aboveA leads

/-- `A` of texts is a list of texts, although the search passes its source again. -/
theorem isAssignable_correct_cyclic :
    cyclic.WellFormed ∧ (ofTexts "app.A").WellFormed ∧ Library.listOfString.WellFormed ∧
      cyclic.Assignable (ofTexts "app.A") Library.listOfString := by
  have formed : cyclic.WellFormed := by decide +kernel
  have sourceFormed : (ofTexts "app.A").WellFormed := by decide +kernel
  have targetFormed : Library.listOfString.WellFormed := by decide +kernel
  obtain ⟨answer, -, correct, ends⟩ :=
    isAssignable_correct formed sourceFormed targetFormed finite_cyclic
  have found : cyclic.assignableWithin? (finite_cyclic.toFinset.card + 5) (ofTexts "app.A")
      Library.listOfString = some true := rfl
  rw [ends _ (by omega)] at found
  exact ⟨formed, sourceFormed, targetFormed, correct.mp (Option.some.inj found)⟩

end Graph

end Stencil
