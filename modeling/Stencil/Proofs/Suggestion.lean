import Stencil.Proofs.Text.EditDistance
import Stencil.Suggestion

/-!
# Suggestions are ranked

The rank of a candidate is a relation, `HasRank`.  Suggestions are a `Ranking`: they hold
the candidates up to a rank as often as they are given, lower ranks first, and those of
one rank in the order of the candidates.  This determines the list, so a lower limit
gives a first part of what a higher one gives.
-/

namespace Stencil

/-- How far a candidate is from a name. -/
inductive HasRank (name candidate : String) : Nat → Prop where
  | sameLetters : Text.lowerCase candidate = Text.lowerCase name → HasRank name candidate 0
  | contained : Text.lowerCase candidate ≠ Text.lowerCase name →
      (Text.lowerCase name <:+: Text.lowerCase candidate ∨
        Text.lowerCase candidate <:+: Text.lowerCase name) → HasRank name candidate 1
  | edited {edits : Nat} : ¬ Text.lowerCase name <:+: Text.lowerCase candidate →
      ¬ Text.lowerCase candidate <:+: Text.lowerCase name →
      IsLeast {edits | Text.Edits edits name.toList candidate.toList} edits →
      HasRank name candidate edits

theorem isWithin_eq_true_iff {part whole : List Char} :
    isWithin part whole = true ↔ part <:+: whole := by
  induction whole with
  | nil => simp [isWithin]
  | cons c rest ih =>
      rw [isWithin, Bool.or_eq_true, List.isPrefixOf_iff_prefix, ih, List.infix_cons_iff]

theorem suggestionRank_eq_iff {name candidate : String} {rank : Nat} :
    suggestionRank name candidate = rank ↔ HasRank name candidate rank := by
  unfold suggestionRank
  simp only [Bool.or_eq_true, isWithin_eq_true_iff]
  constructor
  · rintro rfl
    split_ifs with same within
    · exact .sameLetters same
    · exact .contained same within
    · rw [not_or] at within
      exact .edited within.1 within.2 (Text.isLeast_editDistance _ _)
  · intro ranked
    cases ranked with
    | sameLetters same => rw [if_pos same]
    | contained different within => rw [if_neg different, if_pos within]
    | edited notWithin notAround least =>
        have different : Text.lowerCase candidate ≠ Text.lowerCase name := by
          intro same
          apply notWithin
          rw [same]
        rw [if_neg different, if_neg (not_or.mpr ⟨notWithin, notAround⟩)]
        exact (Text.isLeast_editDistance _ _).unique least

/-- Only a candidate with the same letters has the rank zero, as any other one takes
edits. -/
theorem HasRank.lowerCase_eq {name candidate : String} (nearest : HasRank name candidate 0) :
    Text.lowerCase candidate = Text.lowerCase name := by
  cases nearest with
  | sameLetters same => exact same
  | edited _ _ least =>
      have equal : name.toList = candidate.toList := Text.Edits.eq_of_zero least.1
      rw [String.toList_injective equal]

instance (name candidate : String) (rank : Nat) : Decidable (HasRank name candidate rank) :=
  decidable_of_iff _ suggestionRank_eq_iff

section Sorting

variable {α : Type} (key : α → Nat)

def SortedBy (list : List α) : Prop := list.Pairwise fun first second => key first ≤ key second

def withKey (k : Nat) (list : List α) : List α := list.filter fun element => key element = k

def sortBy (list : List α) : List α :=
  list.mergeSort fun first second => key first ≤ key second

variable {key}

theorem sortedBy_sortBy (list : List α) : SortedBy key (sortBy key list) := by
  have sorted : (sortBy key list).Pairwise fun first second => decide (key first ≤ key second) :=
    List.pairwise_mergeSort (by simp only [decide_eq_true_eq]; omega)
      (by simp only [Bool.or_eq_true, decide_eq_true_eq]; omega) list
  exact sorted.imp fun bound => of_decide_eq_true bound

/-- Sorting is stable: elements with the same key keep their order. -/
theorem withKey_sortBy (k : Nat) (list : List α) :
    withKey key k (sortBy key list) = withKey key k list := by
  have tied : (withKey key k list).Pairwise fun first second => decide (key first ≤ key second) := by
    refine List.pairwise_iff_forall_sublist.mpr fun {first second} pair => ?_
    have equal : ∀ element ∈ [first, second], key element = k := fun element member =>
      of_decide_eq_true (List.mem_filter.mp (pair.subset member)).2
    rw [decide_eq_true_eq, equal first (by simp), equal second (by simp)]
  have kept : (withKey key k list).Sublist (sortBy key list) :=
    List.sublist_mergeSort (by simp only [decide_eq_true_eq]; omega)
      (by simp only [Bool.or_eq_true, decide_eq_true_eq]; omega) tied List.filter_sublist
  have inOrder : (withKey key k list).Sublist (withKey key k (sortBy key list)) := by
    have filtered := kept.filter fun element => decide (key element = k)
    simpa only [withKey, List.filter_filter, Bool.and_self] using filtered
  exact (inOrder.eq_of_length ((List.mergeSort_perm list _).filter _).length_eq.symm).symm

theorem withKey_cons (k : Nat) (element : α) (list : List α) :
    withKey key k (element :: list) =
      if key element = k then element :: withKey key k list else withKey key k list := by
  simp [withKey, List.filter_cons]

variable {first second : List α}

theorem mem_iff_of_withKey (same : ∀ k, withKey key k first = withKey key k second) (a : α) :
    a ∈ first ↔ a ∈ second := by
  have members := congrArg (a ∈ ·) (same (key a))
  simpa [withKey] using members

namespace SortedBy

theorem key_le {a b : α} (sorted : SortedBy key (b :: second)) (member : a ∈ b :: second) :
    key b ≤ key a := by
  rcases List.mem_cons.mp member with rfl | later
  · exact Nat.le_refl _
  · exact List.rel_of_pairwise_cons sorted later

/-- A sorted list is determined by what it holds for each key. -/
theorem eq_of_withKey (sorted : SortedBy key first) (otherSorted : SortedBy key second)
    (same : ∀ k, withKey key k first = withKey key k second) : first = second := by
  induction first generalizing second with
  | nil =>
      cases second with
      | nil => rfl
      | cons b rest =>
          have member := (mem_iff_of_withKey same b).mpr List.mem_cons_self
          exact absurd member List.not_mem_nil
  | cons a rest ih =>
      cases second with
      | nil =>
          have member := (mem_iff_of_withKey same a).mp List.mem_cons_self
          exact absurd member List.not_mem_nil
      | cons b others =>
          have keys : key a = key b := by
            apply Nat.le_antisymm
            · exact sorted.key_le ((mem_iff_of_withKey same b).mpr List.mem_cons_self)
            · exact otherSorted.key_le ((mem_iff_of_withKey same a).mp List.mem_cons_self)
          have heads := same (key a)
          rw [withKey_cons, withKey_cons, if_pos rfl, if_pos keys.symm] at heads
          obtain ⟨rfl, -⟩ := List.cons.inj heads
          have tails (k : Nat) : withKey key k rest = withKey key k others := by
            have equal := same k
            rw [withKey_cons, withKey_cons] at equal
            split_ifs at equal with chosen
            · exact (List.cons.inj equal).2
            · exact equal
          rw [ih sorted.of_cons otherSorted.of_cons tails]

/-- What a sorted list holds up to a key stands at its front. -/
theorem filter_prefix (sorted : SortedBy key first) (limit : Nat) :
    first.filter (fun element => key element ≤ limit) <+: first := by
  induction first with
  | nil => exact List.prefix_refl _
  | cons a rest ih =>
      by_cases near : key a ≤ limit
      · rw [List.filter_cons_of_pos (by simpa using near), List.prefix_cons_inj]
        exact ih sorted.of_cons
      · have empty : (a :: rest).filter (fun element => key element ≤ limit) = [] := by
          rw [List.filter_eq_nil_iff]
          intro b member
          have far := sorted.key_le member
          rw [decide_eq_true_eq]
          omega
        rw [empty]
        exact List.nil_prefix

end SortedBy

/-- A sorted list begins with the first one of its least elements. -/
theorem head?_sortBy {list : List α} {least : α} (begins : (sortBy key list).head? = some least) :
    (∀ other ∈ list, key least ≤ key other) ∧
      list.find? (fun other => key other = key least) = some least := by
  obtain ⟨rest, whole⟩ := List.head?_eq_some_iff.mp begins
  have sorted : SortedBy key (least :: rest) := whole ▸ sortedBy_sortBy list
  constructor
  · intro other member
    have later : other ∈ sortBy key list := List.mem_mergeSort.mpr member
    exact sorted.key_le (whole ▸ later)
  · have tied : withKey key (key least) list = least :: withKey key (key least) rest := by
      rw [← withKey_sortBy, whole, withKey_cons, if_pos rfl]
    rw [← List.head?_filter]
    exact congrArg List.head? tied

end Sorting

/-- The candidates up to a rank, with their ranks, as they are ordered. -/
def rankedUpTo (limit : Nat) (name : String) (candidates : List String) : List Suggestion :=
  ((candidates.filter (· ≠ name)).map fun candidate =>
    Suggestion.mk candidate (suggestionRank name candidate)).filter (·.rank ≤ limit)

theorem suggestSimilar_eq (name : String) (candidates : List String) (limit : Nat) :
    suggestSimilar name candidates limit =
      sortBy Suggestion.rank (rankedUpTo limit name candidates) := rfl

theorem rankedUpTo_sublist (limit : Nat) (name : String) (candidates : List String) :
    ((rankedUpTo limit name candidates).map Suggestion.candidate).Sublist candidates := by
  have others : (((candidates.filter (· ≠ name)).map fun candidate =>
      Suggestion.mk candidate (suggestionRank name candidate)).map Suggestion.candidate) =
      candidates.filter (· ≠ name) := by
    rw [List.map_map]
    exact List.map_id _
  apply (List.filter_sublist.map Suggestion.candidate).trans
  rw [others]
  exact List.filter_sublist

theorem mem_rankedUpTo {limit : Nat} {name : String} {candidates : List String}
    {suggestion : Suggestion} :
    suggestion ∈ rankedUpTo limit name candidates ↔
      suggestion.candidate ∈ candidates ∧ suggestion.candidate ≠ name ∧
        HasRank name suggestion.candidate suggestion.rank ∧ suggestion.rank ≤ limit := by
  obtain ⟨candidate, rank⟩ := suggestion
  simp only [rankedUpTo, List.mem_filter, List.mem_map, decide_eq_true_eq, ← suggestionRank_eq_iff]
  constructor
  · rintro ⟨⟨other, ⟨member, different⟩, equal⟩, near⟩
    cases equal
    exact ⟨member, different, rfl, near⟩
  · rintro ⟨member, different, rfl, near⟩
    exact ⟨⟨candidate, ⟨member, different⟩, rfl⟩, near⟩

theorem mem_suggestSimilar {limit : Nat} {name : String} {candidates : List String}
    {suggestion : Suggestion} :
    suggestion ∈ suggestSimilar name candidates limit ↔
      suggestion.candidate ∈ candidates ∧ suggestion.candidate ≠ name ∧
        HasRank name suggestion.candidate suggestion.rank ∧ suggestion.rank ≤ limit := by
  rw [suggestSimilar_eq, sortBy, List.mem_mergeSort, mem_rankedUpTo]

theorem suggestSimilar_eq_nil_iff {limit : Nat} {name : String} {candidates : List String} :
    suggestSimilar name candidates limit = [] ↔
      ∀ candidate ∈ candidates, candidate ≠ name → limit < suggestionRank name candidate := by
  rw [List.eq_nil_iff_forall_not_mem]
  constructor
  · intro empty candidate member different
    apply Nat.lt_of_not_le
    intro near
    apply empty ⟨candidate, suggestionRank name candidate⟩
    exact mem_suggestSimilar.mpr ⟨member, different, suggestionRank_eq_iff.mp rfl, near⟩
  · intro far suggestion suggested
    obtain ⟨member, different, ranked, near⟩ := mem_suggestSimilar.mp suggested
    have beyond := far suggestion.candidate member different
    rw [suggestionRank_eq_iff.mpr ranked] at beyond
    exact Nat.not_le_of_lt beyond near

/-- What suggestions for a name up to a rank are. -/
structure Ranking (limit : Nat) (name : String) (candidates : List String)
    (suggestions : List Suggestion) : Prop where
  /-- Each candidate but the name itself occurs with its rank, as often as it is given. -/
  count_eq : ∀ candidate rank, suggestions.count ⟨candidate, rank⟩ =
    if candidate ≠ name ∧ HasRank name candidate rank ∧ rank ≤ limit then
      candidates.count candidate
    else 0
  sorted : SortedBy Suggestion.rank suggestions
  /-- Candidates of one rank are in their order. -/
  inOrder : ∀ rank,
    ((withKey Suggestion.rank rank suggestions).map Suggestion.candidate).Sublist candidates

theorem count_rankedUpTo (limit : Nat) (name : String) (candidates : List String)
    (candidate : String) (rank : Nat) :
    (rankedUpTo limit name candidates).count ⟨candidate, rank⟩ =
      if candidate ≠ name ∧ HasRank name candidate rank ∧ rank ≤ limit then
        candidates.count candidate
      else 0 := by
  split_ifs with suggested
  · obtain ⟨different, ranked, near⟩ := suggested
    obtain rfl := suggestionRank_eq_iff.mpr ranked
    have injective : Function.Injective fun candidate =>
        Suggestion.mk candidate (suggestionRank name candidate) :=
      fun _ _ equal => congrArg Suggestion.candidate equal
    rw [rankedUpTo, List.count_filter (by simpa using near),
      List.count_map_of_injective _ _ injective, List.count_filter (by simpa using different)]
  · rw [List.count_eq_zero, mem_rankedUpTo]
    exact fun member => suggested member.2

theorem ranking_suggestSimilar (limit : Nat) (name : String) (candidates : List String) :
    Ranking limit name candidates (suggestSimilar name candidates limit) := by
  rw [suggestSimilar_eq]
  refine ⟨fun candidate rank => ?_, sortedBy_sortBy _, fun rank => ?_⟩
  · rw [sortBy, (List.mergeSort_perm _ _).count_eq, count_rankedUpTo]
  · rw [withKey_sortBy]
    exact (List.filter_sublist.map _).trans (rankedUpTo_sublist limit name candidates)

/-- A lower limit keeps the suggestions within it and their order. -/
theorem suggestSimilar_eq_filter (name : String) (candidates : List String) {limit more : Nat}
    (wider : limit ≤ more) :
    suggestSimilar name candidates limit =
      (suggestSimilar name candidates more).filter (·.rank ≤ limit) := by
  have sorted : SortedBy Suggestion.rank (suggestSimilar name candidates more) :=
    sortedBy_sortBy (rankedUpTo more name candidates)
  apply SortedBy.eq_of_withKey (sortedBy_sortBy _) (sorted.filter _)
  intro rank
  have narrowed : rankedUpTo limit name candidates =
      (rankedUpTo more name candidates).filter (·.rank ≤ limit) := by
    rw [rankedUpTo, rankedUpTo, List.filter_filter]
    apply List.filter_congr
    intro suggestion _
    rw [← Bool.decide_and]
    exact decide_eq_decide.mpr ⟨fun near => ⟨near, near.trans wider⟩, And.left⟩
  calc
    withKey Suggestion.rank rank (sortBy Suggestion.rank (rankedUpTo limit name candidates))
      = withKey Suggestion.rank rank
          ((rankedUpTo more name candidates).filter (·.rank ≤ limit)) := by
        rw [withKey_sortBy, narrowed]
    _ = (withKey Suggestion.rank rank (rankedUpTo more name candidates)).filter
          (·.rank ≤ limit) := List.filter_comm _ _ _
    _ = (withKey Suggestion.rank rank (suggestSimilar name candidates more)).filter
          (·.rank ≤ limit) := by
        rw [suggestSimilar_eq, withKey_sortBy]
    _ = withKey Suggestion.rank rank
          ((suggestSimilar name candidates more).filter (·.rank ≤ limit)) :=
        List.filter_comm _ _ _

/-- The first suggestion is the first one of the nearest candidates. -/
theorem head?_suggestSimilar {name : String} {candidates : List String} {limit : Nat}
    {suggestion : Suggestion}
    (nearest : (suggestSimilar name candidates limit).head? = some suggestion) :
    suggestion.rank = suggestionRank name suggestion.candidate ∧
      (∀ candidate ∈ candidates, candidate ≠ name →
        suggestion.rank ≤ suggestionRank name candidate) ∧
      candidates.find? (fun candidate =>
        candidate ≠ name ∧ suggestionRank name candidate = suggestion.rank) =
          some suggestion.candidate := by
  have suggested := List.mem_of_mem_head? nearest
  obtain ⟨-, -, ranked, near⟩ := mem_suggestSimilar.mp suggested
  rw [suggestSimilar_eq] at nearest
  obtain ⟨least, earliest⟩ := head?_sortBy nearest
  refine ⟨(suggestionRank_eq_iff.mpr ranked).symm, fun candidate member different => ?_, ?_⟩
  · by_cases within : suggestionRank name candidate ≤ limit
    · apply least ⟨candidate, suggestionRank name candidate⟩
      exact mem_rankedUpTo.mpr ⟨member, different, suggestionRank_eq_iff.mp rfl, within⟩
    · omega
  · rw [rankedUpTo, List.find?_filter, List.find?_map, List.find?_filter] at earliest
    obtain ⟨candidate, found, rfl⟩ := Option.map_eq_some_iff.mp earliest
    rw [← found]
    congr 1
    funext other
    rw [Bool.eq_iff_iff]
    simp only [Function.comp_apply, decide_eq_true_eq] at near ⊢
    constructor
    · rintro ⟨different, equal⟩
      exact ⟨different, equal ▸ near, equal⟩
    · rintro ⟨different, -, equal⟩
      exact ⟨different, equal⟩

/-- Suggestions are a stable ranking of the candidates up to a limit, higher limits only
add to their end, and only a name with the same letters has the rank zero. -/
theorem suggestSimilar_ranks (name : String) (candidates : List String) {limit more : Nat}
    (wider : limit ≤ more) :
    Ranking more name candidates (suggestSimilar name candidates more) ∧
      suggestSimilar name candidates limit =
        (suggestSimilar name candidates more).filter (·.rank ≤ limit) ∧
      suggestSimilar name candidates limit <+: suggestSimilar name candidates more ∧
      ∀ suggestion ∈ suggestSimilar name candidates more, suggestion.rank = 0 →
        Text.lowerCase suggestion.candidate = Text.lowerCase name := by
  have ranking := ranking_suggestSimilar more name candidates
  refine ⟨ranking, suggestSimilar_eq_filter name candidates wider, ?_, ?_⟩
  · rw [suggestSimilar_eq_filter name candidates wider]
    exact ranking.sorted.filter_prefix limit
  · intro suggestion suggested nearest
    obtain ⟨-, -, ranked, -⟩ := mem_suggestSimilar.mp suggested
    rw [nearest] at ranked
    exact ranked.lowerCase_eq

/-- Candidates of four ranks, one of them given twice, with the lowest and a high limit. -/
theorem suggestSimilar_ranks_manyTies :
    let candidates := ["Thing12", "Thing9", "thing1", "Thing1", "Thing12", "Th", "THING1", "Top"]
    let wide := suggestSimilar "Thing1" candidates (2 ^ 64 - 1)
    0 ≤ 2 ^ 64 - 1 ∧ Ranking (2 ^ 64 - 1) "Thing1" candidates wide ∧
      suggestSimilar "Thing1" candidates 0 = wide.filter (·.rank ≤ 0) ∧
      suggestSimilar "Thing1" candidates 0 <+: wide ∧
      (∀ suggestion ∈ wide, suggestion.rank = 0 →
        Text.lowerCase suggestion.candidate = Text.lowerCase "Thing1") ∧
      wide.count ⟨"Thing12", 1⟩ = 2 ∧ wide.count ⟨"Top", 5⟩ = 1 := by
  intro candidates wide
  obtain ⟨ranking, narrowed, front, nearest⟩ :=
    suggestSimilar_ranks "Thing1" candidates (Nat.zero_le (2 ^ 64 - 1))
  refine ⟨Nat.zero_le _, ranking, narrowed, front, nearest, ?_, ?_⟩
  · rw [ranking.count_eq]
    decide +kernel
  · rw [ranking.count_eq]
    decide +kernel

end Stencil
