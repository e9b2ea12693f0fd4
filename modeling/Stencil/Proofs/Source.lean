import Stencil.Proofs.Graph.Construction
import Stencil.Proofs.Suggestion
import Stencil.Source

/-!
# Suggested names can be followed

A name without a declaration is cut into a package and a simple name, and another name of
the package is suggested.  Joined with the package again it is a name that the graph
looks up, whichever way the packages and the names of the graph are dotted.  Nothing of
the package is nearer, and if nothing is suggested, all of the package is far away.
-/

namespace Stencil

namespace Graph

/-- The declarations of a package with another simple name than the one asked for. -/
def Offers (package name : String) (entry : Entry) : Prop :=
  entry.package = package ∧ entry.declaration.name ≠ name

instance (package name : String) (entry : Entry) : Decidable (Offers package name entry) :=
  inferInstanceAs (Decidable (_ ∧ _))

/-- What a suggestion for a simple name in a package promises. -/
structure Suggests (graph : Graph) (package name suggested : String) : Prop where
  differs : suggested ≠ name
  found : graph.lookup? (qualify package suggested) = some (qualify package suggested)
  simpleName : graph.simpleName? (qualify package suggested) = some suggested
  packageName : graph.packageOf? (qualify package suggested) = some package
  /-- No declaration of the package is nearer. -/
  least : ∀ entry ∈ graph.entries, Offers package name entry →
    suggestionRank name suggested ≤ suggestionRank name entry.declaration.name
  /-- It is the first one among those that are equally near. -/
  earliest : (graph.entries.find? fun entry => Offers package name entry ∧
      suggestionRank name entry.declaration.name = suggestionRank name suggested).map
    (·.declaration.name) = some suggested

variable {graph : Graph} {package name : String}

theorem Suggests.offered {suggested : String} (suggests : graph.Suggests package name suggested) :
    ∃ entry ∈ graph.entries, Offers package name entry ∧ entry.declaration.name = suggested := by
  obtain ⟨entry, found, named⟩ := Option.map_eq_some_iff.mp suggests.earliest
  have chosen := List.find?_some found
  simp only [decide_eq_true_eq] at chosen
  exact ⟨entry, List.mem_of_find?_eq_some found, chosen.1, named⟩

/-- Just one name keeps the promise. -/
theorem Suggests.unique {first second : String} (firstSuggests : graph.Suggests package name first)
    (secondSuggests : graph.Suggests package name second) : first = second := by
  obtain ⟨firstEntry, firstMember, firstOffers, firstNamed⟩ := firstSuggests.offered
  obtain ⟨secondEntry, secondMember, secondOffers, secondNamed⟩ := secondSuggests.offered
  have noNearer := firstSuggests.least secondEntry secondMember secondOffers
  have noFarther := secondSuggests.least firstEntry firstMember firstOffers
  rw [secondNamed] at noNearer
  rw [firstNamed] at noFarther
  have same := firstSuggests.earliest
  rw [Nat.le_antisymm noNearer noFarther, secondSuggests.earliest] at same
  exact (Option.some.inj same).symm

theorem simpleNamesIn_eq (graph : Graph) (package : String) :
    graph.simpleNamesIn package =
      (graph.entries.filter fun entry => decide (entry.package = package)).map
        (·.declaration.name) := by
  unfold simpleNamesIn declarationsIn
  rw [List.filterMap_map, ← List.filterMap_eq_map]
  apply List.filterMap_congr
  intro entry member
  exact (presents_of_mem (List.mem_filter.mp member).1).simpleName

theorem mem_simpleNamesIn {simpleName : String} :
    simpleName ∈ graph.simpleNamesIn package ↔
      ∃ entry ∈ graph.entries, entry.package = package ∧ entry.declaration.name = simpleName := by
  rw [simpleNamesIn_eq]
  simp [and_assoc]

/-- Joining the package and the simple name of a declaration leads to it. -/
theorem lookup?_qualify {entry : Entry} (member : entry ∈ graph.entries) :
    graph.lookup? (qualify entry.package entry.declaration.name) =
      some (qualify entry.package entry.declaration.name) :=
  lookup?_eq_some_iff.mpr ⟨rfl, List.mem_map.mpr ⟨entry, member, rfl⟩⟩

theorem suggests_of_head? {limit : Nat} {suggestion : Suggestion}
    (nearest : (suggestSimilar name (graph.simpleNamesIn package) limit).head? =
      some suggestion) : graph.Suggests package name suggestion.candidate := by
  obtain ⟨ranked, least, earliest⟩ := head?_suggestSimilar nearest
  rw [simpleNamesIn_eq, List.find?_map, List.find?_filter] at earliest
  obtain ⟨entry, found, named⟩ := Option.map_eq_some_iff.mp earliest
  have member := List.mem_of_find?_eq_some found
  have chosen := List.find?_some found
  simp only [Function.comp_apply, decide_eq_true_eq] at chosen
  obtain ⟨rfl, different, -⟩ := chosen
  have presented : graph.Presents entry.package entry.declaration := presents_of_mem member
  constructor
  case differs => exact named ▸ different
  case found => exact named ▸ lookup?_qualify member
  case simpleName => exact named ▸ presented.simpleName
  case packageName => exact named ▸ presented.packageName
  case least =>
    rintro other otherMember ⟨inPackage, otherDifferent⟩
    rw [← ranked]
    exact least _ (mem_simpleNamesIn.mpr ⟨other, otherMember, inPackage, rfl⟩) otherDifferent
  case earliest =>
    rw [← earliest, ← ranked]
    congr 2
    funext other
    simp [Offers, and_assoc]

theorem suggestSimilar_simpleNamesIn_eq_nil_iff {limit : Nat} :
    suggestSimilar name (graph.simpleNamesIn package) limit = [] ↔
      ∀ entry ∈ graph.entries, Offers package name entry →
        limit < suggestionRank name entry.declaration.name := by
  rw [suggestSimilar_eq_nil_iff]
  constructor
  · rintro far entry member ⟨inPackage, different⟩
    exact far _ (mem_simpleNamesIn.mpr ⟨entry, member, inPackage, rfl⟩) different
  · intro far simpleName member different
    obtain ⟨entry, entryMember, inPackage, rfl⟩ := mem_simpleNamesIn.mp member
    exact far entry entryMember ⟨inPackage, different⟩

/-- Where a source is asked for that is not there, the strict policy names another one of
its package that can be followed, and names none exactly if all of the package is more
than three edits away. -/
theorem extractNames_suggests (graph : Graph) (template : QualifiedName) (member : String)
    {sourceName : QualifiedName} {package name : String}
    (split : splitQualified sourceName = (package, name))
    (unresolved : graph.lookup? sourceName = none) :
    ∃ suggestion, graph.extractNames template member sourceName .strict =
        .error (.unresolvedSource template member sourceName suggestion) ∧
      (∀ suggested, suggestion = some suggested → graph.Suggests package name suggested) ∧
      (suggestion = none ↔ ∀ entry ∈ graph.entries, Offers package name entry →
        3 < suggestionRank name entry.declaration.name) := by
  have nearest : graph.nearestName? sourceName =
      (suggestSimilar name (graph.simpleNamesIn package) 3).head?.map Suggestion.candidate := by
    unfold nearestName?
    rw [split]
    rfl
  refine ⟨graph.nearestName? sourceName, ?_, ?_, ?_⟩
  · unfold extractNames
    rw [unresolved]
  · intro suggested given
    rw [nearest] at given
    obtain ⟨suggestion, first, rfl⟩ := Option.map_eq_some_iff.mp given
    exact suggests_of_head? first
  · rw [nearest, Option.map_eq_none_iff, List.head?_eq_none_iff]
    exact suggestSimilar_simpleNamesIn_eq_nil_iff

/-- A package with two names that are equally near to `Thinx`.  The nearer name is in the
default package, and only looks like one of the other package. -/
def twoPackages : Graph :=
  ⟨entriesOf false [
    { declarations := [{ name := "app.THINX" }] },
    { name := "app"
      declarations := [{ name := "x.Thynx" }, { name := "Thing" }, { name := "Thinj" }] }],
    by decide⟩

theorem suggests_twoPackages : twoPackages.Suggests "app" "Thinx" "Thing" where
  differs := by decide
  found := by decide
  simpleName := by decide
  packageName := by decide
  least := by decide +kernel
  earliest := by decide +kernel

/-- The first one of the nearest names is suggested. -/
theorem extractNames_suggests_twoPackages :
    splitQualified "app.Thinx" = ("app", "Thinx") ∧ twoPackages.lookup? "app.Thinx" = none ∧
      twoPackages.extractNames "app.T" "m" "app.Thinx" .strict =
        .error (.unresolvedSource "app.T" "m" "app.Thinx" (some "Thing")) := by
  have split : splitQualified "app.Thinx" = ("app", "Thinx") := by decide
  have unresolved : twoPackages.lookup? "app.Thinx" = none := by decide
  obtain ⟨suggestion, refused, suggests, none_iff⟩ :=
    extractNames_suggests twoPackages "app.T" "m" split unresolved
  have near : ¬ ∀ entry ∈ twoPackages.entries, Offers "app" "Thinx" entry →
      3 < suggestionRank "Thinx" entry.declaration.name := by decide +kernel
  cases suggestion with
  | none => exact absurd (none_iff.mp rfl) near
  | some suggested =>
      obtain rfl := (suggests suggested rfl).unique suggests_twoPackages
      exact ⟨split, unresolved, refused⟩

end Graph

end Stencil
