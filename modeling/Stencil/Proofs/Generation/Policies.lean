import Stencil.Proofs.Generation.Content

/-!
# What strictness changes

Without strictness a template goes on past every source that is not there and keeps a
list of them; with strictness it stops at the first one.  The list says all about the
stop: a template has an output with strictness exactly if the list is empty, and then it
is the same output; otherwise the first name in the list is the one that is refused, in
the first member that has it.
-/

namespace Stencil

/-- The output of a template without strictness tells what strictness makes of it. -/
structure GeneratedUnit.ForetellsStrict (made : GeneratedUnit) (graph : Graph)
    (settings : Settings) (entry : Entry) : Prop where
  succeeds : (∃ strictly, graph.generate entry.id { settings with lookup := .strict } =
    some (.ok strictly)) ↔ made.unresolved = []
  same : ∀ strictly, graph.generate entry.id { settings with lookup := .strict } =
    some (.ok strictly) → strictly = made
  /-- The first name that is not there is refused in the first member that has it. -/
  refused : ∀ source others, made.unresolved = source :: others →
    ∃ member, (graph.askedMembers entry).find? (fun member =>
        decide (qualify entry.package member.name = source)) = some member ∧
      graph.generate entry.id { settings with lookup := .strict } = some (.error
        (.unresolvedSource entry.id member.name source (graph.nearestName? source)))

theorem GeneratedUnit.IsOutputOf.eq {made second : GeneratedUnit} {graph : Graph}
    {settings others : Settings} {entry : Entry} (output : made.IsOutputOf graph settings entry)
    (otherOutput : second.IsOutputOf graph others entry)
    (suffix : others.implSuffix = settings.implSuffix)
    (escape : others.escapeLiterals = settings.escapeLiterals) : second = made := by
  have text : graph.implementationText others entry = graph.implementationText settings entry := by
    unfold Graph.implementationText
    rw [suffix, escape]
  have provenance : second.provenance = made.provenance :=
    NameSet.ext_of_mem fun name =>
      (otherOutput.provenance name).trans (output.provenance name).symm
  cases made
  cases second
  simp only [GeneratedUnit.mk.injEq]
  exact ⟨otherOutput.template.trans output.template.symm,
    otherOutput.qualifiedName.trans (suffix ▸ output.qualifiedName.symm),
    otherOutput.text.trans (text.trans output.text.symm), provenance,
    otherOutput.unresolved.trans output.unresolved.symm⟩

namespace Graph

variable {graph : Graph} {settings : Settings} {entry : Entry}

/-- The first element that fails a test is also the first one that looks like it, if the
test only depends on the looks. -/
private theorem find?_of_looks {α β : Type} [DecidableEq β] {list : List α} {looks : α → β}
    {first : α} (fails : β → Bool)
    (found : list.find? (fun item => fails (looks item)) = some first) :
    list.find? (fun item => decide (looks item = looks first)) = some first := by
  obtain ⟨failed, before, after, rfl, passed⟩ := List.find?_eq_some_iff_append.mp found
  refine List.find?_eq_some_iff_append.mpr ⟨by simp, before, after, rfl, fun item earlier => ?_⟩
  have kept := passed item earlier
  by_cases alike : looks item = looks first
  · rw [alike, failed] at kept
    cases kept
  · simpa using alike

private theorem head?_eraseDups (names : List QualifiedName) :
    names.eraseDups.head? = names.head? := by
  cases names with
  | nil => rfl
  | cons name rest => rw [List.eraseDups_cons, List.head?_cons, List.head?_cons]

theorem head?_unresolved {made : GeneratedUnit} (output : made.IsOutputOf graph settings entry) :
    made.unresolved.head? = ((graph.askedMembers entry).find? fun member =>
      (graph.lookup? (qualify entry.package member.name)).isNone).map fun member =>
        qualify entry.package member.name := by
  rw [output.unresolved, head?_eraseDups, List.head?_filter, sourceNames, List.find?_map]
  simp only [lookup?, Option.isNone_map, Function.comp_def]

theorem find?_bodilessMembers (member : entry ∈ graph.entries) (missing : QualifiedName → Bool) :
    (graph.bodilessMembers entry.id).find? (fun member => missing member.sourceName) =
      ((graph.askedMembers entry).find? fun member =>
        missing (qualify entry.package member.name)).map fun member =>
          ⟨member.name, member.returnType, true, qualify entry.package member.name⟩ := by
  rw [bodilessMembers_id member, List.find?_map]
  rfl

theorem foretellsStrict (member : entry ∈ graph.entries) (ends : graph.SearchesEnd entry.id)
    {made : GeneratedUnit} (output : made.IsOutputOf graph settings entry) :
    made.ForetellsStrict graph settings entry := by
  let strictly : Settings := { settings with lookup := .strict }
  have head := head?_unresolved output
  have outcomes := generate_strict_outcomes (entry?_id member) ends
    (show strictly.lookup = _ from rfl)
  rw [find?_bodilessMembers member fun name => (graph.lookup? name).isNone] at outcomes
  refine ⟨?_, fun second strictlyGenerated => ?_, fun source others list => ?_⟩
  · rcases outcomes with ⟨allFound, succeeds⟩ | ⟨eligible, first, failed⟩
    · rw [Option.map_eq_none_iff] at allFound
      rw [allFound] at head
      exact iff_of_true succeeds (List.head?_eq_none_iff.mp head)
    · obtain ⟨asked, found, -⟩ := Option.map_eq_some_iff.mp first
      refine iff_of_false ?_ ?_
      · rintro ⟨second, strictlyGenerated⟩
        exact absurd (strictlyGenerated.symm.trans failed) (by simp)
      · intro empty
        rw [found, empty] at head
        cases head
  · exact output.eq (isOutputOf_of_generate member strictlyGenerated) rfl rfl
  · rcases outcomes with ⟨allFound, -⟩ | ⟨eligible, first, failed⟩
    · rw [Option.map_eq_none_iff] at allFound
      rw [allFound, list] at head
      cases head
    · obtain ⟨asked, found, rfl⟩ := Option.map_eq_some_iff.mp first
      rw [found, list] at head
      obtain rfl := Option.some.inj head
      exact ⟨asked, find?_of_looks (fun name => (graph.lookup? name).isNone) found, failed⟩

/-- Strictness refines the lenient policy.  If the searches for a declaration end, it is made
into an output without strictness, and the output tells whether there is one with strictness,
that it is the same one, and what is refused otherwise.  If they do not, there is no answer
with either policy. -/
theorem generate_strict_refines (member : entry ∈ graph.entries) (settings : Settings) :
    (graph.SearchesEnd entry.id →
      ∃ made, graph.generate entry.id { settings with lookup := .lenient } = some (.ok made) ∧
        made.ForetellsStrict graph settings entry) ∧
    (¬ graph.SearchesEnd entry.id →
      graph.generate entry.id { settings with lookup := .lenient } = none ∧
        graph.generate entry.id { settings with lookup := .strict } = none) := by
  refine ⟨fun ends => ?_, fun endless => ?_⟩
  · obtain ⟨made, generated⟩ := exists_generate_lenient (entry?_id member) ends
      (show Settings.lookup { settings with lookup := .lenient } = _ from rfl)
    have output := isOutputOf_of_generate member generated
    have same : made.IsOutputOf graph settings entry := ⟨output.template, output.qualifiedName,
      output.text, output.provenance, output.unresolved, output.disjoint⟩
    exact ⟨made, generated, foretellsStrict member ends same⟩
  · exact ⟨(graph.generate_eq_none_iff entry.id _).mpr endless,
      (graph.generate_eq_none_iff entry.id _).mpr endless⟩

/-- There is no list that could say that a template without an end has an output with
strictness, and strictness does not refuse it either. -/
theorem generate_strict_refines_endless :
    ⟨"app", endlessTemplate, false⟩ ∈ endless.entries ∧
      (¬∃ made, endless.generate "app.Bad" { lookup := .lenient } = some (.ok made)) ∧
      ¬∃ result, endless.generate "app.Bad" { lookup := .strict } = some result := by
  refine ⟨List.mem_cons_self, ?_, ?_⟩
  · rintro ⟨made, generated⟩
    exact not_searchesEnd_endless (searchesEnd_of_generate generated)
  · rintro ⟨result, generated⟩
    exact not_searchesEnd_endless (searchesEnd_of_generate generated)

/-- A template that names one source that is there and two that are not, one of them
twice. -/
def mixedTemplate : Entry where
  package := "app"
  library := false
  declaration := {
    name := "Mixed"
    kind := .interfaceType
    members := [
      { name := "Lost", returnType := Library.listOfString, modifiers := [.default] },
      { name := "Kept", returnType := Library.listOfString },
      { name := "Gone", returnType := Library.listOfString },
      { name := "Lost", returnType := Library.listOfString },
      { name := "Gone", returnType := Library.listOfString }] }

def withMixed : Graph where
  entries := [mixedTemplate, ⟨"app", { name := "Kept", members := [{ name := "x" }] }, false⟩]
  distinct := by decide

/-- The member that is refused is the third one: the first has a body, and the second names
a source that is there. -/
theorem generate_strict_refines_withMixed :
    mixedTemplate ∈ withMixed.entries ∧
      ∃ made, withMixed.generate "app.Mixed" { lookup := .lenient } = some (.ok made) ∧
        made.unresolved = ["app.Gone", "app.Lost"] ∧
        withMixed.generate "app.Mixed" { lookup := .strict } = some (.error
          (.unresolvedSource "app.Mixed" "Gone" "app.Gone" (withMixed.nearestName? "app.Gone"))) := by
  have member : mixedTemplate ∈ withMixed.entries := List.mem_cons_self
  obtain ⟨made, generated, foretells⟩ := (generate_strict_refines member {}).1 (by decide +kernel)
  have unresolved : made.unresolved = ["app.Gone", "app.Lost"] := by
    rw [(isOutputOf_of_generate member generated).unresolved]
    decide +kernel
  obtain ⟨refused, first, failed⟩ := foretells.refused _ _ unresolved
  have third : (withMixed.askedMembers mixedTemplate).find? (fun member =>
      decide (qualify mixedTemplate.package member.name = "app.Gone")) =
        some { name := "Gone", returnType := Library.listOfString } := by
    decide +kernel
  obtain rfl := Option.some.inj (first.symm.trans third)
  exact ⟨member, made, generated, unresolved, failed⟩

end Graph

end Stencil
