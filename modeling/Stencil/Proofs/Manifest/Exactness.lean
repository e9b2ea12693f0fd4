import Stencil.Proofs.Manifest.Invalidation
import Stencil.Proofs.Text.Order

/-!
# What a status report says

The record of an output holds fingerprints where it could hold declarations.
As long as the digest tells declarations apart this makes no difference: what
a report says against an output is what has changed of its template, of the
declarations that it was made from, and of the names that nothing had.
-/

namespace Stencil

namespace Graph

/-- The package and the declaration that a name stands for. -/
def declared? (graph : Graph) (name : QualifiedName) : Option (String × Declaration) :=
  (graph.entry? name).map fun entry => (entry.package, entry.declaration)

/-- Whether a name is that of a declaration of the document with an annotation. -/
def IsTemplate (graph : Graph) (trigger name : QualifiedName) : Prop :=
  ∃ entry ∈ graph.entries, entry.id = name ∧ entry.library = false ∧
    trigger ∈ entry.declaration.annotations

theorem mem_annotatedWith_iff {graph : Graph} {trigger name : QualifiedName} :
    name ∈ graph.annotatedWith trigger ↔ graph.IsTemplate trigger name := by
  simp only [annotatedWith, IsTemplate, Declaration.hasAnnotation, List.mem_map,
    List.mem_filter, Bool.and_eq_true, Bool.not_eq_true', List.contains_iff_mem]
  constructor
  · rintro ⟨entry, ⟨member, own, marked⟩, named⟩
    exact ⟨entry, member, named, own, marked⟩
  · rintro ⟨entry, member, named, own, marked⟩
    exact ⟨entry, ⟨member, own, marked⟩, named⟩

theorem CollisionFree.fingerprint?_eq_iff {graph other : Graph} (free : graph.CollisionFree other)
    {name : QualifiedName} {entry : Entry} (found : graph.entry? name = some entry) :
    other.fingerprint? name = some entry.fingerprint ↔
      other.declared? name = graph.declared? name := by
  constructor
  · intro same
    obtain ⟨second, otherFound, package, declaration⟩ := free.entry?_eq found same
    rw [declared?, declared?, found, otherFound, Option.map_some, Option.map_some, package,
      declaration]
  · intro same
    rw [declared?, declared?, found] at same
    obtain ⟨second, otherFound, equal⟩ := Option.map_eq_some_iff.mp same
    obtain ⟨package, declaration⟩ := Prod.mk.inj equal
    rw [fingerprint?, otherFound, Option.map_some, Entry.fingerprint, Entry.fingerprint,
      Entry.preimage, Entry.preimage, package, declaration]

/-- What has become of a declaration from one graph to another, if it is not the
same. -/
def changeOf? (graph other : Graph) (source : QualifiedName) : Option String :=
  match other.declared? source with
  | none => some (source ++ " was removed")
  | some declared =>
    if graph.declared? source = some declared then none else some (source ++ " changed")

end Graph

/-- What has changed from one graph to another of what an output depends on: its
template, the declarations of its provenance, and the names that nothing had. -/
def GeneratedUnit.changes (made : GeneratedUnit) (graph other : Graph) : List String :=
  (if other.declared? made.template = graph.declared? made.template then []
    else ["template " ++ made.template ++ " changed"]) ++
  made.provenance.names.filterMap (graph.changeOf? other) ++
  ((made.unresolved.filter fun name => (other.entry? name).isSome).map fun name =>
    name ++ " now resolves")

/-- What a report says of an output that was made from one graph, seen from another. -/
structure OutputState.Exact (state : OutputState) (made : GeneratedUnit) (graph other : Graph)
    (trigger : QualifiedName) : Prop where
  output : state.output = made.qualifiedName
  template : state.template = made.template
  orphaned : state.status = .orphaned ↔ ¬other.IsTemplate trigger made.template
  stale : ∀ reasons, state.status = .stale reasons ↔
    other.IsTemplate trigger made.template ∧ reasons = made.changes graph other ∧ reasons ≠ []
  upToDate : state.status = .upToDate ↔
    other.IsTemplate trigger made.template ∧ made.changes graph other = []

/-- What a report says of the outputs that were made from one graph, seen from
another. -/
structure StatusReport.Exact (report : StatusReport) (generated : List GeneratedUnit)
    (graph other : Graph) (trigger : QualifiedName) : Prop where
  /-- Outputs are reported once, in the order of their names. -/
  inOrder : (report.outputs.map OutputState.output).Pairwise (· < ·)
  states : ∀ state ∈ report.outputs, ∃ made ∈ generated, state.Exact made graph other trigger
  outputs : ∀ made ∈ generated, ∃ state ∈ report.outputs, state.Exact made graph other trigger
  /-- Sources are gone through in the order of their octets. -/
  sourcesInOrder : ∀ made ∈ generated,
    (made.provenance.names.map Text.octets).Pairwise (· < ·)
  missing : report.missing = (other.annotatedWith trigger).filter fun template =>
    decide (template ∉ generated.map GeneratedUnit.template)

namespace NameMap

theorem entries_ofList {α : Type} {pairs : List (String × α)}
    (sorted : pairs.Pairwise fun first second => first.1 < second.1) :
    (ofList pairs).entries = pairs :=
  congrArg entries (ofList_entries ⟨pairs, sorted⟩)

end NameMap

namespace Graph

variable {graph : Graph} {settings : Settings} {made : GeneratedUnit}

theorem entry?_of_generate {template : QualifiedName}
    (generated : graph.generate template settings = some (.ok made)) :
    ∃ entry, graph.entry? template = some entry := by
  obtain ⟨entry, -, found, -⟩ := generate_eq_ok generated
  exact ⟨entry, found⟩

theorem entry?_of_mem_provenance {template source : QualifiedName}
    (generated : graph.generate template settings = some (.ok made)) (member : source ∈ made.provenance) :
    ∃ entry, graph.entry? source = some entry := by
  obtain ⟨entry, collected, -, collects, equal⟩ := generate_eq_ok generated
  have holds := holds_of_collect (Collected.holds_nil graph) collects
  rw [equal] at member
  exact lookup?_isSome_iff.mp ((holds.provenance source).mp member).2

theorem lookup?_of_mem_unresolved {template name : QualifiedName}
    (generated : graph.generate template settings = some (.ok made)) (member : name ∈ made.unresolved) :
    graph.lookup? name = none := by
  obtain ⟨entry, collected, -, collects, equal⟩ := generate_eq_ok generated
  have holds := holds_of_collect (Collected.holds_nil graph) collects
  rw [equal] at member
  exact (holds.mem_unresolved.mp member).2

end Graph

namespace Manifest

variable {graph other : Graph} {settings : Settings} {root folder : Path} {made : GeneratedUnit}

theorem fingerprint?_eq_fingerprintIn_iff (free : graph.CollisionFree other)
    {name : QualifiedName} {entry : Entry} (found : graph.entry? name = some entry) :
    other.fingerprint? name = some (fingerprintIn graph name) ↔
      other.declared? name = graph.declared? name := by
  rw [fingerprintIn_eq found]
  exact free.fingerprint?_eq_iff found

/-- What a recorded fingerprint says against a source is what has become of it. -/
theorem sourceReason?_fingerprintIn (free : graph.CollisionFree other)
    {source : QualifiedName} {entry : Entry} (found : graph.entry? source = some entry) :
    ManifestEntry.sourceReason? other source (fingerprintIn graph source) =
      graph.changeOf? other source := by
  have same := fingerprint?_eq_fingerprintIn_iff free found
  unfold ManifestEntry.sourceReason? Graph.changeOf?
  cases otherFound : other.entry? source with
  | none =>
    rw [Graph.fingerprint?, Graph.declared?, otherFound]
    rfl
  | some second =>
    have fingerprint : other.fingerprint? source = some second.fingerprint := by
      rw [Graph.fingerprint?, otherFound, Option.map_some]
    have declared : other.declared? source = some (second.package, second.declaration) := by
      rw [Graph.declared?, otherFound, Option.map_some]
    rw [fingerprint, declared, Option.some.injEq] at same
    rw [fingerprint, declared]
    dsimp only
    by_cases equal : second.fingerprint = fingerprintIn graph source
    · rw [if_neg (not_not.mpr equal), if_pos (same.mp equal).symm]
    · rw [if_pos equal, if_neg fun unchanged => equal (same.mpr unchanged.symm)]

/-- What a record says against an output is what has changed of what it depends on. -/
theorem reasons_entryOf (free : graph.CollisionFree other)
    (generated : graph.generate made.template settings = some (.ok made)) :
    (entryOf graph folder made (Disk.entryOf root made)).reasons other =
      made.changes graph other := by
  obtain ⟨entry, found⟩ := Graph.entry?_of_generate generated
  have template := fingerprint?_eq_fingerprintIn_iff free found
  have sources : (entryOf graph folder made (Disk.entryOf root made)).sources.entries =
      made.provenance.names.map fun source => (source, fingerprintIn graph source) := by
    apply NameMap.entries_ofList
    rw [List.pairwise_map]
    exact made.provenance.sorted
  unfold ManifestEntry.reasons GeneratedUnit.changes
  rw [sources, List.filterMap_map]
  congr 2
  · by_cases same : other.declared? made.template = graph.declared? made.template
    · rw [if_pos same]
      exact if_neg (not_not.mpr (template.mpr same))
    · rw [if_neg same]
      exact if_pos fun unchanged => same (template.mp unchanged)
  · apply List.filterMap_congr
    intro source member
    obtain ⟨entry, found⟩ := Graph.entry?_of_mem_provenance generated member
    exact sourceReason?_fingerprintIn free found
  · simp only [entryOf, Graph.lookup?, Option.isSome_map]

theorem exact_entryOf {trigger : QualifiedName} {output : DiskOutput}
    (reasons : (entryOf graph folder made output).reasons other = made.changes graph other) :
    OutputState.Exact ⟨made.qualifiedName, made.template,
      (entryOf graph folder made output).status other (other.annotatedWith trigger)⟩
        made graph other trigger := by
  refine ⟨rfl, rfl, ?_, fun stated => ?_, ?_⟩
  · exact ManifestEntry.status_eq_orphaned_iff.trans (not_congr Graph.mem_annotatedWith_iff)
  · rw [← reasons]
    exact ManifestEntry.status_eq_stale_iff.trans
      (and_congr_left' Graph.mem_annotatedWith_iff)
  · rw [← reasons]
    exact ManifestEntry.status_eq_upToDate_iff.trans
      (and_congr_left' Graph.mem_annotatedWith_iff)

section Status

variable {committed : NameMap DiskOutput} {report : RoundReport} {trigger : QualifiedName}
  (distinct : (report.generated.map GeneratedUnit.qualifiedName).Nodup)
  (kept : ∀ made ∈ report.generated,
    committed.get? made.qualifiedName = some (Disk.entryOf root made))

include distinct kept

/-- The outputs of a round are the ones that a report on its manifest is about. -/
theorem mem_outputs_status_iff {state : OutputState} :
    state ∈ ((ofRound graph folder committed report).status other trigger).outputs ↔
      ∃ made ∈ report.generated, state = ⟨made.qualifiedName, made.template,
        (entryOf graph folder made (Disk.entryOf root made)).status other
          (other.annotatedWith trigger)⟩ := by
  constructor
  · intro reported
    obtain ⟨⟨name, entry⟩, stored, rfl⟩ := List.mem_map.mp reported
    obtain ⟨made, member, rfl, rfl⟩ := (mem_entries_ofRound_iff distinct kept).mp stored
    exact ⟨made, member, rfl⟩
  · rintro ⟨made, member, rfl⟩
    exact List.mem_map_of_mem
      ((mem_entries_ofRound_iff distinct kept).mpr ⟨made, member, rfl, rfl⟩)

theorem missing_status :
    ((ofRound graph folder committed report).status other trigger).missing =
      (other.annotatedWith trigger).filter fun template =>
        decide (template ∉ report.generated.map GeneratedUnit.template) := by
  apply List.filter_congr
  intro template _
  rw [Bool.eq_iff_iff, Bool.not_eq_true', decide_eq_true_iff, List.any_eq_false]
  constructor
  · intro unnamed made
    obtain ⟨made, member, same⟩ := List.mem_map.mp made
    have stored : (made.qualifiedName, entryOf graph folder made (Disk.entryOf root made)) ∈
        (ofRound graph folder committed report).outputs.entries :=
      (mem_entries_ofRound_iff distinct kept).mpr ⟨made, member, rfl, rfl⟩
    exact unnamed _ (List.mem_map_of_mem stored) (decide_eq_true same)
  · intro unmade entry present same
    obtain ⟨⟨name, entry⟩, stored, rfl⟩ := List.mem_map.mp present
    obtain ⟨made, member, -, rfl⟩ := (mem_entries_ofRound_iff distinct kept).mp stored
    exact unmade (List.mem_map.mpr ⟨made, member, of_decide_eq_true same⟩)

/-- A report on the manifest of a round says exactly what has changed since. -/
theorem exact_status_ofRound (free : graph.CollisionFree other)
    (generated : ∀ made ∈ report.generated,
      graph.generate made.template settings = some (.ok made)) :
    ((ofRound graph folder committed report).status other trigger).Exact report.generated graph
      other trigger := by
  constructor
  case inOrder =>
    show ((List.map _ (NameMap.entries _)).map OutputState.output).Pairwise (· < ·)
    rw [List.map_map, List.pairwise_map]
    exact (ofRound graph folder committed report).outputs.sorted
  case states =>
    intro state reported
    obtain ⟨made, member, rfl⟩ := (mem_outputs_status_iff distinct kept).mp reported
    exact ⟨made, member, exact_entryOf (reasons_entryOf free (generated made member))⟩
  case outputs =>
    intro made member
    exact ⟨_, (mem_outputs_status_iff distinct kept).mpr ⟨made, member, rfl⟩,
      exact_entryOf (reasons_entryOf free (generated made member))⟩
  case sourcesInOrder =>
    intro made _
    rw [List.pairwise_map]
    exact made.provenance.sorted.imp Text.octets_lt
  case missing => exact missing_status distinct kept

end Status

/-- Whatever graph the manifest of a round is compared with, the report on it says
exactly what has changed of what its outputs depend on. -/
theorem status_exact {graph other : Graph} (free : graph.CollisionFree other)
    {settings : Settings} {root : Path} {disk : Disk} {ended : Processor} {round : RoundState Disk}
    (ends : Processor.process { settings } graph (Disk.filer root) disk = some (ended, round))
    (folder : Path) (trigger : QualifiedName) :
    ((ofRound graph folder round.sink.outputs round.report).status other trigger).Exact
      round.report.generated graph other trigger := by
  obtain ⟨turns, orderly⟩ := Processor.exists_orderly rfl ends
  apply exact_status_ofRound orderly.qualifiedNames_nodup
    (fun made member => orderly.shown_of_mem (Disk.filer_records root) member) free
  intro made member
  exact orderly.generate_of_mem member

end Manifest

/-- A template without members. -/
def bareTemplate (name : String) : Declaration where
  name
  kind := .interfaceType
  annotations := ["aptgen.annotation.Sample"]

/-- A template with three members that return lists of texts, and the source of the
first one. -/
def listsTemplate : List Declaration := [
  { bareTemplate "T" with
    members := ["A", "B", "M"].map fun name => { name, returnType := Library.listOfString } },
  { name := "A", members := [{ name := "x" }] }]

def Graph.beforeEdit : Graph :=
  ofApp (bareTemplate "W" :: bareTemplate "U" :: { name := "B" } :: listsTemplate)
    (by decide +kernel)

/-- The graph in which `B` and `U` are gone, and `M` and `V` are new. -/
def Graph.afterEdit : Graph :=
  ofApp (bareTemplate "V" :: { name := "M" } :: listsTemplate ++ [bareTemplate "W"])
    (by decide +kernel)

/-- What is reported after the edit on the outputs of a round before it. -/
def reportAfterEdit (round : RoundState Disk) : StatusReport :=
  (Manifest.ofRound Graph.beforeEdit ⟨"out"⟩ round.sink.outputs round.report).status
    Graph.afterEdit "aptgen.annotation.Sample"

theorem generated_beforeEdit : ∃ round ∈ Processor.process { settings := {} } Graph.beforeEdit
    (Disk.filer ⟨"out"⟩) { files := {} }, round.2.report.generated.map
      (fun made => (made.template, made.changes Graph.beforeEdit Graph.afterEdit)) =
    [("app.W", []), ("app.U", ["template app.U changed"]),
      ("app.T", ["app.B was removed", "app.M now resolves"])] := by
  decide +kernel

/-- What is reported after the edit: `W` is up to date, `T` is not, the template of
`U` is gone, and nothing was made from `V`. -/
theorem Manifest.status_exact_afterEdit :
    Graph.beforeEdit.CollisionFree Graph.afterEdit ∧
      ∃ ended round, Processor.process { settings := {} } Graph.beforeEdit (Disk.filer ⟨"out"⟩)
          { files := {} } = some (ended, round) ∧
        (∃ state ∈ (reportAfterEdit round).outputs,
          state.template = "app.W" ∧ state.status = .upToDate) ∧
        (∃ state ∈ (reportAfterEdit round).outputs,
          state.template = "app.U" ∧ state.status = .orphaned) ∧
        (∃ state ∈ (reportAfterEdit round).outputs, state.template = "app.T" ∧
          state.status = .stale ["app.B was removed", "app.M now resolves"]) ∧
        (reportAfterEdit round).missing = ["app.V"] := by
  have free : Graph.beforeEdit.CollisionFree Graph.afterEdit :=
    Graph.collisionFree_of_shared (by decide +kernel)
  obtain ⟨⟨ended, round⟩, ends, generated⟩ := generated_beforeEdit
  have sound : (reportAfterEdit round).Exact round.report.generated Graph.beforeEdit
      Graph.afterEdit "aptgen.annotation.Sample" :=
    status_exact free ends ⟨"out"⟩ "aptgen.annotation.Sample"
  have shown : ∀ pair ∈ [("app.W", []), ("app.U", ["template app.U changed"]),
        ("app.T", ["app.B was removed", "app.M now resolves"])],
      ∃ made, made.template = pair.1 ∧ made.changes Graph.beforeEdit Graph.afterEdit = pair.2 ∧
        ∃ state ∈ (reportAfterEdit round).outputs, state.Exact made Graph.beforeEdit Graph.afterEdit
          "aptgen.annotation.Sample" := by
    intro pair listed
    rw [← generated] at listed
    obtain ⟨made, member, equal⟩ := List.mem_map.mp listed
    exact ⟨made, congrArg Prod.fst equal, congrArg Prod.snd equal, sound.outputs made member⟩
  have annotated : Graph.afterEdit.annotatedWith "aptgen.annotation.Sample" =
      ["app.V", "app.T", "app.W"] := by
    decide +kernel
  have marked : ∀ name, Graph.afterEdit.IsTemplate "aptgen.annotation.Sample" name ↔
      name ∈ ["app.V", "app.T", "app.W"] := by
    intro name
    rw [← Graph.mem_annotatedWith_iff, annotated]
  refine ⟨free, ended, round, ends, ?_, ?_, ?_, ?_⟩
  · obtain ⟨made, template, changes, state, reported, told⟩ := shown _ (.head _)
    refine ⟨state, reported, told.template.trans template, told.upToDate.mpr ⟨?_, changes⟩⟩
    rw [template, marked]
    decide
  · obtain ⟨made, template, -, state, reported, told⟩ := shown _ (.tail _ (.head _))
    refine ⟨state, reported, told.template.trans template, told.orphaned.mpr ?_⟩
    rw [template, marked]
    decide
  · obtain ⟨made, template, changes, state, reported, told⟩ :=
      shown _ (.tail _ (.tail _ (.head _)))
    refine ⟨state, reported, told.template.trans template,
      (told.stale _).mpr ⟨?_, changes.symm, by decide⟩⟩
    rw [template, marked]
    decide
  · have templates : round.report.generated.map GeneratedUnit.template =
        ["app.W", "app.U", "app.T"] := by
      have firsts := congrArg (List.map Prod.fst) generated
      rwa [List.map_map] at firsts
    rw [sound.missing, annotated, templates]
    decide

end Stencil
