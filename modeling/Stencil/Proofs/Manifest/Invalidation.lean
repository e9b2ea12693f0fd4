import Stencil.Manifest.Status
import Stencil.Proofs.Graph.Bounded
import Stencil.Proofs.Graph.Fingerprint
import Stencil.Proofs.Manifest.Record

/-!
# What an up-to-date output promises

The manifest of a round records the template, the sources and the unresolved
names of every output.  If all of them are as they were, another round makes
the same output, provided that the same members of the template still return
lists of texts.

That last proviso is needed.  Whether a return type is a list of texts is read
off the supertypes of the declarations on the way, and these are no sources of
the output.
-/

namespace Stencil

namespace ManifestEntry

theorem sourceReason?_eq_none_iff {graph : Graph} {source : QualifiedName} {recorded : String} :
    sourceReason? graph source recorded = none ↔ graph.fingerprint? source = some recorded := by
  unfold sourceReason?
  cases found : graph.fingerprint? source with
  | none => simp
  | some fingerprint =>
    by_cases same : fingerprint = recorded
    · simp [same]
    · simp [same]

/-- Nothing speaks against an entry exactly if the template and the sources have
the recorded fingerprints and no name resolves that nothing had. -/
theorem reasons_eq_nil_iff {entry : ManifestEntry} {graph : Graph} :
    entry.reasons graph = [] ↔
      graph.fingerprint? entry.template = some entry.templateFingerprint ∧
        (∀ source recorded, entry.sources.get? source = some recorded →
          graph.fingerprint? source = some recorded) ∧
        ∀ name ∈ entry.unresolved, graph.lookup? name = none := by
  unfold reasons
  rw [List.append_eq_nil_iff, List.append_eq_nil_iff, and_assoc]
  refine and_congr ?_ (and_congr ?_ ?_)
  · by_cases same : graph.fingerprint? entry.template = some entry.templateFingerprint
    · simp [same]
    · simp [same]
  · rw [List.filterMap_eq_nil_iff]
    constructor
    · intro silent source recorded stored
      exact sourceReason?_eq_none_iff.mp
        (silent (source, recorded) (NameMap.mem_entries_iff.mpr stored))
    · rintro same ⟨source, recorded⟩ stored
      exact sourceReason?_eq_none_iff.mpr
        (same source recorded (NameMap.mem_entries_iff.mp stored))
  · rw [List.map_eq_nil_iff, List.filter_eq_nil_iff]
    simp

/-- An entry has one of three states, by its template and by what speaks against it. -/
theorem status_eq (entry : ManifestEntry) (graph : Graph) (templates : List QualifiedName) :
    entry.status graph templates =
      if entry.template ∈ templates then
        if entry.reasons graph = [] then .upToDate else .stale (entry.reasons graph)
      else .orphaned := by
  unfold status
  cases entry.reasons graph with
  | nil => simp
  | cons first rest => simp

variable {entry : ManifestEntry} {graph : Graph} {templates : List QualifiedName}

theorem status_eq_upToDate_iff :
    entry.status graph templates = .upToDate ↔
      entry.template ∈ templates ∧ entry.reasons graph = [] := by
  rw [status_eq]
  split_ifs <;> simp_all

theorem status_eq_orphaned_iff :
    entry.status graph templates = .orphaned ↔ entry.template ∉ templates := by
  rw [status_eq]
  split_ifs <;> simp_all

theorem status_eq_stale_iff {reasons : List String} :
    entry.status graph templates = .stale reasons ↔
      entry.template ∈ templates ∧ reasons = entry.reasons graph ∧ reasons ≠ [] := by
  rw [status_eq]
  split_ifs with listed silent
  · simp +contextual [silent]
  · rw [OutputStatus.stale.injEq, eq_comm, and_iff_right listed]
    constructor
    · rintro rfl
      exact ⟨rfl, silent⟩
    · exact And.left
  · simp [listed]

end ManifestEntry

namespace Manifest

/-- Nothing speaks against the record of an output if the fingerprints are those of
the graph that it was made from. -/
theorem reasons_entryOf_eq_nil_iff {graph other : Graph} {folder : Path} {made : GeneratedUnit}
    {output : DiskOutput} :
    (entryOf graph folder made output).reasons other = [] ↔
      other.fingerprint? made.template = some (fingerprintIn graph made.template) ∧
        (∀ source ∈ output.provenance,
          other.fingerprint? source = some (fingerprintIn graph source)) ∧
        ∀ name ∈ made.unresolved, other.lookup? name = none := by
  rw [ManifestEntry.reasons_eq_nil_iff]
  refine and_congr Iff.rfl (and_congr ?_ Iff.rfl)
  unfold entryOf
  simp only [NameMap.get?_ofList_map]
  constructor
  · intro same source member
    exact same source _ (if_pos member)
  · intro same source recorded stored
    by_cases member : source ∈ output.provenance.names
    · rw [if_pos member] at stored
      rw [← Option.some.inj stored]
      exact same source member
    · rw [if_neg member] at stored
      cases stored

theorem fingerprintIn_eq {graph : Graph} {name : QualifiedName} {entry : Entry}
    (found : graph.entry? name = some entry) : fingerprintIn graph name = entry.fingerprint := by
  unfold fingerprintIn Graph.fingerprint?
  rw [found]
  rfl

/-- An output of a round is reported up to date exactly if its template is still a
template and nothing speaks against its record. -/
theorem upToDate_iff {graph other : Graph} {settings : Settings} {root : Path} (folder : Path)
    {disk : Disk} {ended : Processor} {round : RoundState Disk}
    (ends : Processor.process { settings } graph (Disk.filer root) disk = some (ended, round))
    {made : GeneratedUnit} (member : made ∈ round.report.generated) :
    (∃ state ∈ ((ofRound graph folder round.sink.outputs round.report).status other
          settings.trigger).outputs,
      state.output = made.qualifiedName ∧ state.status = .upToDate) ↔
      made.template ∈ other.annotatedWith settings.trigger ∧
        (entryOf graph folder made (Disk.entryOf root made)).reasons other = [] := by
  obtain ⟨turns, orderly⟩ := Processor.exists_orderly rfl ends
  have recorded : (made.qualifiedName, entryOf graph folder made (Disk.entryOf root made)) ∈ _ :=
    (mem_entries_ofRound_iff orderly.qualifiedNames_nodup fun _ kept =>
      orderly.shown_of_mem (Disk.filer_records root) kept).mpr ⟨made, member, rfl, rfl⟩
  constructor
  · rintro ⟨state, reported, named, status⟩
    obtain ⟨⟨name, entry⟩, stored, rfl⟩ := List.mem_map.mp reported
    obtain rfl : name = made.qualifiedName := named
    obtain rfl := Option.some.inj ((NameMap.mem_entries_iff.mp stored).symm.trans
      (NameMap.mem_entries_iff.mp recorded))
    exact ManifestEntry.status_eq_upToDate_iff.mp status
  · intro upToDate
    refine ⟨_, List.mem_map_of_mem recorded, rfl, ?_⟩
    exact ManifestEntry.status_eq_upToDate_iff.mpr upToDate

end Manifest

/-- A graph in which nothing speaks against the record of an output makes the same
output again. -/
theorem Graph.generate_of_reasons_eq_nil {graph other : Graph} {settings : Settings}
    {folder root : Path} {made : GeneratedUnit} (free : graph.CollisionFree other)
    (generated : graph.generate made.template settings = some (.ok made))
    (silent : (Manifest.entryOf graph folder made (Disk.entryOf root made)).reasons other = [])
    (agree : graph.AgreeOnLists other made.template) :
    other.generate made.template settings = some (.ok made) := by
  obtain ⟨entry, collected, found, collects, equal⟩ := generate_eq_ok generated
  obtain ⟨template, sources, absent⟩ := Manifest.reasons_entryOf_eq_nil_iff.mp silent
  rw [Manifest.fingerprintIn_eq found] at template
  obtain ⟨second, otherFound, samePackage, sameDeclaration⟩ := free.entry?_eq found template
  rw [← generated]
  apply generate_congr found otherFound samePackage sameDeclaration agree
  intro member present
  obtain ⟨extraction, extracted⟩ := extractNames_of_collect collects member present
  have holds := holds_of_collect (Collected.holds_nil graph) collects
  have used := List.mem_map_of_mem (f := EligibleMember.sourceName) present
  cases resolves : graph.lookup? member.sourceName with
  | some source =>
    obtain ⟨-, sourceEntry, sourceFound⟩ := lookup?_eq_some resolves
    have provided : member.sourceName ∈ made.provenance := by
      rw [equal]
      exact (holds.provenance _).mpr ⟨used, by rw [resolves]; rfl⟩
    have kept := sources member.sourceName provided
    rw [Manifest.fingerprintIn_eq sourceFound] at kept
    obtain ⟨sourceSecond, otherSourceFound, -, sameSource⟩ := free.entry?_eq sourceFound kept
    have answers : other.lookup? member.sourceName = graph.lookup? member.sourceName := by
      apply lookup?_congr
      rw [lookup?_isSome_iff.mpr ⟨_, otherSourceFound⟩, lookup?_isSome_iff.mpr ⟨_, sourceFound⟩]
    apply extractNames_congr (extractNames_eq_ok_iff.mp extracted).1 answers
    rw [methodNames, methodNames, membersOf_congr sourceFound otherSourceFound sameSource]
  | none =>
    have unresolved : member.sourceName ∈ made.unresolved := by
      rw [equal]
      exact holds.mem_unresolved.mpr ⟨used, resolves⟩
    have otherMissing := absent member.sourceName unresolved
    apply extractNames_congr (extractNames_eq_ok_iff.mp extracted).1
      (otherMissing.trans resolves.symm)
    rw [methodNames_of_none otherMissing, methodNames_of_none resolves]

/-- An output that is up to date for a graph is what this graph makes of its
template, as long as the graph agrees with the one of the round on which members
return lists of texts. -/
theorem Manifest.generate_of_upToDate {graph other : Graph} (free : graph.CollisionFree other)
    {settings : Settings} {root folder : Path} {disk : Disk} {ended : Processor}
    {round : RoundState Disk}
    (ends : Processor.process { settings } graph (Disk.filer root) disk = some (ended, round))
    {made : GeneratedUnit} (member : made ∈ round.report.generated)
    (upToDate : ∃ state ∈ ((ofRound graph folder round.sink.outputs round.report).status other
          settings.trigger).outputs,
      state.output = made.qualifiedName ∧ state.status = .upToDate)
    (agree : graph.AgreeOnLists other made.template) :
    other.generate made.template settings = some (.ok made) := by
  obtain ⟨turns, orderly⟩ := Processor.exists_orderly rfl ends
  obtain ⟨-, silent⟩ := (upToDate_iff folder ends member).mp upToDate
  exact Graph.generate_of_reasons_eq_nil free (orderly.generate_of_mem member) silent agree

theorem Graph.collisionFree_of_shared {graph other : Graph}
    (shared : ∀ entry ∈ graph.entries, ∀ second ∈ other.entries, entry.id = second.id →
      entry = second) : graph.CollisionFree other := by
  intro name entry second found otherFound _
  have member := mem_of_entry? found
  have otherMember := mem_of_entry? otherFound
  have id := id_of_entry? found
  have otherId := id_of_entry? otherFound
  rw [shared entry member second otherMember (id.trans otherId.symm)]

/-- The graph of a document with one package, `app`. -/
def Graph.ofApp (declarations : List Declaration)
    (distinct : ((entriesOf false [⟨"app", declarations⟩] ++
      libraryEntries ((entriesOf false [⟨"app", declarations⟩]).map Entry.id)).map
        Entry.id).Nodup) : Graph :=
  ⟨_, distinct⟩

/-- A template with a member `A` that returns a type `L`. -/
def templateOfL : Declaration where
  name := "T"
  kind := .interfaceType
  annotations := ["aptgen.annotation.Sample"]
  members := [{ name := "A", returnType := .plain "app.L" }]

/-- The source of the member. -/
def sourceOfA : Declaration := { name := "A", members := [{ name := "x" }] }

/-- A type that extends the lists of texts. -/
def textList : Declaration :=
  { name := "L", kind := .interfaceType, supertypes := [Library.listOfString] }

/-- The graph in which `L` is a list of texts. -/
def Graph.withL : Graph := ofApp [templateOfL, sourceOfA, textList] (by decide +kernel)

/-- The graph in which `L` is gone. -/
def Graph.withoutL : Graph := ofApp [templateOfL, sourceOfA] (by decide +kernel)

/-- The graph in which `L` stands elsewhere, and something else was added. -/
def Graph.withMore : Graph :=
  ofApp [textList, templateOfL, sourceOfA, { name := "B" }] (by decide +kernel)

/-- The output of `T` as long as `L` is a list of texts. -/
def outputOfL : GeneratedUnit where
  template := "app.T"
  qualifiedName := "app.T_Impl"
  text := "package app;\n\npublic final class T_Impl implements T \x7b\n" ++
    "  public app.L A() \x7b\n    return java.util.Arrays.asList(\n        \"x\"\n" ++
    "    );\n  \x7d\n\x7d\n"
  provenance := NameSet.ofList ["app.A"]
  unresolved := []

/-- Whether `A` is worked on hangs on `L` alone. -/
theorem Graph.generate_templateOfL {graph : Graph}
    (found : graph.entry? "app.T" = some ⟨"app", templateOfL, false⟩) {answer : Bool}
    (asked : graph.isAssignable (.plain "app.L") Library.listOfString = some answer) :
    graph.generate "app.T" {} = some (graph.assemble "app.T" {} ⟨"app", templateOfL, false⟩
      (if answer then [⟨"A", .plain "app.L", true, "app.A"⟩] else [])) := by
  have members : graph.membersOf "app.T" = templateOfL.members.map templateOfL.view := by
    unfold membersOf
    rw [found]
  have eligible : graph.isEligible (templateOfL.view { name := "A", returnType := .plain "app.L" }) =
      some answer := by
    unfold isEligible
    rw [if_pos (by decide)]
    show (graph.isAssignable (.plain "app.L") Library.listOfString).map _ = some answer
    rw [asked]
    exact congrArg some (Bool.and_true answer)
  have kept : graph.keepEligible (templateOfL.members.map templateOfL.view) =
      some (if answer then templateOfL.members.map templateOfL.view else []) := by
    show graph.keepEligible [_] = _
    rw [keepEligible, eligible, keepEligible]
    cases answer <;> rfl
  unfold generate abstractMembers eligibleMembers packageOf?
  rw [found, members, kept]
  cases answer <;> rfl

/-- `L` is a list of texts in both graphs that declare it. -/
theorem isAssignable_withL :
    Graph.withL.isAssignable (.plain "app.L") Library.listOfString = some true :=
  Graph.isAssignable_eq_some_iff.mpr ⟨3, by decide +kernel⟩

theorem generated_withL : ∃ ended round, Processor.process { settings := {} } Graph.withL
    (Disk.filer ⟨"out"⟩) { files := {} } = some (ended, round) ∧
      outputOfL ∈ round.report.generated := by
  have generates : Graph.withL.generate "app.T" {} = some (.ok outputOfL) := by
    rw [Graph.generate_templateOfL (by decide +kernel) isAssignable_withL]
    decide +kernel
  refine ⟨_, _, Processor.process_of_single (by decide +kernel) generates _ _, ?_⟩
  decide +kernel

theorem reasons_outputOfL {other : Graph}
    (template : other.entry? "app.T" = Graph.withL.entry? "app.T")
    (source : other.entry? "app.A" = Graph.withL.entry? "app.A") :
    (Manifest.entryOf Graph.withL ⟨"out"⟩ outputOfL (Disk.entryOf ⟨"out"⟩ outputOfL)).reasons
      other = [] := by
  rw [Manifest.reasons_entryOf_eq_nil_iff]
  have known : (Graph.withL.entry? "app.T").isSome ∧ (Graph.withL.entry? "app.A").isSome := by
    decide +kernel
  obtain ⟨entry, found⟩ := Option.isSome_iff_exists.mp known.1
  obtain ⟨second, secondFound⟩ := Option.isSome_iff_exists.mp known.2
  refine ⟨?_, ?_, fun name absent => absurd absent List.not_mem_nil⟩
  · show other.fingerprint? "app.T" = some (Manifest.fingerprintIn Graph.withL "app.T")
    rw [Manifest.fingerprintIn_eq found, Graph.fingerprint?, template, found]
    rfl
  · intro name provided
    obtain rfl : name = "app.A" := List.mem_singleton.mp (NameSet.mem_ofList.mp provided)
    rw [Manifest.fingerprintIn_eq secondFound, Graph.fingerprint?, source, secondFound]
    rfl

/-- What was generated with `L` stands as it is once something else was added. -/
theorem Manifest.generate_of_upToDate_withMore :
    Graph.withL.CollisionFree Graph.withMore ∧ Graph.withL.AgreeOnLists Graph.withMore "app.T" ∧
      (∃ ended round, Processor.process { settings := {} } Graph.withL (Disk.filer ⟨"out"⟩)
        { files := {} } = some (ended, round) ∧ outputOfL ∈ round.report.generated) ∧
      outputOfL.template ∈ Graph.withMore.annotatedWith "aptgen.annotation.Sample" ∧
      Graph.withMore.generate "app.T" {} = some (.ok outputOfL) := by
  have free : Graph.withL.CollisionFree Graph.withMore :=
    Graph.collisionFree_of_shared (by decide +kernel)
  have agree : Graph.withL.AgreeOnLists Graph.withMore "app.T" := by
    have returns : ∀ member ∈ Graph.withL.membersOf "app.T",
        member.returnType = .plain "app.L" := by
      decide +kernel
    have asked : Graph.withMore.isAssignable (.plain "app.L") Library.listOfString = some true :=
      Graph.isAssignable_eq_some_iff.mpr ⟨3, by decide +kernel⟩
    intro member present _ _
    rw [returns member present, asked, isAssignable_withL]
  have annotated : outputOfL.template ∈ Graph.withMore.annotatedWith "aptgen.annotation.Sample" := by
    decide +kernel
  have silent := reasons_outputOfL (show Graph.withMore.entry? "app.T" = _ by decide +kernel)
    (by decide +kernel)
  obtain ⟨ended, round, ends, member⟩ := generated_withL
  refine ⟨free, agree, ⟨ended, round, ends, member⟩, annotated, ?_⟩
  exact generate_of_upToDate free ends member
    ((upToDate_iff _ ends member).mpr ⟨annotated, silent⟩) agree

/-- Without the proviso on lists of texts, an output can be up to date and yet not be
what a fresh generation gives: here the type that its member returns is gone. -/
theorem Manifest.upToDate_not_sufficient :
    ¬ ∀ {graph other : Graph}, graph.CollisionFree other →
      ∀ {settings : Settings} {root folder : Path} {disk : Disk} {ended : Processor}
        {round : RoundState Disk},
      Processor.process { settings } graph (Disk.filer root) disk = some (ended, round) →
      ∀ {made : GeneratedUnit}, made ∈ round.report.generated →
      (∃ state ∈ ((ofRound graph folder round.sink.outputs round.report).status other
            settings.trigger).outputs,
        state.output = made.qualifiedName ∧ state.status = .upToDate) →
      other.generate made.template settings = some (.ok made) := by
  intro sufficient
  have free : Graph.withL.CollisionFree Graph.withoutL :=
    Graph.collisionFree_of_shared (by decide +kernel)
  have annotated : outputOfL.template ∈ Graph.withoutL.annotatedWith "aptgen.annotation.Sample" := by
    decide +kernel
  have silent := reasons_outputOfL (show Graph.withoutL.entry? "app.T" = _ by decide +kernel)
    (by decide +kernel)
  obtain ⟨ended, round, ends, member⟩ := generated_withL
  have same := sufficient free ends member
    ((upToDate_iff ⟨"out"⟩ ends member).mpr ⟨annotated, silent⟩)
  have asked : Graph.withoutL.isAssignable (.plain "app.L") Library.listOfString = some false :=
    Graph.isAssignable_eq_some_iff.mpr ⟨2, by decide +kernel⟩
  rw [show outputOfL.template = "app.T" from rfl,
    Graph.generate_templateOfL (by decide +kernel) asked] at same
  exact absurd same (by decide +kernel)

end Stencil
