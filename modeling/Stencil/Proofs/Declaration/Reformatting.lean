import Stencil.Graph.Load
import Stencil.Manifest.Status
import Stencil.Proofs.Declaration.Described
import Stencil.Proofs.Json.Parsing

/-!
# Reformatted documents

Texts that spell trees which say the same, whatever stands between their tokens,
hold the same document.  Every text that holds a document spells a tree, so there
is no text that this leaves out.
-/

namespace Stencil.Document

open Json

/-- Whether two texts differ only in what stands between their tokens, in the order
of the keys in objects, and in which fields that hold their default are written. -/
def Reformatted (first second : String) : Prop :=
  ∃ tree other : Tree, tree.SpelledBy first ∧ other.SpelledBy second ∧ Alike .document tree other

theorem parse_of_spelledBy {tree : Tree} {text : String} (spelled : tree.SpelledBy text) :
    parse text = record.reader deepest tree := by
  unfold parse Reader.run
  rw [spelled.ofText_eq]
  show (record.reader deepest tree >>= fun document => .ok document) = _
  cases record.reader deepest tree <;> rfl

/-- A text that holds a document spells the tree of which the document is read. -/
theorem exists_spelledBy {text : String} {document : Document}
    (parsed : parse text = .ok document) :
    ∃ tree : Tree, tree.SpelledBy text ∧ record.reader deepest tree = .ok document := by
  obtain ⟨tree, surplus, read⟩ : ∃ tree surplus, Tree.ofText text = (tree, surplus) := ⟨_, _, rfl⟩
  rw [parse, Reader.run, read] at parsed
  obtain ⟨_, treeRead, finished⟩ := bind_eq_ok.mp parsed
  cases surplus with
  | true => cases finished
  | false =>
    cases finished
    exact ⟨tree, spelledBy_iff.mpr ⟨read, thorough_document treeRead⟩, treeRead⟩

/-- Every text that holds a document differs from itself in nothing. -/
theorem reformatted_refl {text : String} {document : Document}
    (parsed : parse text = .ok document) :
    Reformatted text text := by
  obtain ⟨tree, spelled, -⟩ := exists_spelledBy parsed
  exact ⟨tree, tree, spelled, spelled, .same ..⟩

/-- A text that holds a document is among those that spell a tree, and every other that
differs from it only in how it is formatted holds the same document, if it holds one.  All
declarations therefore have the same fingerprints in the graphs of both, and the outputs that a
manifest records have the same status. -/
theorem parse_reformatted {first : String} {document : Document}
    (parsed : parse first = .ok document) :
    Reformatted first first ∧
      ∀ {second other}, Reformatted first second → parse second = .ok other →
        other = document ∧
          ∀ {file graph}, Graph.ofText file first = .ok graph → ∀ otherFile,
            ∃ otherGraph, Graph.ofText otherFile second = .ok otherGraph ∧
              (∀ name, otherGraph.fingerprint? name = graph.fingerprint? name) ∧
              ∀ (manifest : Manifest) (trigger : QualifiedName),
                manifest.status otherGraph trigger = manifest.status graph trigger := by
  refine ⟨reformatted_refl parsed, ?_⟩
  rintro second other ⟨tree, otherTree, spelled, otherSpelled, alike⟩ otherParsed
  have same : other = document := by
    rw [parse_of_spelledBy spelled] at parsed
    rw [parse_of_spelledBy otherSpelled] at otherParsed
    exact (respects_document alike parsed otherParsed).symm
  refine ⟨same, ?_⟩
  intro file graph loaded otherFile
  refine ⟨graph, ?_, fun _ => rfl, fun _ _ => rfl⟩
  unfold Graph.ofText at loaded ⊢
  rw [parsed] at loaded
  rw [otherParsed, same]
  cases built : Graph.ofDocument document with
  | error name => simp [built] at loaded
  | ok other => simpa [built] using loaded

/-- A type with its empty arguments left out, and with them. -/
def bareType : Value := .object [("declared", .text "B")]
def fullType : Value := .object [("args", .list []), ("declared", .text "B")]

/-- A declaration that leaves out its kind, and one that gives it and has its keys
in another order. -/
def bareDeclaration : Value :=
  .object [("name", .text "A"), ("supertypes", .list [bareType])]
def fullDeclaration : Value :=
  .object [("supertypes", .list [fullType]), ("kind", .text "class"), ("name", .text "A")]

/-- A document whose package leaves out its empty name, and one that gives it. -/
def bareDocument : Value :=
  .object [("packages", .list [.object [("declarations", .list [bareDeclaration])]])]
def fullDocument : Value :=
  .object [("packages", .list [.object [("name", .text ""),
    ("declarations", .list [fullDeclaration])]])]

private theorem Alike.singleton {role : Role} {tree other : Tree}
    (alike : Alike (role.item 0) tree other) :
    Alike role (.list [tree] .closed) (.list [other] .closed) := by
  refine Alike.items [(tree, other)] ?_
  intro index pair found
  cases index with
  | zero =>
    cases found
    exact alike
  | succ index => simp at found

private theorem alike_type : Alike .type bareType.tree fullType.tree := by
  have omits : Role.type.Omits [Quoted.ofText "declared"]
      [(Quoted.ofText "args", (Value.list []).tree)] := by
    refine .single (List.mem_of_getElem? (show Role.type.slots[1]? = _ from rfl)) rfl
      (Quoted.read_ofText "args") ?_ (by simp)
    trivial
  refine .object [(Quoted.ofText "declared", (Value.text "B").tree, (Value.text "B").tree)] []
    [(Quoted.ofText "args", (Value.list []).tree)] (.refl _) (.swap ..) ?_ (.nil ..) omits
  exact List.forall_mem_singleton.mpr (.same ..)

private theorem alike_declaration :
    Alike .declaration bareDeclaration.tree fullDeclaration.tree := by
  have omits : Role.declaration.Omits [Quoted.ofText "name", Quoted.ofText "supertypes"]
      [(Quoted.ofText "kind", (Value.text "class").tree)] := by
    refine .single (List.mem_of_getElem? (show Role.declaration.slots[1]? = _ from rfl)) rfl
      (Quoted.read_ofText "kind") ?_ (by simp)
    exact Quoted.read_ofText "class"
  have supertypes : Role.declaration.under (Quoted.ofText "supertypes") = .listOf .type :=
    Role.under_of_read (Quoted.read_ofText "supertypes")
  refine .object [(Quoted.ofText "name", (Value.text "A").tree, (Value.text "A").tree),
    (Quoted.ofText "supertypes", (Value.list [bareType]).tree, (Value.list [fullType]).tree)] []
    [(Quoted.ofText "kind", (Value.text "class").tree)] (.refl _)
    (List.perm_append_singleton _ [_, _]) ?_ (.nil ..) omits
  refine List.forall_mem_cons.mpr ⟨.same .., List.forall_mem_singleton.mpr ?_⟩
  exact supertypes ▸ Alike.singleton alike_type

private theorem alike_document : Alike .document bareDocument.tree fullDocument.tree := by
  have omits : Role.package.Omits [Quoted.ofText "declarations"]
      [(Quoted.ofText "name", (Value.text "").tree)] := by
    refine .single (List.mem_of_getElem? (show Role.package.slots[0]? = _ from rfl)) rfl
      (Quoted.read_ofText "name") ?_ (by simp)
    exact Quoted.read_ofText ""
  have declarations : Role.package.under (Quoted.ofText "declarations") = .listOf .declaration :=
    Role.under_of_read (Quoted.read_ofText "declarations")
  have packages : Role.document.under (Quoted.ofText "packages") = .listOf .package :=
    Role.under_of_read (Quoted.read_ofText "packages")
  have package : Alike .package (Value.object [("declarations", .list [bareDeclaration])]).tree
      (Value.object [("name", .text ""), ("declarations", .list [fullDeclaration])]).tree := by
    refine .object [(Quoted.ofText "declarations", (Value.list [bareDeclaration]).tree,
      (Value.list [fullDeclaration]).tree)] [] [(Quoted.ofText "name", (Value.text "").tree)]
      (.refl _) (.swap ..) ?_ (.nil ..) omits
    exact List.forall_mem_singleton.mpr (declarations ▸ Alike.singleton alike_declaration)
  refine .object [(Quoted.ofText "packages", _, _)] [] [] (.refl _) (.refl _) ?_ (.nil ..) (.nil ..)
  exact List.forall_mem_singleton.mpr (packages ▸ Alike.singleton package)

private theorem ok_of_toOption {α : Type} {result : Except Fault α} {value : α}
    (some : result.toOption = some value) : result = .ok value := by
  cases result with
  | error fault => cases some
  | ok other => exact congrArg Except.ok (Option.some.inj some)

/-- The compact text of one document and the indented text of the other, which has
keys in another order and gives three defaults. -/
theorem parse_reformatted_bare :
    Reformatted bareDocument.toCompact fullDocument.toPretty ∧
      ∃ graph otherGraph, Graph.ofText "bare.json" bareDocument.toCompact = .ok graph ∧
        Graph.ofText "full.json" fullDocument.toPretty = .ok otherGraph ∧
        (graph.entry? "A").isSome = true ∧
        otherGraph.fingerprint? "A" = graph.fingerprint? "A" := by
  have bareSpelled : bareDocument.tree.SpelledBy bareDocument.toCompact :=
    spelledBy_toCompact (by simp [bareDocument, bareDeclaration, bareType, Value.Whole,
      WholeItems, WholeFields])
  have fullSpelled : fullDocument.tree.SpelledBy fullDocument.toPretty :=
    spelledBy_toPretty (by simp [fullDocument, fullDeclaration, fullType, Value.Whole,
      WholeItems, WholeFields])
  have reformatted : Reformatted bareDocument.toCompact fullDocument.toPretty :=
    ⟨_, _, bareSpelled, fullSpelled, alike_document⟩
  let document : Document := ⟨[{ declarations := [
    { name := "A", supertypes := [.declared "B" []] }] }]⟩
  have bareParsed : parse bareDocument.toCompact = .ok document := by
    rw [parse_of_spelledBy bareSpelled]
    exact ok_of_toOption (by decide +kernel)
  have fullParsed : parse fullDocument.toPretty = .ok document := by
    rw [parse_of_spelledBy fullSpelled]
    exact ok_of_toOption (by decide +kernel)
  have present : ((Graph.ofDocument document).toOption.bind fun graph =>
      graph.entry? "A").isSome = true := by
    decide +kernel
  cases built : Graph.ofDocument document with
  | error name => simp [built, Except.toOption] at present
  | ok graph =>
    have loaded : Graph.ofText "bare.json" bareDocument.toCompact = .ok graph := by
      rw [Graph.ofText, bareParsed]
      simp [built]
    obtain ⟨-, follows⟩ := (parse_reformatted bareParsed).2 reformatted fullParsed
    obtain ⟨otherGraph, otherLoaded, fingerprints, -⟩ := follows loaded "full.json"
    refine ⟨reformatted, graph, otherGraph, loaded, otherLoaded, ?_, fingerprints "A"⟩
    simpa [built, Except.toOption] using present

end Stencil.Document
