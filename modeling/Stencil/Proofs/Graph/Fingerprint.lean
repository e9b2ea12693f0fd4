import Stencil.Graph.Fingerprint
import Stencil.Proofs.Declaration.Encoding
import Stencil.Proofs.Text.Utf8

/-!
# What a fingerprint stands for

The octets behind a fingerprint determine the package and the declaration.
Two declarations with the same fingerprint are therefore equal in both, as far
as the digest tells their octets apart.
-/

namespace Stencil

namespace Json

private theorem zero_not_mem_escapedChar (c : Char) : '\x00' ∉ escapedChar c := by
  unfold escapedChar
  split_ifs with _ _ _ _ _ _ _ control
  · decide
  · decide
  · decide
  · decide
  · decide
  · decide
  · decide
  · have digits : ∀ n : Fin 32, '\x00' ∉
        ['\\', 'u', '0', '0', Digest.hexDigit (n.val / 16), Digest.hexDigit (n.val % 16)] := by
      decide
    exact digits ⟨c.toNat, control⟩
  · intro member
    apply control
    rw [← List.mem_singleton.mp member]
    decide

private theorem zero_not_mem_printText (text : String) : '\x00' ∉ printText text := by
  simp [printText, zero_not_mem_escapedChar]

private theorem zero_not_mem_digits (n : Nat) : '\x00' ∉ Nat.toDigits 10 n := by
  intro member
  have digit := Nat.isDigit_of_mem_toDigits (by decide) (by decide) member
  exact absurd digit (by decide)

mutual

theorem zero_not_mem_compact : ∀ value : Value, value.Whole → '\x00' ∉ value.compact
  | .null, _ => by decide
  | .bool true, _ => by decide
  | .bool false, _ => by decide
  | .number (.natural n), _ => zero_not_mem_digits n
  | .text text, _ => zero_not_mem_printText text
  | .list [], _ => by decide
  | .list (item :: rest), whole => by
    simp [Value.compact, zero_not_mem_compact item whole.1, zero_not_mem_compactItems rest whole.2]
  | .object [], _ => by decide
  | .object ((key, value) :: rest), whole => by
    simp [Value.compact, zero_not_mem_printText, zero_not_mem_compact value whole.1,
      zero_not_mem_compactFields rest whole.2]

theorem zero_not_mem_compactItems : ∀ items : List Value, WholeItems items →
    '\x00' ∉ compactItems items
  | [], _ => by decide
  | item :: rest, whole => by
    simp [compactItems, zero_not_mem_compact item whole.1, zero_not_mem_compactItems rest whole.2]

theorem zero_not_mem_compactFields : ∀ fields : List (String × Value), WholeFields fields →
    '\x00' ∉ compactFields fields
  | [], _ => by decide
  | (key, value) :: rest, whole => by
    simp [compactFields, zero_not_mem_printText, zero_not_mem_compact value whole.1,
      zero_not_mem_compactFields rest whole.2]

end

end Json

theorem Digest.hex_injective : Function.Injective Digest.hex := by
  intro first second same
  have spelled := Digest.ofHex?_hex first
  rw [same, Digest.ofHex?_hex] at spelled
  exact (Option.some.inj spelled).symm

/-- Lists are cut alike at the last occurrence of an element. -/
private theorem append_cons_inj_of_not_mem {α : Type} {a : α}
    {first second rest other : List α}
    (absent : a ∉ rest) (otherAbsent : a ∉ other)
    (same : first ++ a :: rest = second ++ a :: other) : first = second ∧ rest = other := by
  rcases List.append_eq_append_iff.mp same with ⟨middle, rfl, equal⟩ | ⟨middle, rfl, equal⟩
  · cases middle with
    | nil => simpa using equal
    | cons b more =>
      obtain ⟨-, tail⟩ := List.cons.inj equal
      exact absurd (tail ▸ List.mem_append_right more List.mem_cons_self) absent
  · cases middle with
    | nil => simpa [eq_comm] using equal
    | cons b more =>
      obtain ⟨-, tail⟩ := List.cons.inj equal
      exact absurd (tail ▸ List.mem_append_right more List.mem_cons_self) otherAbsent

namespace Entry

private theorem zero_not_mem_declaration (declaration : Declaration) :
    0 ∉ Text.octets declaration.toValue.toCompact := by
  apply Text.zero_not_mem_octets
  simpa [Json.Value.toCompact] using
    Json.zero_not_mem_compact declaration.toValue declaration.whole_toValue

/-- The octets behind a fingerprint determine the package and the declaration. -/
theorem eq_of_preimage_eq {first second : Entry} (same : first.preimage = second.preimage) :
    first.package = second.package ∧ first.declaration = second.declaration := by
  unfold preimage at same
  simp only [List.append_assoc, List.singleton_append] at same
  obtain ⟨packages, declarations⟩ := append_cons_inj_of_not_mem
    (zero_not_mem_declaration first.declaration) (zero_not_mem_declaration second.declaration) same
  have values := Json.toCompact_injective first.declaration.whole_toValue
    second.declaration.whole_toValue (Text.octets_injective declarations)
  exact ⟨Text.octets_injective packages, Declaration.toValue_injective values⟩

theorem sha256_eq_of_fingerprint_eq {first second : Entry}
    (same : first.fingerprint = second.fingerprint) :
    Digest.sha256 first.preimage = Digest.sha256 second.preimage := by
  unfold fingerprint at same
  exact Digest.hex_injective (String.ofList_injective same)

end Entry

namespace Graph

theorem fingerprint?_of_entry? {graph : Graph} {name : QualifiedName} {entry : Entry}
    (found : graph.entry? name = some entry) :
    graph.fingerprint? name = some entry.fingerprint := by
  unfold fingerprint?
  rw [found, Option.map_some]

/-- Whether the digest tells apart the octets of any two declarations that the
graphs have under one name. -/
def CollisionFree (first second : Graph) : Prop :=
  ∀ {name entry other}, first.entry? name = some entry → second.entry? name = some other →
    Digest.sha256 entry.preimage = Digest.sha256 other.preimage →
    entry.preimage = other.preimage

theorem CollisionFree.entry?_eq {first second : Graph} (free : CollisionFree first second)
    {name : QualifiedName} {entry : Entry} (found : first.entry? name = some entry)
    (same : second.fingerprint? name = some entry.fingerprint) :
    ∃ other, second.entry? name = some other ∧ other.package = entry.package ∧
      other.declaration = entry.declaration := by
  unfold fingerprint? at same
  obtain ⟨other, otherFound, equal⟩ := Option.map_eq_some_iff.mp same
  have preimages := free found otherFound (Entry.sha256_eq_of_fingerprint_eq equal.symm)
  obtain ⟨packages, declarations⟩ := Entry.eq_of_preimage_eq preimages
  exact ⟨other, otherFound, packages.symm, declarations.symm⟩

end Graph

namespace Entry

/-- Two declarations have the same octets behind their fingerprints exactly if they are equal
and in the same package, whatever their names hold.  As far as the digest tells these octets
apart, the fingerprints of graphs therefore change with any edit. -/
theorem fingerprint_faithful (first second : Entry) :
    (first.preimage = second.preimage ↔
      first.package = second.package ∧ first.declaration = second.declaration) ∧
    ((Digest.sha256 first.preimage = Digest.sha256 second.preimage →
        first.preimage = second.preimage) →
      ∀ {graph other : Graph} {name otherName : QualifiedName},
        graph.entry? name = some first → other.entry? otherName = some second →
        (graph.fingerprint? name = other.fingerprint? otherName ↔
          first.package = second.package ∧ first.declaration = second.declaration)) := by
  have octets : first.preimage = second.preimage ↔
      first.package = second.package ∧ first.declaration = second.declaration := by
    constructor
    · exact eq_of_preimage_eq
    · rintro ⟨package, declaration⟩
      unfold preimage
      rw [package, declaration]
  refine ⟨octets, fun free graph other name otherName found otherFound => ?_⟩
  rw [Graph.fingerprint?_of_entry? found, Graph.fingerprint?_of_entry? otherFound]
  constructor
  · intro same
    exact octets.mp (free (sha256_eq_of_fingerprint_eq (Option.some.inj same)))
  · intro equal
    unfold fingerprint
    rw [octets.mpr equal]

/-- A declaration whose package ends with what looks like the rest of a preimage. -/
def forged : Entry := ⟨"p\x00\x7b\"name\":\"T\"", { name := "T" }, false⟩

/-- The declaration that it imitates. -/
def imitated : Entry := ⟨"p", { name := "T" }, false⟩

/-- The imitation has another fingerprint. -/
theorem fingerprint_faithful_forged :
    (Digest.sha256 forged.preimage = Digest.sha256 imitated.preimage →
      forged.preimage = imitated.preimage) ∧
    (Graph.mk [forged] (by decide)).fingerprint? "p\x00\x7b\"name\":\"T\".T" ≠
      (Graph.mk [imitated] (by decide)).fingerprint? "p.T" := by
  have apart : Digest.sha256 forged.preimage ≠ Digest.sha256 imitated.preimage := by
    decide +kernel
  have free : Digest.sha256 forged.preimage = Digest.sha256 imitated.preimage →
      forged.preimage = imitated.preimage := fun same => absurd same apart
  refine ⟨free, fun same => ?_⟩
  have found : Graph.entry? (Graph.mk [forged] (by decide)) "p\x00\x7b\"name\":\"T\".T" =
      some forged := by decide
  have otherFound : Graph.entry? (Graph.mk [imitated] (by decide)) "p.T" = some imitated := by
    decide
  have equal := ((fingerprint_faithful forged imitated).2 free found otherFound).mp same
  exact absurd equal.1 (by decide)

end Entry

end Stencil
