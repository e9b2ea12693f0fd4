import Stencil.Declaration.Json
import Stencil.Proofs.Json.Trees

/-!
# Declarations are determined by their JSON

Every record writes all its fields, and every type is written in its own form,
so declarations with the same value are equal.  No number is written, so the
values are among those that printing determines.
-/

namespace Stencil

open Json

namespace TypeRef

mutual

theorem toValue_inj : ∀ {first second : TypeRef}, first.toValue = second.toValue →
    first = second
  | .plain _, .plain _, same => by
    rw [Value.text.inj same]
  | .declared name arguments, .declared other others, same => by
    simp only [toValue, Value.object.injEq, List.cons.injEq, Prod.mk.injEq, Value.text.injEq,
      Value.list.injEq, true_and, and_true] at same
    rw [same.1, toValues_inj same.2]
  | .array element, .array other, same => by
    simp only [toValue, Value.object.injEq, List.cons.injEq, Prod.mk.injEq, true_and,
      and_true] at same
    rw [toValue_inj same]
  | .plain _, .declared _ _, same => by cases same
  | .plain _, .array _, same => by cases same
  | .declared _ _, .plain _, same => by cases same
  | .array _, .plain _, same => by cases same
  | .declared _ _, .array _, same => by simp [toValue] at same
  | .array _, .declared _ _, same => by simp [toValue] at same

theorem toValues_inj : ∀ {first second : List TypeRef}, toValues first = toValues second →
    first = second
  | [], [], _ => rfl
  | type :: rest, other :: others, same => by
    simp only [toValues, List.cons.injEq] at same
    rw [toValue_inj same.1, toValues_inj same.2]
  | [], _ :: _, same => by cases same
  | _ :: _, [], same => by cases same

end

mutual

theorem whole_toValue : ∀ type : TypeRef, type.toValue.Whole
  | .plain _ => trivial
  | .declared _ arguments => ⟨trivial, whole_toValues arguments, trivial⟩
  | .array element => ⟨whole_toValue element, trivial⟩

theorem whole_toValues : ∀ types : List TypeRef, WholeItems (toValues types)
  | [] => trivial
  | type :: rest => ⟨whole_toValue type, whole_toValues rest⟩

end

end TypeRef

theorem wholeItems_map {α : Type} {value : α → Value} (whole : ∀ item, (value item).Whole)
    (items : List α) : WholeItems (items.map value) := by
  induction items with
  | nil => trivial
  | cons item rest ih => exact ⟨whole item, ih⟩

private theorem texts_injective : Function.Injective Value.texts := by
  intro first second same
  exact List.map_injective_iff.mpr (fun _ _ equal => Value.text.inj equal) (Value.list.inj same)

theorem DeclarationKind.name_injective : Function.Injective DeclarationKind.name := by
  intro first second same
  cases first <;> cases second <;> first | rfl | exact absurd same (by decide)

theorem MemberKind.name_injective : Function.Injective MemberKind.name := by
  intro first second same
  cases first <;> cases second <;> first | rfl | exact absurd same (by decide)

theorem Modifier.name_injective : Function.Injective Modifier.name := by
  intro first second same
  cases first <;> cases second <;> first | rfl | exact absurd same (by decide)

theorem Parameter.toValue_injective : Function.Injective Parameter.toValue := by
  rintro ⟨name, type⟩ ⟨otherName, otherType⟩ same
  simp only [toValue, Value.object.injEq, List.cons.injEq, Prod.mk.injEq, Value.text.injEq,
    true_and, and_true] at same
  obtain ⟨sameName, sameType⟩ := same
  rw [sameName, TypeRef.toValue_inj sameType]

theorem Member.toValue_injective : Function.Injective Member.toValue := by
  rintro ⟨name, kind, parameters, returnType, modifiers⟩
    ⟨otherName, otherKind, otherParameters, otherReturnType, otherModifiers⟩ same
  simp only [toValue, Value.object.injEq, List.cons.injEq, Prod.mk.injEq, Value.text.injEq,
    Value.list.injEq, true_and, and_true] at same
  obtain ⟨sameName, sameKind, sameParameters, sameReturnType, sameModifiers⟩ := same
  rw [sameName, MemberKind.name_injective sameKind,
    List.map_injective_iff.mpr Parameter.toValue_injective sameParameters,
    TypeRef.toValue_inj sameReturnType,
    List.map_injective_iff.mpr Modifier.name_injective (texts_injective sameModifiers)]

namespace Declaration

/-- Declarations with the same value are equal. -/
theorem toValue_injective : Function.Injective Declaration.toValue := by
  rintro ⟨name, kind, annotations, typeParameters, supertypes, modifiers, members⟩
    ⟨otherName, otherKind, otherAnnotations, otherTypeParameters, otherSupertypes,
      otherModifiers, otherMembers⟩ same
  simp only [toValue, Value.object.injEq, List.cons.injEq, Prod.mk.injEq, Value.text.injEq,
    Value.list.injEq, true_and, and_true] at same
  obtain ⟨sameName, sameKind, sameAnnotations, sameTypeParameters, sameSupertypes,
    sameModifiers, sameMembers⟩ := same
  rw [sameName, DeclarationKind.name_injective sameKind, texts_injective sameAnnotations,
    texts_injective sameTypeParameters,
    List.map_injective_iff.mpr (fun _ _ => TypeRef.toValue_inj) sameSupertypes,
    List.map_injective_iff.mpr Modifier.name_injective (texts_injective sameModifiers),
    List.map_injective_iff.mpr Member.toValue_injective sameMembers]

private theorem whole_texts (items : List String) : (Value.texts items).Whole := by
  have whole : ∀ item : String, (Value.text item).Whole := fun _ => trivial
  exact wholeItems_map whole items

private theorem whole_parameter (parameter : Parameter) : parameter.toValue.Whole :=
  ⟨trivial, TypeRef.whole_toValue parameter.type, trivial⟩

private theorem whole_member (member : Member) : member.toValue.Whole :=
  ⟨trivial, trivial, wholeItems_map whole_parameter member.parameters,
    TypeRef.whole_toValue member.returnType, whole_texts _, trivial⟩

theorem whole_toValue (declaration : Declaration) : declaration.toValue.Whole :=
  ⟨trivial, trivial, whole_texts _, whole_texts _,
    wholeItems_map TypeRef.whole_toValue declaration.supertypes, whole_texts _,
    wholeItems_map whole_member declaration.members, trivial⟩

end Declaration

end Stencil
