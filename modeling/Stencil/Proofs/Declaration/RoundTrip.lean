import Stencil.Graph.Load
import Stencil.Proofs.Declaration.Encoding
import Stencil.Proofs.Json.Readers
import Stencil.Proofs.Text.Utf8

/-!
# Documents are read back as they were printed

Nothing in the text of a type names the form in which it is written, so the
forms are told apart by what each of them leaves for the others: a text is a
plain type, and an object is taken for a declared type only if it has that key.
Above the types every record is read field by field.  Only the depth of a
document can therefore keep it from being read again.
-/

namespace Stencil

open Json

namespace TypeRef

mutual

/-- What is written for a type is taken for that type. -/
theorem type?_forms_toValue : ∀ type : TypeRef, (forms type.toValue).type? = some type
  | .plain _ => rfl
  | .declared name arguments => by
    have taken : (formsOfItems (toValues arguments)).mapM Forms.type? = some arguments :=
      types?_forms_toValues arguments
    simp [toValue, forms, formsOfFields, declaredOfFields?, onlyField?, taken]
  | .array element => by
    have taken := type?_forms_toValue element
    simp [toValue, forms, formsOfFields, declaredOfFields?, arrayOfFields?, onlyField?, taken]

theorem types?_forms_toValues : ∀ types : List TypeRef,
    (forms (.list (toValues types))).types? = some types
  | [] => rfl
  | type :: rest => by
    have first := type?_forms_toValue type
    have others := types?_forms_toValues rest
    simp only [toValues, forms, formsOfItems, List.mapM_cons, first] at others ⊢
    rw [others]
    rfl

end

/-- A type is read back in the form in which it was written. -/
theorem readsBack_toValue (type : TypeRef) : reader.ReadsBack type.toValue type := by
  intro levels
  unfold reader
  rw [Reader.readsBack_value type.whole_toValue levels]
  apply withinLevels_bind_ok
  rw [ofValue, type?_forms_toValue]

end TypeRef

theorem readsBack_texts (items : List String) : textsReader.ReadsBack (.texts items) items :=
  Reader.readsBack_list (Reader.readsBack_text _) items

theorem DeclarationKind.readsBack_name (kind : DeclarationKind) :
    (Reader.variant names).ReadsBack (.text kind.name) kind := by
  apply Reader.readsBack_variant
  cases kind <;> decide

theorem MemberKind.readsBack_name (kind : MemberKind) :
    (Reader.variant names).ReadsBack (.text kind.name) kind := by
  apply Reader.readsBack_variant
  cases kind <;> decide

theorem Modifier.readsBack_names (modifiers : List Modifier) :
    (Reader.list (.variant names)).ReadsBack (.texts (modifiers.map name)) modifiers := by
  have each : ∀ modifier, (Reader.variant names).ReadsBack (.text (name modifier)) modifier := by
    intro modifier
    apply Reader.readsBack_variant
    cases modifier <;> decide
  have list := Reader.readsBack_list each modifiers
  rwa [← Function.comp_def Value.text, ← List.map_map] at list

theorem Parameter.readsBack_toValue (parameter : Parameter) :
    record.reader.ReadsBack parameter.toValue parameter := by
  apply Record.readsBack_of_entries rfl
  apply Record.readsEntries_cons rfl rfl (Reader.readsBack_text _ parameter.name)
  apply Record.readsEntries_cons rfl rfl parameter.type.readsBack_toValue
  exact Record.readsEntries_nil _ parameter

theorem Member.readsBack_toValue (member : Member) :
    record.reader.ReadsBack member.toValue member := by
  apply Record.readsBack_of_entries rfl
  apply Record.readsEntries_cons rfl rfl (Reader.readsBack_text _ member.name)
  apply Record.readsEntries_cons rfl rfl member.kind.readsBack_name
  apply Record.readsEntries_cons rfl rfl
    (Reader.readsBack_list Parameter.readsBack_toValue member.parameters)
  apply Record.readsEntries_cons rfl rfl member.returnType.readsBack_toValue
  apply Record.readsEntries_cons rfl rfl (Modifier.readsBack_names member.modifiers)
  exact Record.readsEntries_nil _ member

theorem Declaration.readsBack_toValue (declaration : Declaration) :
    record.reader.ReadsBack declaration.toValue declaration := by
  apply Record.readsBack_of_entries rfl
  apply Record.readsEntries_cons rfl rfl (Reader.readsBack_text _ declaration.name)
  apply Record.readsEntries_cons rfl rfl declaration.kind.readsBack_name
  apply Record.readsEntries_cons rfl rfl (readsBack_texts declaration.annotations)
  apply Record.readsEntries_cons rfl rfl (readsBack_texts declaration.typeParameters)
  apply Record.readsEntries_cons rfl rfl
    (Reader.readsBack_list TypeRef.readsBack_toValue declaration.supertypes)
  apply Record.readsEntries_cons rfl rfl (Modifier.readsBack_names declaration.modifiers)
  apply Record.readsEntries_cons rfl rfl
    (Reader.readsBack_list Member.readsBack_toValue declaration.members)
  exact Record.readsEntries_nil _ declaration

theorem Package.readsBack_toValue (package : Package) :
    record.reader.ReadsBack package.toValue package := by
  apply Record.readsBack_of_entries rfl
  apply Record.readsEntries_cons rfl rfl (Reader.readsBack_text _ package.name)
  apply Record.readsEntries_cons rfl rfl
    (Reader.readsBack_list Declaration.readsBack_toValue package.declarations)
  exact Record.readsEntries_nil _ package

theorem Package.whole_toValue (package : Package) : package.toValue.Whole :=
  ⟨trivial, wholeItems_map Declaration.whole_toValue package.declarations, trivial⟩

namespace Document

theorem readsBack_toValue (document : Document) :
    record.reader.ReadsBack document.toValue document := by
  apply Record.readsBack_of_entries rfl
  apply Record.readsEntries_cons rfl rfl
    (Reader.readsBack_list Package.readsBack_toValue document.packages)
  exact Record.readsEntries_nil _ document

theorem whole_toValue (document : Document) : document.toValue.Whole :=
  ⟨wholeItems_map Package.whole_toValue document.packages, trivial⟩

theorem parse_print (document : Document) :
    parse document.print = withinLevels deepest document.toValue.depth document :=
  Reader.run_of_ofText (ofText_toCompact document.whole_toValue) document.readsBack_toValue

/-- A printed document is read back without change if at most 127 lists and
objects are open at once within it, and refused for its depth otherwise. -/
theorem parse_print_of_depth (document : Document) :
    (parse document.print).mapError Fault.message =
      if document.toValue.depth ≤ 127 then .ok document
      else .error "recursion limit exceeded" := by
  rw [parse_print]
  unfold withinLevels
  by_cases fits : document.toValue.depth ≤ 127
  · rw [if_pos fits]
    exact congrArg (Except.mapError Fault.message) (if_pos fits)
  · rw [if_neg fits]
    exact congrArg (Except.mapError Fault.message) (if_neg fits)

end Document

end Stencil
