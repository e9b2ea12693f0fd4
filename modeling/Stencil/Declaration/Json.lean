import Stencil.Declaration.Basic
import Stencil.Json.Printer
import Stencil.TypeRef.Json

/-!
# Declarations in JSON

Documents are read leniently about what is left out and written with every
field, in the order of the records below.
-/

namespace Stencil

open Json

namespace DeclarationKind

def names : List (String × DeclarationKind) := [
  ("class", classType), ("interface", interfaceType), ("enum", enumType),
  ("record", recordType), ("annotation", annotationType)]

def name : DeclarationKind → String
  | classType => "class"
  | interfaceType => "interface"
  | enumType => "enum"
  | recordType => "record"
  | annotationType => "annotation"

end DeclarationKind

namespace MemberKind

def names : List (String × MemberKind) := [
  ("method", method), ("field", field), ("constructor", constructor)]

def name : MemberKind → String
  | method => "method"
  | field => "field"
  | constructor => "constructor"

end MemberKind

namespace Modifier

def names : List (String × Modifier) := [
  ("public", publicAccess), ("protected", protectedAccess), ("private", privateAccess),
  ("abstract", abstract), ("static", static), ("final", final), ("default", default),
  ("synchronized", synchronized), ("native", native)]

def name : Modifier → String
  | publicAccess => "public"
  | protectedAccess => "protected"
  | privateAccess => "private"
  | abstract => "abstract"
  | static => "static"
  | final => "final"
  | default => "default"
  | synchronized => "synchronized"
  | native => "native"

end Modifier

/-- Reads a list of texts. -/
def textsReader : Reader (List String) := .list (.text "a string")

/-- A field of a record, from a reader of its value and what the value does to
the record. -/
def fieldOf {α σ : Type} (key : String) (required : Bool) (reader : Reader α)
    (put : α → σ → σ) : Json.Field σ :=
  ⟨key, required, fun levels tree => (reader levels tree).map put⟩

namespace Parameter

def record : Record Parameter where
  name := "Param"
  blank := ⟨"", .void⟩
  fields := [
    fieldOf "name" true (.text "a string") fun name parameter => { parameter with name },
    fieldOf "type" true TypeRef.reader fun type parameter => { parameter with type }]

def toValue (parameter : Parameter) : Value :=
  .object [("name", .text parameter.name), ("type", parameter.type.toValue)]

end Parameter

namespace Member

def record : Record Member where
  name := "Member"
  blank := ⟨"", .method, [], .void, []⟩
  fields := [
    fieldOf "name" true (.text "a string") fun name member => { member with name },
    fieldOf "kind" false (.variant MemberKind.names) fun kind member => { member with kind },
    fieldOf "params" false (.list Parameter.record.reader) fun parameters member =>
      { member with parameters },
    fieldOf "returnType" false TypeRef.reader fun returnType member => { member with returnType },
    fieldOf "modifiers" false (.list (.variant Modifier.names)) fun modifiers member =>
      { member with modifiers }]

def toValue (member : Member) : Value :=
  .object [
    ("name", .text member.name),
    ("kind", .text member.kind.name),
    ("params", .list (member.parameters.map Parameter.toValue)),
    ("returnType", member.returnType.toValue),
    ("modifiers", .texts (member.modifiers.map Modifier.name))]

end Member

namespace Declaration

def record : Record Declaration where
  name := "Declaration"
  blank := ⟨"", .classType, [], [], [], [], []⟩
  fields := [
    fieldOf "name" true (.text "a string") fun name declaration => { declaration with name },
    fieldOf "kind" false (.variant DeclarationKind.names) fun kind declaration =>
      { declaration with kind },
    fieldOf "annotations" false textsReader fun annotations declaration =>
      { declaration with annotations },
    fieldOf "typeParams" false textsReader fun typeParameters declaration =>
      { declaration with typeParameters },
    fieldOf "supertypes" false (.list TypeRef.reader) fun supertypes declaration =>
      { declaration with supertypes },
    fieldOf "modifiers" false (.list (.variant Modifier.names)) fun modifiers declaration =>
      { declaration with modifiers },
    fieldOf "members" false (.list Member.record.reader) fun members declaration =>
      { declaration with members }]

def toValue (declaration : Declaration) : Value :=
  .object [
    ("name", .text declaration.name),
    ("kind", .text declaration.kind.name),
    ("annotations", .texts declaration.annotations),
    ("typeParams", .texts declaration.typeParameters),
    ("supertypes", .list (declaration.supertypes.map TypeRef.toValue)),
    ("modifiers", .texts (declaration.modifiers.map Modifier.name)),
    ("members", .list (declaration.members.map Member.toValue))]

end Declaration

namespace Package

def record : Record Package where
  name := "PackageDecl"
  blank := ⟨"", []⟩
  fields := [
    fieldOf "name" false (.text "a string") fun name package => { package with name },
    fieldOf "declarations" false (.list Declaration.record.reader) fun declarations package =>
      { package with declarations }]

def toValue (package : Package) : Value :=
  .object [
    ("name", .text package.name),
    ("declarations", .list (package.declarations.map Declaration.toValue))]

end Package

namespace Document

def record : Record Document where
  name := "GraphDocument"
  blank := ⟨[]⟩
  fields := [
    fieldOf "packages" false (.list Package.record.reader) fun packages _ => ⟨packages⟩]

def toValue (document : Document) : Value :=
  .object [("packages", .list (document.packages.map Package.toValue))]

def parse (text : String) : Except Fault Document := record.reader.run text

def print (document : Document) : String := document.toValue.toCompact

end Document

end Stencil
