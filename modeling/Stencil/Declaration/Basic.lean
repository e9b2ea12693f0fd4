import Stencil.TypeRef.Basic

/-!
# Declarations

A document holds packages, a package holds declarations, and a declaration has
members.  All lists keep the order of the document.
-/

namespace Stencil

/-- The kinds of declarations. -/
inductive DeclarationKind where
  | classType
  | interfaceType
  | enumType
  | recordType
  | annotationType
  deriving DecidableEq, Repr

/-- The kinds of members. -/
inductive MemberKind where
  | method
  | field
  | constructor
  deriving DecidableEq, Repr

/-- The modifiers of declarations and members. -/
inductive Modifier where
  | publicAccess
  | protectedAccess
  | privateAccess
  | abstract
  | static
  | final
  | default
  | synchronized
  | native
  deriving DecidableEq, Repr

/-- A parameter of a member. -/
structure Parameter where
  name : String
  type : TypeRef
  deriving DecidableEq, Repr

/-- A member of a declaration. -/
structure Member where
  name : String
  kind : MemberKind := .method
  parameters : List Parameter := []
  /-- What a method returns, or the type of a field. -/
  returnType : TypeRef := .void
  modifiers : List Modifier := []
  deriving DecidableEq, Repr

/-- A declared type. -/
structure Declaration where
  name : String
  kind : DeclarationKind := .classType
  /-- The qualified names of the annotations that it carries. -/
  annotations : List String := []
  typeParameters : List String := []
  /-- The types that it directly extends or implements. -/
  supertypes : List TypeRef := []
  modifiers : List Modifier := []
  members : List Member := []
  deriving DecidableEq, Repr

/-- A package with its declarations; the default package has the empty name. -/
structure Package where
  name : String := ""
  declarations : List Declaration := []
  deriving DecidableEq, Repr

/-- Everything that is handed over to be worked on. -/
structure Document where
  packages : List Package := []
  deriving DecidableEq, Repr

namespace Declaration

/-- Whether a declaration carries the annotation with a qualified name. -/
def hasAnnotation (declaration : Declaration) (marker : String) : Bool :=
  declaration.annotations.contains marker

end Declaration

/-- Whether a member of a declaration of some kind has no body.  Only methods
can lack one; methods of interfaces do unless a modifier gives them one. -/
def isAbstract (kind : DeclarationKind) (memberKind : MemberKind) (modifiers : List Modifier) :
    Bool :=
  memberKind = .method &&
    (modifiers.contains .abstract ||
      (kind = .interfaceType &&
        !(modifiers.contains .default || modifiers.contains .static ||
          modifiers.contains .privateAccess)))

end Stencil
