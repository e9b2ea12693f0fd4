import Stencil.Graph.Basic

/-!
# Members as the generator sees them
-/

namespace Stencil

/-- What the generator needs to know about a member. -/
structure MemberView where
  name : String
  kind : MemberKind
  parameterCount : Nat
  returnType : TypeRef
  /-- What the return type is within the declaration's type parameters. -/
  returnKind : TypeKind
  isAbstract : Bool
  deriving DecidableEq, Repr

/-- A member of a declaration, seen by the generator. -/
def Declaration.view (declaration : Declaration) (member : Member) : MemberView where
  name := member.name
  kind := member.kind
  parameterCount := member.parameters.length
  returnType := member.returnType
  returnKind := member.returnType.kindIn declaration.typeParameters
  isAbstract := Stencil.isAbstract declaration.kind member.kind member.modifiers

/-- The members of a declaration, in order; an unknown declaration has none. -/
def Graph.membersOf (graph : Graph) (name : QualifiedName) : List MemberView :=
  match graph.entry? name with
  | some entry => entry.declaration.members.map entry.declaration.view
  | none => []

end Stencil
