import Stencil.Graph.Assignable
import Stencil.Graph.Members

/-!
# Members that templates ask to implement

A method without parameters whose result can be used as a list of texts asks
for an implementation.  The names in its list come from the declaration that
has the member's name in the template's package.

To tell whether a result can be used as a list of texts takes a search through
its supertypes.  Where this has no end, there is no answer for the member, and
none for its template.
-/

namespace Stencil

/-- A member that asks for an implementation. -/
structure EligibleMember where
  name : String
  returnType : TypeRef
  /-- Whether the member has no body of its own. -/
  isAbstract : Bool
  /-- The declaration that its list is made from. -/
  sourceName : QualifiedName
  deriving DecidableEq, Repr

namespace Graph

/-- Whether a member asks for an implementation. -/
def isEligible (graph : Graph) (member : MemberView) : Option Bool :=
  if member.kind = .method ∧ member.parameterCount = 0 then
    (graph.isAssignable member.returnType Library.listOfString).map fun assignable =>
      assignable && decide (member.returnKind = .declared)
  else
    some false

/-- The members that ask for an implementation, in order. -/
def keepEligible (graph : Graph) : List MemberView → Option (List MemberView)
  | [] => some []
  | member :: rest => do
    let eligible ← graph.isEligible member
    let kept ← graph.keepEligible rest
    return if eligible then member :: kept else kept

/-- The members of a template that ask for an implementation, in order.  Members
with a body are among them. -/
def eligibleMembers (graph : Graph) (template : QualifiedName) : Option (List EligibleMember) :=
  let package := (graph.packageOf? template).getD ""
  (graph.keepEligible (graph.membersOf template)).map fun members =>
    members.map fun member =>
      { name := member.name
        returnType := member.returnType
        isAbstract := member.isAbstract
        sourceName := qualify package member.name }

end Graph

end Stencil
