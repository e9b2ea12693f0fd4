import Stencil.Source
import Stencil.Template

/-!
# Inspecting templates

An inspection shows what a round would do with every template, without doing
it: the name of the output, and for every member that asks for an
implementation where its names would come from.
-/

namespace Stencil

/-- What the source of a member comes to. -/
inductive Resolution where
  /-- The source is there and gives a number of names. -/
  | found (names : Nat)
  /-- The source is not there; perhaps another one was meant. -/
  | missing (suggestion : Option String)
  deriving DecidableEq, Repr

namespace Resolution

/-- Whether the source is there. -/
def isFound : Resolution → Bool
  | found _ => true
  | missing _ => false

def names : Resolution → Nat
  | found names => names
  | missing _ => 0

/-- The name that was perhaps meant. -/
def suggestion? : Resolution → Option String
  | found _ => none
  | missing suggestion => suggestion

end Resolution

/-- A member that asks for an implementation. -/
structure InspectedMember where
  name : String
  returnType : String
  source : QualifiedName
  resolution : Resolution
  /-- Whether the member gets a method, because it has no body. -/
  isGenerated : Bool
  deriving DecidableEq, Repr

/-- A template with its members. -/
structure InspectedTemplate where
  template : QualifiedName
  output : QualifiedName
  members : List InspectedMember
  deriving DecidableEq, Repr

namespace Graph

/-- What the source of a member of a template comes to. -/
def resolve (graph : Graph) (template : QualifiedName) (member : EligibleMember) : Resolution :=
  match graph.extractNames template member.name member.sourceName .strict with
  | .ok extraction => .found extraction.names.length
  | .error (.unresolvedSource _ _ _ suggestion) => .missing suggestion
  | .error _ => .missing none

/-- A member of a template. -/
def inspectMember (graph : Graph) (template : QualifiedName) (member : EligibleMember) :
    InspectedMember where
  name := member.name
  returnType := member.returnType.text
  source := member.sourceName
  resolution := graph.resolve template member
  isGenerated := member.isAbstract

/-- A template. -/
def inspectTemplate (graph : Graph) (settings : Settings) (template : QualifiedName) :
    Option InspectedTemplate :=
  (graph.eligibleMembers template).map fun members =>
    { template
      output := qualify ((graph.packageOf? template).getD "")
        (settings.implName ((graph.simpleName? template).getD ""))
      members := members.map (graph.inspectMember template) }

def inspect (graph : Graph) (settings : Settings) : Option (List InspectedTemplate) :=
  (graph.annotatedWith settings.trigger).mapM (graph.inspectTemplate settings)

end Graph

open Json

/-- A member as a value. -/
def InspectedMember.toValue (member : InspectedMember) : Value :=
  .object ([
    ("name", .text member.name), ("return_type", .text member.returnType),
    ("source", .text member.source), ("resolved", .bool member.resolution.isFound)] ++
    (member.resolution.suggestion?.map fun name => ("suggestion", Value.text name)).toList ++ [
    ("generated", .bool member.isGenerated), ("names", .natural member.resolution.names)])

/-- A template as a value. -/
def InspectedTemplate.toValue (inspected : InspectedTemplate) : Value :=
  .object [
    ("template", .text inspected.template), ("output", .text inspected.output),
    ("members", .list (inspected.members.map InspectedMember.toValue))]

end Stencil
