import Stencil.Implementation
import Stencil.Provenance
import Stencil.Source

/-!
# Generated outputs

The output of a template is made from the graph and the settings alone.  It
carries what it was made from, and which names were not found on the way.
-/

namespace Stencil

/-- The output of a template, not yet written anywhere. -/
structure GeneratedUnit where
  template : QualifiedName
  qualifiedName : QualifiedName
  text : String
  provenance : Provenance
  /-- The sources that are not there, each once and in order of first use. -/
  unresolved : List QualifiedName
  deriving DecidableEq

def GeneratedUnit.toValue (generated : GeneratedUnit) : Json.Value :=
  .object [
    ("template", .text generated.template),
    ("qualified_name", .text generated.qualifiedName),
    ("text", .text generated.text),
    ("provenance", generated.provenance.toValue),
    ("unresolved", .texts generated.unresolved)]

/-- What is collected from the members of a template. -/
structure Collected where
  provenance : Provenance := NameSet.empty
  unresolved : List QualifiedName := []
  methods : List MethodPlan := []

/-- Adds the method of a member with the names from its source. -/
def Collected.add (collected : Collected) (member : EligibleMember) (extraction : Extraction) :
    Collected where
  provenance :=
    match extraction.source with
    | some source => collected.provenance.insert source
    | none => collected.provenance
  unresolved :=
    match extraction.source with
    | some _ => collected.unresolved
    | none =>
      if collected.unresolved.contains member.sourceName then collected.unresolved
      else collected.unresolved ++ [member.sourceName]
  methods := collected.methods ++ [⟨member, extraction.names⟩]

namespace Graph

/-- Collects from members in order; the first one whose source is refused ends
it. -/
def collect (graph : Graph) (template : QualifiedName) (policy : LookupPolicy) :
    List EligibleMember → Collected → Except GenerationError Collected
  | [], collected => .ok collected
  | member :: rest, collected =>
    match graph.extractNames template member.name member.sourceName policy with
    | .ok extraction => graph.collect template policy rest (collected.add member extraction)
    | .error error => .error error

/-- The members of a template that get a method: those without a body. -/
def abstractMembers (graph : Graph) (template : QualifiedName) : Option (List EligibleMember) :=
  (graph.eligibleMembers template).map (·.filter EligibleMember.isAbstract)

/-- Makes the output of a template with methods for some members. -/
def assemble (graph : Graph) (template : QualifiedName) (settings : Settings) (entry : Entry)
    (members : List EligibleMember) : Except GenerationError GeneratedUnit :=
  match graph.collect template settings.lookup members {} with
  | .error error => .error error
  | .ok collected =>
    let implName := settings.implName entry.declaration.name
    let plan : ImplementationPlan :=
      ⟨entry.package, entry.declaration.name, implName, collected.methods⟩
    .ok {
      template
      qualifiedName := qualify entry.package implName
      text := plan.render settings.escapeLiterals
      provenance := collected.provenance
      unresolved := collected.unresolved }

/-- Makes the output of a template.  There is none, nor an error, if the search for
one of its members has no end. -/
def generate (graph : Graph) (template : QualifiedName) (settings : Settings) :
    Option (Except GenerationError GeneratedUnit) :=
  match graph.entry? template with
  | none => some (.error (.unknownTemplate template))
  | some entry =>
    (graph.abstractMembers template).map (graph.assemble template settings entry)

end Graph

end Stencil
