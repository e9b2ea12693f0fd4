import Stencil.GenerationError
import Stencil.Graph.Members
import Stencil.Settings
import Stencil.Suggestion

/-!
# Names taken from sources

The list of a member holds the names of the methods that its source declares.
-/

namespace Stencil

/-- The names taken from a source. -/
structure Extraction where
  /-- The declaration that the names come from, if there is one. -/
  source : Option QualifiedName
  names : List String
  deriving DecidableEq, Repr

namespace Graph

/-- How far a suggested name may be from the name asked for. -/
def suggestionLimit : Nat := 3

/-- The simple names of the declarations of a package. -/
def simpleNamesIn (graph : Graph) (package : String) : List String :=
  (graph.declarationsIn package).filterMap graph.simpleName?

/-- The name in the same package that is nearest to a name that nothing has. -/
def nearestName? (graph : Graph) (name : QualifiedName) : Option String :=
  let (package, simpleName) := splitQualified name
  (suggestSimilar simpleName (graph.simpleNamesIn package) suggestionLimit).head?.map
    Suggestion.candidate

/-- The names of the methods of a declaration, in order and with repetitions. -/
def methodNames (graph : Graph) (name : QualifiedName) : List String :=
  ((graph.membersOf name).filter fun member => decide (member.kind = .method)).map
    MemberView.name

/-- The names that the source of a template's member gives.  A source that is not
there gives none, unless the policy is strict. -/
def extractNames (graph : Graph) (template : QualifiedName) (member : String)
    (sourceName : QualifiedName) (policy : LookupPolicy) :
    Except GenerationError Extraction :=
  match graph.lookup? sourceName with
  | some source => .ok ⟨some source, graph.methodNames source⟩
  | none =>
    match policy with
    | .lenient => .ok ⟨none, []⟩
    | .strict =>
      .error (.unresolvedSource template member sourceName (graph.nearestName? sourceName))

end Graph

end Stencil
