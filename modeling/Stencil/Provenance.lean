import Stencil.Diagnostic
import Stencil.Graph.Basic
import Stencil.Json.Decoder
import Stencil.Names.Set

/-!
# Provenance

The provenance of an output is the set of declarations whose names appear in
it.  The host uses it to tell when the output is out of date.
-/

namespace Stencil

/-- The declarations that an output was made from. -/
abbrev Provenance := NameSet

namespace Provenance

def ofValue : Json.Decoder Provenance := fun value =>
  (Json.Decoder.list Json.Decoder.text value).map NameSet.ofList

def toValue (provenance : Provenance) : Json.Value := .texts provenance.names

/-- One message for every declaration of a provenance, naming it by its simple
name. -/
def diagnostics (graph : Graph) (severity : Severity) (provenance : Provenance) :
    List Diagnostic :=
  provenance.names.map fun name =>
    ⟨severity, "originating element: " ++ (graph.simpleName? name).getD name⟩

end Provenance

end Stencil
