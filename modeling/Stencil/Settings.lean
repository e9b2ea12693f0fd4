import Stencil.Diagnostic
import Stencil.Json.Decoder

/-!
# Settings of the generator
-/

namespace Stencil

/-- What happens when a member names a declaration that is not there. -/
inductive LookupPolicy where
  /-- The member gets an empty list. -/
  | lenient
  /-- The template fails. -/
  | strict
  deriving DecidableEq, Repr

namespace LookupPolicy

def names : List (String × LookupPolicy) := [("lenient", lenient), ("strict", strict)]

def name : LookupPolicy → String
  | lenient => "lenient"
  | strict => "strict"

def title : LookupPolicy → String
  | lenient => "Lenient"
  | strict => "Strict"

end LookupPolicy

/-- The settings of the generator. -/
structure Settings where
  /-- The qualified name of the annotation that marks templates. -/
  trigger : String := "aptgen.annotation.Sample"
  /-- What is added to a template's name to name its implementation. -/
  implSuffix : String := "_Impl"
  lookup : LookupPolicy := .lenient
  /-- Whether names are escaped in generated literals. -/
  escapeLiterals : Bool := false
  /-- The severity of the messages that name originating elements. -/
  provenanceSeverity : Severity := .mandatoryWarning
  deriving DecidableEq, Repr

namespace Settings

/-- The name of the implementation of a template. -/
def implName (settings : Settings) (templateName : String) : String :=
  templateName ++ settings.implSuffix

open Json in
def fields : List (Decoder.Field Settings) := [
  Decoder.fieldOf "annotation" Decoder.text fun trigger settings => { settings with trigger },
  Decoder.fieldOf "impl_suffix" Decoder.text fun implSuffix settings =>
    { settings with implSuffix },
  Decoder.fieldOf "lookup" (Decoder.variant LookupPolicy.names) fun lookup settings =>
    { settings with lookup },
  Decoder.fieldOf "escape_literals" Decoder.bool fun escapeLiterals settings =>
    { settings with escapeLiterals },
  Decoder.fieldOf "provenance_severity" (Decoder.variant Severity.names)
    fun provenanceSeverity settings => { settings with provenanceSeverity }]

/-- The settings that a value gives; what it leaves out keeps its default. -/
def ofValue : Json.Decoder Settings := Json.Decoder.settings "GeneratorConfig" fields {}

def toValue (settings : Settings) : Json.Value :=
  .object [
    ("annotation", .text settings.trigger),
    ("impl_suffix", .text settings.implSuffix),
    ("lookup", .text settings.lookup.name),
    ("escape_literals", .bool settings.escapeLiterals),
    ("provenance_severity", .text settings.provenanceSeverity.name)]

end Settings

end Stencil
