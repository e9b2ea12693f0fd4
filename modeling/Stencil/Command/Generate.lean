import Stencil.Command.Basic
import Stencil.Console.Message

/-!
# Generating outputs
-/

namespace Stencil.Command

open Console

def plural (count : Nat) : String := if count = 1 then "" else "s"

def generatedLine (styled : Bool) (generated : GeneratedUnit) : String :=
  let sources := generated.provenance.names.length
  success styled (strong styled generated.qualifiedName ++ " (" ++ toString sources ++
    " source" ++ plural sources ++ ")")

/-- What is printed about a run that reached its end. -/
def regenerationLines (styled : Bool) (folder : Path) (regeneration : Regeneration) :
    List String :=
  let report := regeneration.report
  if report.generated.isEmpty && report.failures.isEmpty then
    [warning styled "No annotated templates found."]
  else
    let diagnostics :=
      if regeneration.diagnostics.isEmpty then []
      else
        heading styled "Diagnostics" ++ regeneration.diagnostics.map (diagnostic styled) ++ [""]
    diagnostics ++ report.generated.map (generatedLine styled) ++
      (report.failures.map fun failed =>
        failure styled (failed.template ++ ": " ++ failed.message)) ++
      (regeneration.removed.map fun file => info styled ("removed " ++ file.text)) ++
      ["", "  Output: " ++ strong styled folder.text]

open Json in
/-- What a run did, as a value. -/
def regenerationValue (folder : Path) (regeneration : Regeneration) : Value :=
  .object [
    ("output_dir", .text folder.text),
    ("report", regeneration.report.toValue),
    ("diagnostics", .list (regeneration.diagnostics.map Diagnostic.toValue)),
    ("removed", .texts (regeneration.removed.map Path.text))]

/-- The outcome of a run. -/
def regenerationOutcome (run : Invocation) (folder : Path) (regeneration : Regeneration) :
    Outcome :=
  let kept :=
    if run.json then []
    else regeneration.kept.map fun path =>
      warning run.styled ("Not removing " ++ path.text ++ ": outside the output directory")
  match regeneration.error with
  | some (.notRemoved file error) =>
    { lines := kept, error := some (.notRemoved file error), files := regeneration.files }
  | some (.notSaved error) =>
    { lines := kept, error := some (.manifest error), files := regeneration.files }
  | none =>
    let report :=
      if run.json then [(regenerationValue folder regeneration).toPretty]
      else regenerationLines run.styled folder regeneration
    let failures := regeneration.report.failures.length
    { lines := kept ++ report
      error := if failures = 0 then none else some (.failedTemplates failures)
      files := regeneration.files }

/-- Generates the outputs of a graph. -/
def generateGraph (run : Invocation) (settings : Settings) (folder : Path) (graph : Graph)
    (files : FileSystem) : Option Outcome :=
  let counted :=
    if run.json then []
    else [info run.styled (toString graph.documentDeclarations.length ++ " declarations")]
  Option.map (Outcome.after counted) <|
    match Manifest.load files folder with
    | .error error => some (.failed (.manifest error) files)
    | .ok previous =>
      (regenerate settings graph folder (previous.getD Manifest.empty) files).map
        (regenerationOutcome run folder)

/-- Generates the outputs of a document.  There is no outcome if the round has no
end. -/
def generate (run : Invocation) (files : FileSystem) : Option Outcome :=
  match Configuration.loadOrDefault files run.configuration with
  | .error error => some (.failed (.configuration error) files)
  | .ok configuration =>
    let loading :=
      if run.json then []
      else [step run.styled ("Loading declarations from " ++ run.graph.text)]
    Option.map (Outcome.after loading) <|
      match Graph.load files run.graph with
      | .error error => some (.failed (.graph run.graph error) files)
      | .ok graph =>
        generateGraph run (configuration.settingsFor run.overrides)
          (configuration.outputPath run.configuration run.overrides) graph files

end Stencil.Command
