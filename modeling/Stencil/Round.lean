import Stencil.Filer.Basic

/-!
# Rounds

A round goes over the templates of a graph in order.  For every template it
generates the output, names the originating elements, and hands the output to
the filer.  A template that fails is reported, and the round goes on with the
next.  Only a template whose generation has no end keeps the round from its own.
-/

namespace Stencil

/-- A template that got no output, and why. -/
structure TemplateFailure where
  template : QualifiedName
  message : String
  deriving DecidableEq, Repr

/-- What a round did. -/
structure RoundReport where
  generated : List GeneratedUnit := []
  failures : List TemplateFailure := []
  /-- Whether the round keeps its templates from other processors. -/
  claimed : Bool := false
  deriving DecidableEq

namespace RoundReport

/-- Whether every template got its output. -/
def isSuccess (report : RoundReport) : Bool := report.failures.isEmpty

def toValue (report : RoundReport) : Json.Value :=
  .object [
    ("generated", .list (report.generated.map GeneratedUnit.toValue)),
    ("failures", .list (report.failures.map fun failure =>
      .object [("template", .text failure.template), ("message", .text failure.message)])),
    ("claimed", .bool report.claimed)]

end RoundReport

/-- What a processor is doing. -/
inductive Phase where
  | idle
  | processing
  deriving DecidableEq, Repr

/-- The versions of sources that a processor can work on. -/
inductive SourceVersion where
  | latest
  deriving DecidableEq, Repr

/-- A processor of rounds. -/
structure Processor where
  settings : Settings
  phase : Phase := .idle
  deriving DecidableEq

/-- A round on its way: what it did, what it said, and the state of the filer. -/
structure RoundState (σ : Type) where
  report : RoundReport := {}
  diagnostics : List Diagnostic := []
  sink : σ

namespace RoundState

variable {σ ω : Type}

/-- Notes a template that failed. -/
def fail (state : RoundState σ) (template : QualifiedName) (error : GenerationError) :
    RoundState σ :=
  { state with
    report := { state.report with
      failures := state.report.failures ++ [⟨template, error.message⟩] }
    diagnostics := state.diagnostics ++ [⟨.error, error.message⟩] }

/-- Notes an output that was committed. -/
def commit (state : RoundState σ) (generated : GeneratedUnit) : RoundState σ :=
  { state with
    report := { state.report with generated := state.report.generated ++ [generated] } }

/-- Takes in what was made of a template. -/
def receive (settings : Settings) (graph : Graph) (filer : Filer σ ω) (state : RoundState σ)
    (template : QualifiedName) : Except GenerationError GeneratedUnit → RoundState σ
  | .error error => state.fail template error
  | .ok generated =>
    let told := { state with
      diagnostics := state.diagnostics ++
        generated.provenance.diagnostics graph settings.provenanceSeverity }
    match filer.emit generated state.sink with
    | (.ok (), sink) => { told with sink }.commit generated
    | (.error error, sink) =>
      { told with sink }.fail template (.notWritten generated.qualifiedName error)

/-- Works on one template. -/
def handle (settings : Settings) (graph : Graph) (filer : Filer σ ω) (state : RoundState σ)
    (template : QualifiedName) : Option (RoundState σ) :=
  (graph.generate template settings).map (state.receive settings graph filer template)

end RoundState

namespace Processor

variable {σ ω : Type}

/-- The annotations that a processor looks for. -/
def supportedTriggers (processor : Processor) : List QualifiedName := [processor.settings.trigger]

/-- The version of sources that a processor works on. -/
def supportedSourceVersion (_processor : Processor) : SourceVersion := .latest

/-- Runs a round. -/
def process (processor : Processor) (graph : Graph) (filer : Filer σ ω) (sink : σ) :
    Option (Processor × RoundState σ) :=
  let templates := graph.annotatedWith processor.settings.trigger
  if templates.isEmpty then
    some (processor, { sink })
  else
    (templates.foldlM (RoundState.handle processor.settings graph filer) { sink }).map
      fun final => ({ processor with phase := .idle }, final)

end Processor

end Stencil
