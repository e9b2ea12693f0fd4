import Stencil.Manifest.Basic

/-!
# Which outputs are out of date

An output is stale as soon as its template or a declaration that it was made
from changes or disappears, or a name resolves that nothing had.
-/

namespace Stencil

/-- How an output stands to a graph. -/
inductive OutputStatus where
  | upToDate
  | stale (reasons : List String)
  /-- Its template is not there, or no template any more. -/
  | orphaned
  deriving DecidableEq, Repr

/-- An output with its status. -/
structure OutputState where
  output : QualifiedName
  template : QualifiedName
  status : OutputStatus
  deriving DecidableEq, Repr

/-- How a folder of outputs stands to a graph. -/
structure StatusReport where
  outputs : List OutputState
  /-- The templates of the graph that no output was made from. -/
  missing : List QualifiedName
  deriving DecidableEq, Repr

/-- Whether anything is not as a new round would leave it. -/
def StatusReport.needsRegeneration (report : StatusReport) : Bool :=
  !report.missing.isEmpty || report.outputs.any fun state => decide (state.status ≠ .upToDate)

namespace ManifestEntry

/-- What a source says against an output. -/
def sourceReason? (graph : Graph) (source : QualifiedName) (recorded : String) :
    Option String :=
  match graph.fingerprint? source with
  | none => some (source ++ " was removed")
  | some fingerprint => if fingerprint ≠ recorded then some (source ++ " changed") else none

/-- What speaks against an output: its template, its sources in order, and the
names that nothing had. -/
def reasons (entry : ManifestEntry) (graph : Graph) : List String :=
  (if graph.fingerprint? entry.template ≠ some entry.templateFingerprint then
    ["template " ++ entry.template ++ " changed"] else []) ++
  (entry.sources.entries.filterMap fun (source, recorded) =>
    sourceReason? graph source recorded) ++
  ((entry.unresolved.filter fun name => (graph.lookup? name).isSome).map fun name =>
    name ++ " now resolves")

def status (entry : ManifestEntry) (graph : Graph) (templates : List QualifiedName) :
    OutputStatus :=
  if !templates.contains entry.template then .orphaned
  else
    match entry.reasons graph with
    | [] => .upToDate
    | reasons => .stale reasons

end ManifestEntry

/-- How the recorded outputs stand to a graph. -/
def Manifest.status (manifest : Manifest) (graph : Graph) (trigger : QualifiedName) :
    StatusReport :=
  let templates := graph.annotatedWith trigger
  { outputs := manifest.outputs.entries.map fun (name, entry) =>
      ⟨name, entry.template, entry.status graph templates⟩
    missing := templates.filter fun template =>
      !manifest.outputs.values.any fun entry => decide (entry.template = template) }

open Json in
/-- An output with its status as a value. -/
def OutputState.toValue (state : OutputState) : Value :=
  .object ([("output", .text state.output), ("template", .text state.template)] ++
    match state.status with
    | .upToDate => [("status", .text "up_to_date")]
    | .stale reasons => [("status", .text "stale"), ("reasons", .texts reasons)]
    | .orphaned => [("status", .text "orphaned")])

open Json in
/-- A status report as a value. -/
def StatusReport.toValue (report : StatusReport) : Value :=
  .object [
    ("outputs", .list (report.outputs.map OutputState.toValue)),
    ("missing", .texts report.missing)]

end Stencil
