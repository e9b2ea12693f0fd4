import Stencil.Command.Basic
import Stencil.Console.Message
import Stencil.Manifest.Status

/-!
# Showing which outputs are out of date
-/

namespace Stencil.Command

open Console

def stateLines (styled : Bool) (state : OutputState) : List String :=
  match state.status with
  | .upToDate => ["  " ++ colored styled .green "up to date" ++ " " ++ state.output]
  | .stale reasons =>
    ("  " ++ paint styled { bold := true, color := some .yellow } "stale" ++ " " ++
      state.output) ::
      reasons.map fun reason => info styled (bullet ++ " " ++ reason)
  | .orphaned =>
    ["  " ++ colored styled .red "orphaned" ++ " " ++ state.output ++ " (template " ++
      state.template ++ " is gone)"]

def statusLines (styled : Bool) (folder : Path) (report : StatusReport) : List String :=
  step styled ("Outputs in " ++ folder.text) ::
    if report.outputs.isEmpty && report.missing.isEmpty then
      [info styled "nothing generated and no annotated templates"]
    else
      report.outputs.flatMap (stateLines styled) ++
        (report.missing.map fun template =>
          "  " ++ colored styled .yellow "not generated" ++ " " ++ template) ++
        ["",
          if report.needsRegeneration then
            warning styled ("Run " ++ colored styled .cyan "aptgen generate" ++ " to regenerate")
          else success styled "Everything is up to date"]

def status (run : Invocation) (files : FileSystem) : Outcome :=
  match Configuration.loadOrDefault files run.configuration with
  | .error error => .failed (.configuration error) files
  | .ok configuration =>
    let folder := configuration.outputPath run.configuration run.overrides
    match Graph.load files run.graph with
    | .error error => .failed (.graph run.graph error) files
    | .ok graph =>
      match Manifest.load files folder with
      | .error error => .failed (.manifest error) files
      | .ok manifest =>
        let report := (manifest.getD Manifest.empty).status graph
          (configuration.settingsFor run.overrides).trigger
        { lines :=
            if run.json then [report.toValue.toPretty] else statusLines run.styled folder report
          files }

end Stencil.Command
