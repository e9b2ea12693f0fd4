import Stencil.Command.Basic
import Stencil.Console.Message
import Stencil.Inspection

/-!
# Showing templates
-/

namespace Stencil.Command

open Console

def sourceText (styled : Bool) (member : InspectedMember) : String :=
  if !member.isGenerated then faint styled "skipped (has a body)"
  else
    match member.resolution with
    | .found names =>
      origin ++ " " ++ member.source ++ " (" ++ toString names ++ " method" ++
        (if names = 1 then "" else "s") ++ ")"
    | .missing suggestion =>
      let hint :=
        match suggestion with
        | some name => "(unresolved, did you mean " ++ name ++ "?)"
        | none => "(unresolved)"
      origin ++ " " ++ member.source ++ " " ++ colored styled .yellow hint

def templateLines (styled : Bool) (inspected : InspectedTemplate) : List String :=
  let members :=
    if inspected.members.isEmpty then [info styled "no eligible members"]
    else inspected.members.map fun member =>
      "    " ++ member.name ++ "() " ++ sourceText styled member
  step styled (strong styled inspected.template ++ " " ++ arrow ++ " " ++ inspected.output) ::
    members

def inspectLines (styled : Bool) (trigger : QualifiedName)
    (templates : List InspectedTemplate) : List String :=
  if templates.isEmpty then
    [warning styled ("No declarations annotated with @" ++ trigger)]
  else templates.flatMap (templateLines styled)

open Json in
/-- Shows the templates of a document.  There is no outcome if a search for their
members has no end. -/
def inspect (run : Invocation) (files : FileSystem) : Option Outcome :=
  match Configuration.loadOrDefault files run.configuration with
  | .error error => some (.failed (.configuration error) files)
  | .ok configuration =>
    match Graph.load files run.graph with
    | .error error => some (.failed (.graph run.graph error) files)
    | .ok graph =>
      let settings := configuration.settingsFor {}
      (graph.inspect settings).map fun templates =>
        { lines :=
            if run.json then
              [(Value.list (templates.map InspectedTemplate.toValue)).toPretty]
            else inspectLines run.styled settings.trigger templates
          files }

end Stencil.Command
