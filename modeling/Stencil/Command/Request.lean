import Stencil.Command.Generate
import Stencil.Command.Inspect
import Stencil.Command.Start
import Stencil.Command.Status
import Stencil.Command.Validate

/-!
# Requests on the command line

The words of a command line name a command and the document that it works on;
flags can stand anywhere between them.
-/

namespace Stencil

/-- The commands. -/
inductive Verb where
  | start
  | validate
  | generate
  | status
  | inspect
  deriving DecidableEq, Repr

/-- What a command does. -/
def Verb.run (verb : Verb) (run : Invocation) (files : FileSystem) : Option Outcome :=
  match verb with
  | start => some (Command.start run files)
  | validate => some (Command.validate run files)
  | generate => Command.generate run files
  | status => some (Command.status run files)
  | inspect => Command.inspect run files

/-- A command with what it is told. -/
structure Request where
  verb : Verb
  invocation : Invocation
  deriving DecidableEq, Repr

namespace Request

/-- Tells flags from other words. -/
def sortWords : List String → List String × Invocation → Option (List String × Invocation)
  | [], sorted => some sorted
  | word :: rest, (others, run) =>
    match word, rest with
    | "--config", file :: rest | "-c", file :: rest =>
      sortWords rest (others, { run with configuration := ⟨file⟩ })
    | "--out", folder :: rest | "-o", folder :: rest =>
      sortWords rest (others, { run with overrides.outputFolder := some folder })
    | "--strict", rest => sortWords rest (others, { run with overrides.strict := true })
    | "--escape", rest => sortWords rest (others, { run with overrides.escape := true })
    | "--json", rest => sortWords rest (others, { run with json := true })
    | word, rest =>
      if word.toList.head? = some '-' then none
      else sortWords rest (others ++ [word], run)

/-- The request that the words of a command line make. -/
def ofWords? (words : List String) : Option Request := do
  let (others, run) ← sortWords words ([], {})
  match others with
  | ["init"] => return ⟨.start, run⟩
  | ["config", "validate"] => return ⟨.validate, run⟩
  | ["generate", graph] => return ⟨.generate, { run with graph := ⟨graph⟩ }⟩
  | ["status", graph] => return ⟨.status, { run with graph := ⟨graph⟩ }⟩
  | ["inspect", graph] => return ⟨.inspect, { run with graph := ⟨graph⟩ }⟩
  | _ => none

def usage : String :=
  "Usage: aptgen [--config FILE] [--json] COMMAND\n\n" ++
    "  init                                              write a configuration\n" ++
    "  config validate                                   check the configuration\n" ++
    "  generate GRAPH [--out DIR] [--strict] [--escape]  write the implementations\n" ++
    "  status GRAPH [--out DIR]                          show what is out of date\n" ++
    "  inspect GRAPH                                     show templates and sources"

end Request

end Stencil
