import Stencil.Configuration.Basic
import Stencil.Toml.Decoder
import Stencil.Toml.Document

/-!
# Configurations in TOML
-/

namespace Stencil

open Toml

def Settings.tomlFields : List (Decoder.Field Settings) := [
  Decoder.fieldOf "annotation" false Decoder.text fun trigger settings =>
    { settings with trigger },
  Decoder.fieldOf "impl_suffix" false Decoder.text fun implSuffix settings =>
    { settings with implSuffix },
  Decoder.fieldOf "lookup" false (Decoder.variant LookupPolicy.names) fun lookup settings =>
    { settings with lookup },
  Decoder.fieldOf "escape_literals" false Decoder.bool fun escapeLiterals settings =>
    { settings with escapeLiterals },
  Decoder.fieldOf "provenance_severity" false (Decoder.variant Severity.names)
    fun provenanceSeverity settings => { settings with provenanceSeverity }]

namespace Configuration

def projectFields : List (Decoder.Field String) := [
  Decoder.fieldOf "name" true Decoder.text fun name _ => name]

/-- The fields of what is said about the outputs: their folder. -/
def outputFields : List (Decoder.Field String) := [
  Decoder.fieldOf "dir" false Decoder.text fun folder _ => folder]

def fields : List (Decoder.Field Configuration) := [
  Decoder.fieldOf "project" false (Decoder.record projectFields "") fun name configuration =>
    { configuration with projectName := some name },
  Decoder.fieldOf "generator" false (Decoder.record Settings.tomlFields {})
    fun settings configuration => { configuration with settings },
  Decoder.fieldOf "output" false
    (Decoder.record outputFields (outputFolder {})) fun outputFolder configuration =>
    { configuration with outputFolder }]

/-- The configuration that a text holds. -/
def parse? (text : String) : Option Configuration := do
  let entries ← Toml.parse? text
  Decoder.entries fields {} entries

def printTable (header : String) (entries : List (String × String)) : String :=
  "[" ++ header ++ "]\n" ++
    String.join (entries.map fun (key, node) => key ++ " = " ++ node ++ "\n")

def print (configuration : Configuration) : String :=
  let settings := configuration.settings
  let project :=
    match configuration.projectName with
    | some name => [printTable "project" [("name", Quoted.write name)]]
    | none => []
  let generator := printTable "generator" [
    ("annotation", Quoted.write settings.trigger),
    ("impl_suffix", Quoted.write settings.implSuffix),
    ("lookup", Quoted.write settings.lookup.name),
    ("escape_literals", if settings.escapeLiterals then "true" else "false"),
    ("provenance_severity", Quoted.write settings.provenanceSeverity.name)]
  let output := printTable "output" [("dir", Quoted.write configuration.outputFolder)]
  String.intercalate "\n" (project ++ [generator, output])

end Configuration

end Stencil
