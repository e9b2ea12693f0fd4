import Stencil.Command.Request

/-!
# The command line

The files that a request can touch are read first; the command works on them;
what it changed is then carried over to the disk.
-/

namespace Stencil

/-- The location that a path leads to, judged by its text alone. -/
def locationOf (working : Location) (path : Path) : Location :=
  let enter (folder : Location) (name : String) : Location :=
    if name = "" || name = "." then folder
    else if name = ".." then folder.dropLast
    else folder ++ [name]
  (Text.split '/' path.text).foldl enter (if path.isAbsolute then [] else working)

/-- The text of the absolute path of a location. -/
def absoluteText (location : Location) : String := "/" ++ String.intercalate "/" location

/-- Adds what is at a location on the disk, and all that is below it. -/
partial def readTree (location : Location) (files : FileSystem) : IO FileSystem := do
  let path := (← IO.currentDir) / absoluteText location
  if ← path.isDir then
    let mut files := if location.isEmpty then files else files.put location .folder
    for entry in ← path.readDir do
      files ← readTree (location ++ [entry.fileName]) files
    return files
  else if ← path.pathExists then
    return files.put location (.file (← IO.FS.readBinFile path).toList)
  else
    return files

/-- Adds the folders on the way to a location. -/
def readAround (location : Location) (files : FileSystem) : IO FileSystem := do
  let mut files := files
  for length in List.range location.length do
    let outer := location.take length
    let path := (← IO.currentDir) / absoluteText outer
    if !outer.isEmpty && (← path.isDir) then
      files := files.put outer .folder
  return files

/-- Adds what a path leads to. -/
def readPath (path : Path) (files : FileSystem) : IO FileSystem := do
  let location := locationOf files.working path
  readTree location (← readAround location files)

/-- The files that a request can touch. -/
def readFiles (run : Invocation) : IO FileSystem := do
  let working := (← IO.currentDir).components.filter fun name => name ≠ ""
  let files ← readAround working { working }
  let files := files.put working .folder
  let files ← readPath run.graph (← readPath run.configuration files)
  match Configuration.loadOrDefault files run.configuration with
  | .ok configuration =>
    readPath (configuration.outputPath run.configuration run.overrides) files
  | .error _ => return files

/-- Carries changes over to the disk. -/
def writeChanges (before after : FileSystem) : IO Unit := do
  for (location, item) in after.entries do
    if before.itemAt? location ≠ some item then
      match item with
      | .folder => IO.FS.createDirAll (absoluteText location)
      | .file content => IO.FS.writeBinFile (absoluteText location) ⟨content.toArray⟩
  for (location, _) in before.entries do
    if after.itemAt? location = none then
      IO.FS.removeFile (absoluteText location)

end Stencil

open Stencil in
/-- Runs the command that the words of the command line name. -/
def main (words : List String) : IO UInt32 := do
  match Request.ofWords? words with
  | none =>
    IO.eprintln Request.usage
    return 2
  | some request =>
    let styled ← (← IO.getStdout).isTty
    let run := { request.invocation with styled }
    let before ← readFiles run
    let some outcome := request.verb.run run before | return 1
    writeChanges before outcome.files
    IO.print outcome.output
    match outcome.error with
    | none => return 0
    | some error =>
      let label := Console.paint styled { bold := true, color := some .red } "Error:"
      IO.eprintln (label ++ " " ++ error.message)
      return 1
