import Stencil.Filer.Disk
import Stencil.Graph.Fingerprint
import Stencil.Round

/-!
# Manifests

A manifest records the outputs in a folder: where they are, what they were made
from, and the fingerprints that this had at the time.
-/

namespace Stencil

/-- The record of an output. -/
structure ManifestEntry where
  /-- The path of the output, seen from the folder of the outputs. -/
  path : Path
  template : QualifiedName
  templateFingerprint : String
  /-- The declarations that the output was made from, with their fingerprints. -/
  sources : NameMap String
  /-- The names that nothing had; the output is stale once something has one. -/
  unresolved : List QualifiedName
  deriving DecidableEq

/-- The record of the outputs in a folder, by their qualified names. -/
structure Manifest where
  version : Nat
  outputs : NameMap ManifestEntry
  deriving DecidableEq

namespace Manifest

/-- The version that is written and understood. -/
def currentVersion : Nat := 1

/-- The manifest without outputs. -/
def empty : Manifest := ⟨currentVersion, NameMap.empty⟩

/-- The fingerprint of a declaration; empty if there is none. -/
def fingerprintIn (graph : Graph) (name : QualifiedName) : String :=
  (graph.fingerprint? name).getD ""

/-- The record of an output that a round generated and a filer committed. -/
def entryOf (graph : Graph) (folder : Path) (generated : GeneratedUnit) (output : DiskOutput) :
    ManifestEntry where
  path := (output.path.stripBase? folder).getD output.path
  template := generated.template
  templateFingerprint := fingerprintIn graph generated.template
  sources := NameMap.ofList (output.provenance.names.map fun source =>
    (source, fingerprintIn graph source))
  unresolved := generated.unresolved

/-- Adds the record of an output, if it was committed. -/
def addGenerated (graph : Graph) (folder : Path) (committed : NameMap DiskOutput)
    (manifest : Manifest) (generated : GeneratedUnit) : Manifest :=
  match committed.get? generated.qualifiedName with
  | some output =>
    { manifest with
      outputs := manifest.outputs.insert generated.qualifiedName
        (entryOf graph folder generated output) }
  | none => manifest

/-- The record of a round. -/
def ofRound (graph : Graph) (folder : Path) (committed : NameMap DiskOutput)
    (report : RoundReport) : Manifest :=
  report.generated.foldl (addGenerated graph folder committed) empty

/-- The records of outputs that another manifest no longer has. -/
def supersededBy (manifest next : Manifest) : List ManifestEntry :=
  (manifest.outputs.entries.filter fun (name, _) => !next.outputs.contains name).map (·.2)

end Manifest

end Stencil
