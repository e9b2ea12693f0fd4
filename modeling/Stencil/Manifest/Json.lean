import Stencil.Manifest.Basic

/-!
# Manifests in JSON
-/

namespace Stencil

open Json

namespace ManifestEntry

/-- Reads a map from names; of repeated names the last one counts. -/
def mapReader {α : Type} (value : Reader α) : Reader (NameMap α) := fun levels tree =>
  (Reader.fields value levels tree).map NameMap.ofList

def record : Record ManifestEntry where
  name := "ManifestEntry"
  blank := ⟨⟨""⟩, "", "", NameMap.empty, []⟩
  fields := [
    fieldOf "path" true (.text "path string") fun path entry => { entry with path := ⟨path⟩ },
    fieldOf "template" true (.text "a string") fun template entry => { entry with template },
    fieldOf "template_fingerprint" true (.text "a string") fun templateFingerprint entry =>
      { entry with templateFingerprint },
    fieldOf "sources" true (mapReader (.text "a string")) fun sources entry =>
      { entry with sources },
    fieldOf "unresolved" false textsReader fun unresolved entry => { entry with unresolved }]

/-- An entry as a value.  Names that nothing had are left out if there are none. -/
def toValue (entry : ManifestEntry) : Value :=
  .object ([
    ("path", .text entry.path.text),
    ("template", .text entry.template),
    ("template_fingerprint", .text entry.templateFingerprint),
    ("sources", .object (entry.sources.entries.map fun (source, fingerprint) =>
      (source, .text fingerprint)))] ++
    if entry.unresolved.isEmpty then [] else [("unresolved", .texts entry.unresolved)])

end ManifestEntry

namespace Manifest

def record : Record Manifest where
  name := "Manifest"
  blank := ⟨0, NameMap.empty⟩
  fields := [
    fieldOf "version" true (.naturalBelow UInt32.size "u32") fun version manifest =>
      { manifest with version },
    fieldOf "outputs" true (ManifestEntry.mapReader ManifestEntry.record.reader)
      fun outputs manifest => { manifest with outputs }]

def toValue (manifest : Manifest) : Value :=
  .object [
    ("version", .natural manifest.version),
    ("outputs", .object (manifest.outputs.entries.map fun (name, entry) =>
      (name, entry.toValue)))]

def parse (text : String) : Except Fault Manifest := record.reader.run text

def print (manifest : Manifest) : String := manifest.toValue.toPretty

end Manifest

end Stencil
