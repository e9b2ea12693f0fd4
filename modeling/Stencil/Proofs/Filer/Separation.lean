import Stencil.Proofs.Manifest.Saving
import Stencil.Proofs.Path.Apart
import Stencil.Proofs.Path.Confinement

/-!
# Files of different outputs are apart

The source of a name lies where its pieces lead to, one folder for each piece before the
last.  As the pieces have no dots and all files have endings, no source and no temporary
file of one name is in the way of those of another name, and none is in the way of the
manifest.  This holds for the paths from the folder of all outputs, and below every folder.
-/

namespace Stencil

def writtenFiles (name : QualifiedName) : List String := [temporaryFile name, sourceFile name]

section Files

variable {name first second : QualifiedName} {file firstFile secondFile : String}

theorem leadsToFile_of_mem (member : file ∈ writtenFiles name) :
    Path.LeadsToFile (sourceFolders name ++ [file]) := by
  refine ⟨sourceFolders name, file, rfl, dotless_sourceFolders name, ?_⟩
  rcases List.mem_pair.mp member with rfl | rfl
  · exact dot_mem_temporaryFile name
  · exact dot_mem_sourceFile name

theorem leadsToFile_manifest : Path.LeadsToFile [Manifest.fileName] :=
  ⟨[], Manifest.fileName, rfl, List.forall_mem_nil _, Manifest.dot_mem_fileName⟩

theorem written_ne (different : first ≠ second) (firstMember : firstFile ∈ writtenFiles first)
    (secondMember : secondFile ∈ writtenFiles second) :
    sourceFolders first ++ [firstFile] ≠ sourceFolders second ++ [secondFile] := by
  intro same
  obtain ⟨folders, files⟩ := List.append_inj' same rfl
  have file : firstFile = secondFile := List.head_eq_of_cons_eq files
  have sources : sourceFile first ≠ sourceFile second := by
    intro equal
    apply different
    apply sourceNames_injective
    rw [sourceNames, sourceNames, folders, equal]
  rcases List.mem_pair.mp firstMember with rfl | rfl
  · rcases List.mem_pair.mp secondMember with rfl | rfl
    · exact sources ((String.append_left_inj _).mp file)
    · exact temporaryFile_ne_sourceFile first second file
  · rcases List.mem_pair.mp secondMember with rfl | rfl
    · exact temporaryFile_ne_sourceFile second first file.symm
    · exact sources file

theorem written_ne_manifest (member : file ∈ writtenFiles name) :
    sourceFolders name ++ [file] ≠ [Manifest.fileName] := by
  intro same
  have shape : sourceFolders name ++ [file] = [] ++ [Manifest.fileName] := same
  obtain ⟨-, files⟩ := List.append_inj' shape rfl
  have ending : file.toList.getLast? = some 'n' := by
    rw [List.head_eq_of_cons_eq files]
    decide
  rcases List.mem_pair.mp member with rfl | rfl
  · rw [getLast?_temporaryFile] at ending
    exact absurd ending (by decide)
  · rw [getLast?_sourceFile] at ending
    exact absurd ending (by decide)

end Files

namespace Disk

variable {folder : Path} {name first second : QualifiedName}

theorem components_pathFor (joinable : IsJoinable name) :
    (pathFor folder name).components = folder.components ++ (sourceNames name).map .name := by
  rw [pathFor_eq folder joinable]
  exact Path.components_push_ofNames (by simp [sourceNames]) joinable.names

theorem fileName?_pathFor (joinable : IsJoinable name) :
    (pathFor folder name).fileName? = some (sourceFile name) := by
  rw [pathFor_eq folder joinable]
  exact Path.fileName?_push_ofNames joinable.names

theorem components_temporaryFor (joinable : IsJoinable name) :
    (temporaryFor (pathFor folder name)).components =
      folder.components ++ (sourceFolders name ++ [temporaryFile name]).map .name := by
  have named := @fileName?_pathFor folder name joinable
  unfold temporaryFor
  rw [named, Option.getD_some]
  show (Path.withFileName _ (temporaryFile name)).components = _
  rw [Path.components_withFileName named joinable.temporary, components_pathFor joinable,
    sourceNames, List.map_append, List.map_append, List.map_singleton, ← List.append_assoc,
    List.dropLast_concat, List.append_assoc]
  rfl

/-- What is written for a name lies below the folder, in the folders of the name. -/
theorem components_of_mem_writesFor (joinable : IsJoinable name) {path : Path}
    (member : path ∈ writesFor folder name) :
    ∃ file ∈ writtenFiles name,
      path.components = folder.components ++ (sourceFolders name ++ [file]).map .name := by
  unfold writesFor at member
  rcases List.mem_pair.mp member with same | same
  · refine ⟨temporaryFile name, by simp [writtenFiles], ?_⟩
    rw [same, components_temporaryFor joinable]
  · refine ⟨sourceFile name, by simp [writtenFiles], ?_⟩
    rw [same, components_pathFor joinable]
    rfl

theorem apart_of_mem_writesFor (firstJoinable : IsJoinable first)
    (secondJoinable : IsJoinable second) (different : first ≠ second) {path other : Path}
    (member : path ∈ writesFor folder first) (others : other ∈ writesFor folder second) :
    path.Apart other := by
  obtain ⟨file, written, components⟩ := components_of_mem_writesFor firstJoinable member
  obtain ⟨otherFile, otherWritten, otherComponents⟩ :=
    components_of_mem_writesFor secondJoinable others
  exact Path.apart_of_leadsToFile components otherComponents (leadsToFile_of_mem written)
    (leadsToFile_of_mem otherWritten) (written_ne different written otherWritten)

theorem apart_manifest_of_mem_writesFor (joinable : IsJoinable name) {path : Path}
    (member : path ∈ writesFor folder name) : path.Apart (Manifest.pathIn folder) := by
  obtain ⟨file, written, components⟩ := components_of_mem_writesFor joinable member
  have manifest : (Manifest.pathIn folder).components =
      folder.components ++ [Manifest.fileName].map .name := by
    rw [Manifest.pathIn_eq]
    exact Path.components_push_ofNames (List.cons_ne_nil _ _)
      (forall_isComponentName Manifest.isPathName_fileName)
  exact Path.apart_of_leadsToFile components manifest (leadsToFile_of_mem written)
    leadsToFile_manifest (written_ne_manifest written)

theorem text_ofQualifiedName (joinable : IsJoinable name) :
    (Path.ofQualifiedName name sourceExtension).text =
      "/".intercalate (Text.split '.' name) ++ ".java" := by
  obtain ⟨last, split, file⟩ := exists_split name
  apply String.toList_injective
  rw [Path.ofQualifiedName_eq joinable, Path.toList_ofNames, String.toList_append,
    String.toList_intercalate, ← Text.join_eq_intercalate, split, sourceNames, file,
    List.map_append, List.map_append, String.append_assoc]
  simp only [List.map_singleton, String.toList_append]
  exact Text.join_append_last _ _ _ _

theorem temporaryFor_ofQualifiedName (joinable : IsJoinable name) :
    temporaryFor (Path.ofQualifiedName name sourceExtension) =
      ⟨(Path.ofQualifiedName name sourceExtension).text ++ temporarySuffix⟩ := by
  have proper : ∀ other ∈ sourceFolders name ++ [sourceFile name], IsComponentName other :=
    joinable.names
  have pieces := Path.ofNames_pieces (by simp) proper
  rw [List.map_append] at pieces
  have named := Path.fileName?_eq pieces
  have parent := Path.parent?_eq pieces
  rw [Path.isAbsolute_ofNames (by simp) proper, Path.trimEnd_names, Path.ofPieces_names] at parent
  have beside : ∀ other ∈ sourceFolders name ++ [temporaryFile name], IsComponentName other := by
    intro other member
    rcases List.mem_append.mp member with inFolders | same
    · exact joinable.folders other inFolders
    · exact List.mem_singleton.mp same ▸ joinable.temporary
  rw [Path.ofQualifiedName_eq joinable]
  unfold temporaryFor Path.withFileName sourceNames
  rw [named, parent]
  show (Path.ofNames (sourceFolders name)).push ⟨temporaryFile name⟩ = _
  rw [Path.ofNames_push beside]
  apply congrArg Path.mk
  apply String.toList_injective
  rw [String.toList_append, Path.toList_ofNames, String.toList_ofList, temporaryFile,
    List.map_append, List.map_append]
  simp only [List.map_singleton, String.toList_append]
  exact Text.join_append_last _ _ _ _

/-- The paths from the folder of all outputs: that of the source of a name, with the ending
of temporary files and without. -/
def sourcePaths (name : QualifiedName) : List Path :=
  [⟨(Path.ofQualifiedName name sourceExtension).text ++ temporarySuffix⟩,
    Path.ofQualifiedName name sourceExtension]

theorem writesFor_empty (joinable : IsJoinable name) :
    writesFor ⟨""⟩ name = sourcePaths name := by
  rw [writesFor, pathFor, Path.empty_push, temporaryFor_ofQualifiedName joinable, sourcePaths]

/-- Whether the paths of one output are out of the way of those of another one, and both
out of the way of the manifest. -/
structure KeptApart (paths others : List Path) (manifest : Path) : Prop where
  apart : ∀ path ∈ paths, ∀ other ∈ others, path.Apart other
  fromManifest : ∀ path ∈ paths ++ others, path.Apart manifest

theorem keptApart_writesFor (firstJoinable : IsJoinable first)
    (secondJoinable : IsJoinable second) (different : first ≠ second) (folder : Path) :
    KeptApart (writesFor folder first) (writesFor folder second) (Manifest.pathIn folder) where
  apart _ member _ others :=
    apart_of_mem_writesFor firstJoinable secondJoinable different member others
  fromManifest path member := by
    rcases List.mem_append.mp member with own | others
    · exact apart_manifest_of_mem_writesFor firstJoinable own
    · exact apart_manifest_of_mem_writesFor secondJoinable others

/-- Paths of different outputs never interfere.  The path of a source has the pieces of the
name between slashes, and an ending.  Neither this path nor that of the temporary file is,
or leads to a folder above, one of those for another name, and neither is in the way of the
manifest.  The same holds of what is written below any folder. -/
theorem sourcePaths_keptApart (firstJoinable : IsJoinable first)
    (secondJoinable : IsJoinable second) (different : first ≠ second) :
    (∀ name ∈ [first, second], (Path.ofQualifiedName name sourceExtension).text =
        "/".intercalate (Text.split '.' name) ++ ".java") ∧
      KeptApart (sourcePaths first) (sourcePaths second) ⟨Manifest.fileName⟩ ∧
      ∀ folder, KeptApart (writesFor folder first) (writesFor folder second)
        (Manifest.pathIn folder) := by
  have below := keptApart_writesFor firstJoinable secondJoinable different
  refine ⟨?_, ?_, below⟩
  · intro name member
    rcases List.mem_pair.mp member with rfl | rfl
    · exact text_ofQualifiedName firstJoinable
    · exact text_ofQualifiedName secondJoinable
  · have relative := below ⟨""⟩
    rw [writesFor_empty firstJoinable, writesFor_empty secondJoinable, Manifest.pathIn,
      Path.empty_push] at relative
    exact relative

/-- One name goes on where the file of the other one has its ending. -/
theorem sourcePaths_keptApart_nested :
    IsJoinable "app.App" ∧ IsJoinable "app.App.java" ∧ "app.App" ≠ "app.App.java" ∧
      KeptApart [⟨"app/App.java.tmp"⟩, ⟨"app/App.java"⟩]
        [⟨"app/App/java.java.tmp"⟩, ⟨"app/App/java.java"⟩] ⟨"aptgen-manifest.json"⟩ := by
  have short : IsJoinable "app.App" := by decide
  have long : IsJoinable "app.App.java" := by decide
  have different : "app.App" ≠ "app.App.java" := by decide
  have shortPaths : sourcePaths "app.App" = [⟨"app/App.java.tmp"⟩, ⟨"app/App.java"⟩] := by decide
  have longPaths : sourcePaths "app.App.java" =
      [⟨"app/App/java.java.tmp"⟩, ⟨"app/App/java.java"⟩] := by decide
  obtain ⟨-, apart, -⟩ := sourcePaths_keptApart short long different
  rw [shortPaths, longPaths] at apart
  exact ⟨short, long, different, apart⟩

end Disk

end Stencil
