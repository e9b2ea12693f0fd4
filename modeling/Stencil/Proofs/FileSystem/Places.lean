import Stencil.Proofs.FileSystem.Tidiness
import Stencil.Proofs.Path.Confinement

/-!
# The places that paths name

A path names a place by its moves alone, whether anything is there or not.  An
operation on a path changes files at the place of the path and nowhere else, whatever
the file system looks like; and if it succeeds, it is known what is at this place.
-/

namespace Stencil

namespace FileSystem

def advance (location : Location) (move : String) : Location :=
  if move = ".." then location.dropLast else location ++ [move]

def walk (start : Location) (moves : List String) : Location := moves.foldl advance start

/-- The place that a path names. -/
def placeOf (fs : FileSystem) (path : Path) : Location := walk (fs.startOf path) path.moves

theorem walk_append (start : Location) (first second : List String) :
    walk start (first ++ second) = walk (walk start first) second := List.foldl_append

theorem walk_names {names : List String} (onward : ".." ∉ names) (start : Location) :
    walk start names = start ++ names := by
  induction names generalizing start with
  | nil => exact (List.append_nil start).symm
  | cons name rest ih =>
    rw [List.mem_cons, not_or] at onward
    show walk (advance start name) rest = _
    rw [ih onward.2, advance, if_neg (Ne.symm onward.1), List.append_assoc]
    rfl

variable {fs before middle after : FileSystem} {path folder : Path} {names : List String}

theorem placeOf_congr (working : after.working = before.working) (path : Path) :
    after.placeOf path = before.placeOf path := by
  unfold placeOf startOf
  rw [working]

theorem Keeps.placeOf (keeps : Keeps before after) (path : Path) :
    after.placeOf path = before.placeOf path := placeOf_congr keeps.working path

theorem placeOf_eq {other : Path} (absolute : path.isAbsolute = other.isAbsolute)
    (moves : path.moves = other.moves) : fs.placeOf path = fs.placeOf other := by
  unfold placeOf startOf
  rw [absolute, moves]

theorem placeOf_of_descends (descends : path.Descends folder names) :
    fs.placeOf path = fs.placeOf folder ++ names := by
  have onward : ".." ∉ names := fun member => (descends.proper _ member).2.2 rfl
  unfold placeOf startOf
  rw [descends.absolute, descends.moves, walk_append, walk_names onward]

theorem enterAll_eq_walk {start inner : Location} {steps : List String}
    (entered : fs.enterAll start steps = .ok inner) :
    inner = walk start (steps.filter (· ≠ ".")) := by
  induction steps generalizing start with
  | nil =>
    cases entered
    rfl
  | cons step rest ih =>
    obtain ⟨next, first, later⟩ := enterAll_cons_eq_ok_iff.mp entered
    cases first with
    | here =>
      rw [List.filter_cons_of_neg (by simp)]
      exact ih later
    | above =>
      rw [List.filter_cons_of_pos (by simp)]
      show inner = walk (advance start "..") _
      rw [advance, if_pos rfl]
      exact ih later
    | into plain short there =>
      rw [List.filter_cons_of_pos (by simpa using plain.1)]
      show inner = walk (advance start step) _
      rw [advance, if_neg plain.2]
      exact ih later

theorem spotIn_eq_entry {inner location : Location} {last name : String} {ends slash : Bool}
    (spot : spotIn inner last ends = .entry location name slash) :
    (last ≠ "." ∧ last ≠ "..") ∧ inner = location ∧ last = name ∧ ends = slash := by
  unfold spotIn at spot
  by_cases dot : last = "."
  · rw [if_pos dot] at spot
    cases spot
  · rw [if_neg dot] at spot
    by_cases dots : last = ".."
    · rw [if_pos dots] at spot
      cases spot
    · rw [if_neg dots] at spot
      cases spot
      exact ⟨⟨dot, dots⟩, rfl, rfl, rfl⟩

/-- A path that leads to a name in a folder ends with this name, and the place that it
names is there. -/
theorem exists_of_follow {name : String} {location : Location} {slash : Bool}
    (follows : fs.follow path = .ok (.entry location name slash)) :
    fs.placeOf path = location ++ [name] ∧ (∃ front, path.moves = front ++ [name]) ∧
      slash = ((Text.split '/' path.text).getLast? == some "") := by
  have start : (if path.isAbsolute then [] else fs.working) = fs.startOf path := rfl
  unfold follow at follows
  dsimp only at follows
  rw [start] at follows
  split_ifs at follows
  cases found : ((Text.split '/' path.text).filter (· ≠ "")).getLast? with
  | none =>
    rw [found] at follows
    cases follows
  | some last =>
    obtain ⟨front, steps⟩ := List.getLast?_eq_some_iff.mp found
    rw [found, steps, List.dropLast_concat] at follows
    replace steps : path.steps = front ++ [last] := steps
    dsimp only at follows
    split at follows
    · rename_i inner entered
      obtain ⟨⟨dot, dots⟩, rfl, rfl, rfl⟩ := spotIn_eq_entry (Except.ok.inj follows)
      have moves : path.moves = front.filter (· ≠ ".") ++ [last] := by
        rw [Path.moves_eq_steps, steps, List.filter_append,
          List.filter_cons_of_pos (by simpa using dot), List.filter_nil]
      refine ⟨?_, ⟨_, moves⟩, rfl⟩
      unfold placeOf
      rw [moves, walk_append, walk_names (by simpa using Ne.symm dots),
        ← enterAll_eq_walk entered]
    · cases follows

/-- No folder is missing afterwards, and no file is another one than before, except at
some places. -/
structure ChangesOnly (places : List Location) (before after : FileSystem) : Prop where
  keeps : Keeps before after
  files : ∀ location, location ∉ places → after.fileAt? location = before.fileAt? location

/-- No folder is missing afterwards, and everything is as before, except at some places and
for folders that were made at others, where nothing was. -/
structure TouchesOnly (places folders : List Location) (before after : FileSystem) : Prop where
  keeps : Keeps before after
  items : ∀ location, location ∉ places →
    after.itemAt? location = before.itemAt? location ∨
      location ∈ folders ∧ before.itemAt? location = none ∧
        after.itemAt? location = some .folder

namespace ChangesOnly

variable {places more : List Location}

theorem refl (places : List Location) (fs : FileSystem) : ChangesOnly places fs fs :=
  ⟨.refl fs, fun _ _ => rfl⟩

theorem trans (first : ChangesOnly places before middle)
    (second : ChangesOnly places middle after) : ChangesOnly places before after :=
  ⟨first.keeps.trans second.keeps, fun location other =>
    (second.files location other).trans (first.files location other)⟩

theorem mono (changes : ChangesOnly places before after) (within : places ⊆ more) :
    ChangesOnly more before after :=
  ⟨changes.keeps, fun location other =>
    changes.files location fun member => other (within member)⟩

end ChangesOnly

namespace TouchesOnly

variable {places more folders others : List Location}

theorem refl (places folders : List Location) (fs : FileSystem) :
    TouchesOnly places folders fs fs :=
  ⟨.refl fs, fun _ _ => .inl rfl⟩

theorem trans (first : TouchesOnly places folders before middle)
    (second : TouchesOnly places folders middle after) :
    TouchesOnly places folders before after := by
  refine ⟨first.keeps.trans second.keeps, fun location other => ?_⟩
  rcases first.items location other with same | ⟨around, missing, made⟩
  · rw [← same]
    exact second.items location other
  · exact .inr ⟨around, missing, second.keeps.folders location made⟩

theorem mono (touches : TouchesOnly places folders before after) (within : places ⊆ more)
    (around : folders ⊆ others) : TouchesOnly more others before after := by
  refine ⟨touches.keeps, fun location other => ?_⟩
  exact (touches.items location fun member => other (within member)).imp_right fun made =>
    ⟨around made.1, made.2⟩

/-- A folder where nothing was is no file, and neither was there one before. -/
theorem changesOnly (touches : TouchesOnly places folders before after) :
    ChangesOnly places before after := by
  refine ⟨touches.keeps, fun location other => ?_⟩
  unfold fileAt?
  rcases touches.items location other with same | ⟨-, missing, made⟩
  · rw [same]
  · rw [missing, made]

theorem of_changed {place : Location} {item : Option Item}
    (working : after.working = before.working)
    (noFolder : before.itemAt? place ≠ some .folder)
    (changed : ∀ location, after.itemAt? location =
      if location = place then item else before.itemAt? location) :
    TouchesOnly [place] [] before after := by
  refine ⟨.of_changed working noFolder changed, fun location other => .inl ?_⟩
  rw [changed, if_neg (by simpa using other)]

theorem andThen {α β : Type} {first : Action FileSystem α} {second : α → Action FileSystem β}
    (head : TouchesOnly places folders before (first before).2)
    (tail : ∀ {value next}, first before = (.ok value, next) →
      TouchesOnly places folders next (second value next).2) :
    TouchesOnly places folders before (first.andThen second before).2 := by
  unfold Action.andThen
  split
  · rename_i value next succeeds
    rw [succeeds] at head
    exact head.trans (tail succeeds)
  · rename_i error next fails
    rw [fails] at head
    exact head

end TouchesOnly

section Operations

variable {content : List UInt8}

theorem touchesOnly_makeFolder (fs : FileSystem) (path : Path) :
    TouchesOnly [] [fs.placeOf path] fs (makeFolder path fs).2 := by
  unfold makeFolder lookup?
  cases follows : fs.follow path with
  | error error => exact .refl _ _ _
  | ok spot =>
    cases spot with
    | folder location => exact .refl _ _ _
    | entry location name slash =>
      by_cases long : longestName < name.utf8ByteSize
      · simp only [if_pos long]
        exact .refl _ _ _
      · simp only [if_neg long]
        cases found : fs.itemAt? (location ++ [name]) with
        | some item => exact .refl _ _ _
        | none =>
          have changed := @itemAt?_put fs (location ++ [name]) (by simp) .folder
          refine ⟨.put (by simp) (by simp [found]) _, ?_⟩
          intro other _
          rw [(exists_of_follow follows).1]
          by_cases same : other = location ++ [name]
          · subst same
            exact .inr ⟨List.mem_singleton_self _, found, (changed _).trans (if_pos rfl)⟩
          · exact .inl ((changed _).trans (if_neg same))

theorem touchesOnly_ensureFolder (fs : FileSystem) (path : Path) :
    TouchesOnly [] [fs.placeOf path] fs (ensureFolder path fs).2 := by
  have made := touchesOnly_makeFolder fs path
  unfold ensureFolder
  split
  · rename_i error after refused
    rw [refused] at made
    split_ifs
    · exact made
    · exact made
  · exact made

theorem touchesOnly_ensureNested (paths : List Path) (fs : FileSystem) :
    TouchesOnly [] (paths.map fs.placeOf) fs (ensureNested paths fs).2 := by
  induction paths generalizing fs with
  | nil => exact .refl _ _ _
  | cons path outer ih =>
    have own : [fs.placeOf path] ⊆ (path :: outer).map fs.placeOf := by simp
    have first := (touchesOnly_ensureFolder fs path).mono (List.Subset.refl []) own
    unfold ensureNested
    split
    · rename_i after missing
      rw [missing] at first
      have above := ih after
      rw [funext first.keeps.placeOf] at above
      apply first.trans
      apply (above.mono (List.nil_subset _) (List.subset_cons_self _ _)).andThen
      intro _ next outerMade
      rw [outerMade] at above
      have again := touchesOnly_ensureFolder next path
      rw [above.keeps.placeOf, first.keeps.placeOf] at again
      exact again.mono (List.nil_subset _) own
    · exact first

/-- Making the missing folders of a path changes nothing that was there. -/
theorem touchesOnly_ensureFolders (fs : FileSystem) (path : Path) :
    TouchesOnly [] (path.withFolders.map fs.placeOf) fs (ensureFolders path fs).2 :=
  touchesOnly_ensureNested _ fs

theorem changesOnly_ensureFolders (fs : FileSystem) (path : Path) :
    ChangesOnly [] fs (ensureFolders path fs).2 := (touchesOnly_ensureFolders fs path).changesOnly

theorem Points.placeOf_eq {location : Location} {name : String}
    (points : Points fs path location name) : fs.placeOf path = location ++ [name] :=
  (exists_of_follow points.follows).1

theorem lookup?_eq_ok {location : Location} {name : String} {item? : Option Item}
    (found : fs.lookup? location name = .ok item?) :
    name.utf8ByteSize ≤ longestName ∧ fs.itemAt? (location ++ [name]) = item? := by
  unfold lookup? at found
  split_ifs at found with long
  exact ⟨Nat.le_of_not_lt long, Except.ok.inj found⟩

theorem points_of_find (found : fs.find path = .ok (.file content)) :
    ∃ folder name, Points fs path folder name ∧
      fs.itemAt? (folder ++ [name]) = some (.file content) := by
  unfold find at found
  split at found
  · cases found
  · cases found
  · rename_i folder name slash follows
    split at found
    · cases found
    · cases found
    · rename_i item looked
      obtain ⟨short, there⟩ := lookup?_eq_ok looked
      cases slash with
      | true =>
        split_ifs at found with onlyFile
        obtain rfl := Except.ok.inj found
        simp at onlyFile
      | false =>
        obtain rfl := Except.ok.inj found
        exact ⟨folder, name, ⟨follows, short⟩, there⟩

theorem fileAt?_of_find (found : fs.find path = .ok (.file content)) :
    fs.fileAt? (fs.placeOf path) = some content := by
  obtain ⟨folder, name, points, there⟩ := points_of_find found
  rw [points.placeOf_eq, fileAt?_eq_some_iff, there]

theorem noSlash_of_find (found : fs.find path = .ok (.file content)) :
    (Text.split '/' path.text).getLast? ≠ some "" := by
  obtain ⟨folder, name, points, -⟩ := points_of_find found
  exact beq_eq_false_iff_ne.mp (exists_of_follow points.follows).2.2.symm

/-- A path leads to a file. -/
def HoldsFile (fs : FileSystem) (path : Path) : Prop := ∃ content, fs.find path = .ok (.file content)

theorem HoldsFile.writeFile (holds : fs.HoldsFile path) (content : List UInt8) :
    ∃ after, FileSystem.writeFile path content fs = (.ok (), after) ∧ after.HoldsFile path := by
  obtain ⟨held, found⟩ := holds
  obtain ⟨folder, name, points, there⟩ := points_of_find found
  have writes := points.writeFile_eq (by simp [there]) content
  exact ⟨_, writes, content, find_of_writeFile writes⟩

theorem HoldsFile.removeFile (holds : fs.HoldsFile path) :
    ∃ after, FileSystem.removeFile path fs = (.ok (), after) ∧
      after.itemAt? (fs.placeOf path) = none := by
  obtain ⟨held, found⟩ := holds
  obtain ⟨folder, name, points, there⟩ := points_of_find found
  refine ⟨_, points.removeFile_eq there, ?_⟩
  rw [points.placeOf_eq, itemAt?_erase _ (by simp), if_pos rfl]

/-- A file is found again as long as it is there and no folder has gone. -/
theorem find_of_keeps {after : FileSystem} (keeps : Keeps fs after)
    (found : fs.find path = .ok (.file content))
    (same : after.fileAt? (fs.placeOf path) = fs.fileAt? (fs.placeOf path)) :
    after.find path = fs.find path := by
  obtain ⟨folder, name, points, there⟩ := points_of_find found
  rw [fileAt?_of_find found, points.placeOf_eq, fileAt?_eq_some_iff] at same
  rw [found, (points.kept keeps).find_eq, same]

theorem writeFile_error {error : FileError}
    (fails : writeFile path content before = (.error error, after)) : after = before := by
  unfold writeFile at fails
  repeat' split at fails
  all_goals cases fails
  all_goals rfl

theorem removeFile_error {error : FileError}
    (fails : removeFile path before = (.error error, after)) : after = before := by
  unfold removeFile at fails
  repeat' split at fails
  all_goals cases fails
  all_goals rfl

theorem moveFile_error {source target : Path} {error : FileError}
    (fails : moveFile source target before = (.error error, after)) : after = before := by
  unfold moveFile at fails
  repeat' split at fails
  all_goals cases fails
  all_goals rfl

theorem points_of_removeFile (removes : removeFile path before = (.ok (), after)) :
    ∃ location name content, Points before path location name ∧
      before.itemAt? (location ++ [name]) = some (.file content) ∧
      after = before.erase (location ++ [name]) := by
  unfold removeFile at removes
  split at removes
  · cases removes
  · cases removes
  · rename_i location name slash follows
    split at removes
    · cases removes
    · cases removes
    · cases removes
    · rename_i content found
      obtain ⟨short, there⟩ := lookup?_eq_ok found
      cases slash with
      | true => cases removes
      | false => exact ⟨location, name, content, ⟨follows, short⟩, there,
          (Prod.mk.inj removes).2.symm⟩

theorem points_of_moveFile {source target : Path}
    (moves : moveFile source target before = (.ok (), after)) :
    ∃ holder name into last content, Points before source holder name ∧
      Points before target into last ∧
      before.itemAt? (holder ++ [name]) = some (.file content) ∧
      before.itemAt? (into ++ [last]) ≠ some .folder ∧
      after = (before.erase (holder ++ [name])).put (into ++ [last]) (.file content) := by
  unfold moveFile at moves
  split at moves
  · cases moves
  · cases moves
  · rename_i sourceFolder sourceName sourceSlash targetFolder targetName targetSlash
      sourceFollows targetFollows
    split at moves
    · cases moves
    · cases moves
    · cases moves
    · cases moves
    · rename_i content found sourceFound targetFound
      obtain ⟨sourceShort, sourceThere⟩ := lookup?_eq_ok sourceFound
      obtain ⟨targetShort, targetThere⟩ := lookup?_eq_ok targetFound
      by_cases slash : (sourceSlash || targetSlash) = true
      · rw [if_pos slash] at moves
        cases moves
      rw [if_neg slash] at moves
      by_cases isFolder : found = some .folder
      · rw [if_pos isFolder] at moves
        cases moves
      rw [if_neg isFolder] at moves
      obtain ⟨rfl, rfl⟩ : sourceSlash = false ∧ targetSlash = false := by simpa using slash
      exact ⟨_, _, _, _, content, ⟨sourceFollows, sourceShort⟩, ⟨targetFollows, targetShort⟩,
        sourceThere, targetThere ▸ isFolder, (Prod.mk.inj moves).2.symm⟩
  · cases moves

theorem touchesOnly_writeFile (fs : FileSystem) (path : Path) (content : List UInt8) :
    TouchesOnly [fs.placeOf path] [] fs (writeFile path content fs).2 := by
  rcases writes : writeFile path content fs with ⟨error | done, after⟩
  · rw [writeFile_error writes]
    exact .refl _ _ _
  · obtain ⟨location, name, points, noFolder, rfl⟩ := points_of_writeFile writes
    rw [points.placeOf_eq]
    exact .of_changed (working_put _ _ _) noFolder (itemAt?_put fs (by simp) _)

theorem changesOnly_writeFile (fs : FileSystem) (path : Path) (content : List UInt8) :
    ChangesOnly [fs.placeOf path] fs (writeFile path content fs).2 :=
  (touchesOnly_writeFile fs path content).changesOnly

theorem fileAt?_of_writeFile (writes : writeFile path content before = (.ok (), after)) :
    after.fileAt? (before.placeOf path) = some content := by
  obtain ⟨location, name, points, -, rfl⟩ := points_of_writeFile writes
  rw [points.placeOf_eq, fileAt?_eq_some_iff, itemAt?_put _ (by simp), if_pos rfl]

/-- A file that is removed is gone from the place of its path, and all else is there. -/
theorem itemAt?_of_removeFile (removes : removeFile path before = (.ok (), after))
    (location : Location) :
    after.itemAt? location =
      if location = before.placeOf path then none else before.itemAt? location := by
  obtain ⟨holder, name, content, points, -, rfl⟩ := points_of_removeFile removes
  rw [points.placeOf_eq, itemAt?_erase _ (by simp)]

theorem touchesOnly_removeFile (fs : FileSystem) (path : Path) :
    TouchesOnly [fs.placeOf path] [] fs (removeFile path fs).2 := by
  rcases removes : removeFile path fs with ⟨error | done, after⟩
  · rw [removeFile_error removes]
    exact .refl _ _ _
  · have changed := itemAt?_of_removeFile removes
    obtain ⟨holder, name, content, points, there, rfl⟩ := points_of_removeFile removes
    apply TouchesOnly.of_changed (working_erase _ _) _ changed
    rw [points.placeOf_eq, there]
    simp

theorem changesOnly_removeFile (fs : FileSystem) (path : Path) :
    ChangesOnly [fs.placeOf path] fs (removeFile path fs).2 :=
  (touchesOnly_removeFile fs path).changesOnly

theorem touchesOnly_moveFile (fs : FileSystem) (source target : Path) :
    TouchesOnly [fs.placeOf source, fs.placeOf target] [] fs (moveFile source target fs).2 := by
  rcases moves : moveFile source target fs with ⟨error | done, after⟩
  · rw [moveFile_error moves]
    exact .refl _ _ _
  · obtain ⟨holder, name, into, last, content, points, targets, there, noFolder, rfl⟩ :=
      points_of_moveFile moves
    rw [points.placeOf_eq, targets.placeOf_eq]
    have erased : TouchesOnly [holder ++ [name]] [] fs (fs.erase (holder ++ [name])) :=
      .of_changed (working_erase _ _) (by simp [there]) (itemAt?_erase fs (by simp))
    have stays : (fs.erase (holder ++ [name])).itemAt? (into ++ [last]) ≠ some .folder := by
      rw [itemAt?_erase _ (by simp)]
      split_ifs
      · simp
      · exact noFolder
    have written : TouchesOnly [into ++ [last]] [] (fs.erase (holder ++ [name]))
        ((fs.erase (holder ++ [name])).put (into ++ [last]) (.file content)) :=
      .of_changed (working_put _ _ _) stays (itemAt?_put _ (by simp) _)
    exact (erased.mono (by simp) (List.Subset.refl _)).trans
      (written.mono (by simp) (List.Subset.refl _))

/-- A file that is moved is found at its new place, and nothing is left at its old one. -/
theorem find_of_moveFile {source target : Path}
    (moves : moveFile source target before = (.ok (), after)) :
    ∃ content, before.fileAt? (before.placeOf source) = some content ∧
      after.find target = .ok (.file content) ∧
      (before.placeOf source ≠ before.placeOf target →
        after.itemAt? (before.placeOf source) = none) := by
  have keeps := (touchesOnly_moveFile before source target).keeps
  rw [moves] at keeps
  obtain ⟨holder, name, into, last, content, points, targets, there, -, rfl⟩ :=
    points_of_moveFile moves
  refine ⟨content, ?_, ?_, ?_⟩
  · rw [points.placeOf_eq, fileAt?_eq_some_iff, there]
  · rw [(targets.kept keeps).find_eq, itemAt?_put _ (by simp), if_pos rfl]
  · rw [points.placeOf_eq, targets.placeOf_eq]
    intro different
    rw [itemAt?_put _ (by simp), if_neg different, itemAt?_erase _ (by simp), if_pos rfl]

end Operations

end FileSystem

end Stencil
