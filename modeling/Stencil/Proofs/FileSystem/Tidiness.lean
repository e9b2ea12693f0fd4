import Stencil.Proofs.FileSystem.Following

/-!
# Tidy folders

Below a tidy folder everything lies in folders, names are short enough to be looked
up, and a dot in a name tells files from folders.  There a path of names is followed
without surprises: each operation on files has one equation, and making folders goes
wrong only for names or paths that are too long.
-/

namespace Stencil

namespace FileSystem

/-- A folder where everything lies in folders, with short names, and where exactly the
files have a dot in their names. -/
structure Tidy (fs : FileSystem) (base : Location) : Prop where
  root : fs.itemAt? base = some .folder
  nested : ∀ {names name item}, fs.itemAt? (base ++ (names ++ [name])) = some item →
    fs.itemAt? (base ++ names) = some .folder
  short : ∀ {names name item}, fs.itemAt? (base ++ (names ++ [name])) = some item →
    name.utf8ByteSize ≤ longestName
  dotted : ∀ {names name item}, fs.itemAt? (base ++ (names ++ [name])) = some item →
    (item = .folder ↔ '.' ∉ name.toList)

/-- A path leads to a name in a folder. -/
structure Points (fs : FileSystem) (path : Path) (folder : Location) (name : String) : Prop where
  follows : fs.follow path = .ok (.entry folder name false)
  short : name.utf8ByteSize ≤ longestName

namespace Points

variable {fs : FileSystem} {path : Path} {folder : Location} {name : String}

theorem kept {after : FileSystem} (points : Points fs path folder name)
    (keeps : Keeps fs after) : Points after path folder name :=
  ⟨keeps.follow points.follows, points.short⟩

theorem lookup?_eq (points : Points fs path folder name) :
    fs.lookup? folder name = .ok (fs.itemAt? (folder ++ [name])) := by
  unfold lookup?
  rw [if_neg (Nat.not_lt.mpr points.short)]

theorem find_eq (points : Points fs path folder name) :
    fs.find path =
      match fs.itemAt? (folder ++ [name]) with
      | none => .error .notFound
      | some item => .ok item := by
  unfold find
  simp only [points.follows, points.lookup?_eq]
  cases fs.itemAt? (folder ++ [name]) with
  | none => rfl
  | some item => rfl

theorem writeFile_eq (points : Points fs path folder name)
    (noFolder : fs.itemAt? (folder ++ [name]) ≠ some .folder) (content : List UInt8) :
    writeFile path content fs = (.ok (), fs.put (folder ++ [name]) (.file content)) := by
  unfold writeFile
  simp only [points.follows, points.lookup?_eq, Bool.false_eq_true, if_false]

/-- What is written over a file is the only thing that changes. -/
theorem overwrite (points : Points fs path folder name) {held : List UInt8}
    (there : fs.itemAt? (folder ++ [name]) = some (.file held)) (content : List UInt8) :
    ∃ after, writeFile path content fs = (.ok (), after) ∧ Keeps fs after ∧
      ∀ location, after.itemAt? location =
        if location = folder ++ [name] then some (.file content) else fs.itemAt? location := by
  have noFolder : fs.itemAt? (folder ++ [name]) ≠ some .folder := by simp [there]
  exact ⟨_, points.writeFile_eq noFolder content, .put (by simp) noFolder _,
    itemAt?_put fs (by simp) _⟩

theorem removeFile_eq (points : Points fs path folder name) {content : List UInt8}
    (found : fs.itemAt? (folder ++ [name]) = some (.file content)) :
    removeFile path fs = (.ok (), fs.erase (folder ++ [name])) := by
  unfold removeFile
  simp only [points.follows, points.lookup?_eq, found, Bool.false_eq_true, if_false]

theorem moveFile_eq {target : Path} {targetFolder : Location} {targetName : String}
    (points : Points fs path folder name) (targets : Points fs target targetFolder targetName)
    {content : List UInt8} (found : fs.itemAt? (folder ++ [name]) = some (.file content))
    (noFolder : fs.itemAt? (targetFolder ++ [targetName]) ≠ some .folder) :
    moveFile path target fs =
      (.ok (), (fs.erase (folder ++ [name])).put (targetFolder ++ [targetName])
        (.file content)) := by
  unfold moveFile
  simp only [points.follows, targets.follows, points.lookup?_eq, targets.lookup?_eq, found,
    Bool.or_false, Bool.false_eq_true, if_false, noFolder]

theorem ensureFolder_eq (points : Points fs path folder name)
    (noFile : fs.fileAt? (folder ++ [name]) = none) :
    ensureFolder path fs =
      (.ok (), if fs.itemAt? (folder ++ [name]) = none then fs.put (folder ++ [name]) .folder
        else fs) := by
  unfold ensureFolder makeFolder hasFolder
  simp only [points.follows, points.lookup?_eq]
  rcases fileAt?_eq_none_iff.mp noFile with missing | there
  · simp only [missing, if_true]
  · simp [there, points.find_eq]

theorem has_eq_false_iff (points : Points fs path folder name) :
    fs.has path = false ↔ fs.itemAt? (folder ++ [name]) = none := by
  unfold has
  rw [points.find_eq]
  cases fs.itemAt? (folder ++ [name]) with
  | none => simp [Except.toBool]
  | some item => simp [Except.toBool]

end Points

/-- What a file was written to: a name in a folder that is no folder itself. -/
theorem points_of_writeFile {before after : FileSystem} {path : Path} {content : List UInt8}
    (writes : writeFile path content before = (.ok (), after)) :
    ∃ folder name, Points before path folder name ∧
      before.itemAt? (folder ++ [name]) ≠ some .folder ∧
      after = before.put (folder ++ [name]) (.file content) := by
  unfold writeFile lookup? at writes
  cases follows : before.follow path with
  | error error =>
    rw [follows] at writes
    cases writes
  | ok spot =>
    rw [follows] at writes
    cases spot with
    | folder location => cases writes
    | entry folder name slash =>
      cases slash with
      | true => cases writes
      | false =>
        by_cases long : longestName < name.utf8ByteSize
        · simp only [long, if_true, Bool.false_eq_true, if_false] at writes
          cases writes
        · simp only [long, if_false, Bool.false_eq_true] at writes
          refine ⟨folder, name, ⟨follows, Nat.le_of_not_lt long⟩, ?_⟩
          cases found : before.itemAt? (folder ++ [name]) with
          | none =>
            rw [found] at writes
            exact ⟨by simp, (Prod.mk.inj writes).2.symm⟩
          | some item =>
            rw [found] at writes
            cases item with
            | folder => cases writes
            | file old => exact ⟨by simp, (Prod.mk.inj writes).2.symm⟩

theorem find_of_writeFile {before after : FileSystem} {path : Path} {content : List UInt8}
    (writes : writeFile path content before = (.ok (), after)) :
    after.find path = .ok (.file content) := by
  obtain ⟨folder, name, points, noFolder, rfl⟩ := points_of_writeFile writes
  have keeps : Keeps before (before.put (folder ++ [name]) (.file content)) :=
    .put (by simp) noFolder _
  rw [(points.kept keeps).find_eq, itemAt?_put _ (by simp), if_pos rfl]

theorem ensureFolder_of_follow {fs : FileSystem} {path : Path} {error : FileError}
    (follows : fs.follow path = .error error) (other : error ≠ .alreadyExists) :
    ensureFolder path fs = (.error error, fs) := by
  unfold ensureFolder makeFolder
  simp only [follows, other, decide_false, Bool.false_and, Bool.false_eq_true, if_false]

section Existing

variable {fs : FileSystem} {path : Path} {base : Location}

/-- A path that leads to a folder finds it, so the folder cannot be made. -/
theorem Leads.find_eq (leads : Leads fs path base) (filled : path.text ≠ "")
    (fits : path.text.utf8ByteSize ≤ longestPath) :
    fs.find path = .ok .folder ∧ makeFolder path fs = (.error .alreadyExists, fs) := by
  rcases List.eq_nil_or_concat' path.steps with none_left | ⟨names, last, steps⟩
  · have follows : fs.follow path = .ok (.folder (fs.startOf path)) := by
      have noLast : path.steps.getLast? = none := by rw [none_left]; rfl
      unfold Path.steps at noLast
      unfold follow
      simp only [List.contains_eq_mem, leads.noZero, decide_false, Bool.false_eq_true, if_false,
        filled, Nat.not_lt.mpr fits, noLast]
      rfl
    unfold find makeFolder
    simp only [follows, and_self]
  · have entered := leads.enters
    rw [steps, enterAll_append] at entered
    have follows := @FileSystem.follow_eq fs _ _ _ leads.noZero fits steps
    cases front : fs.enterAll (fs.startOf path) names with
    | error error =>
      rw [front] at entered
      cases entered
    | ok inner =>
      rw [front] at entered follows
      replace entered : fs.enterAll inner [last] = .ok base := entered
      replace follows : fs.follow path = .ok (spotIn inner last _) := follows
      rw [enterAll_singleton] at entered
      unfold spotIn at follows
      unfold find makeFolder
      cases enter_eq_ok_iff.mp entered with
      | here =>
        rw [if_pos rfl] at follows
        simp only [follows, and_self]
      | above =>
        rw [if_neg (by decide), if_pos rfl] at follows
        simp only [follows, and_self]
      | into plain short there =>
        rw [if_neg plain.1, if_neg plain.2] at follows
        have looked : fs.lookup? inner last = .ok (some .folder) := by
          rw [lookup?, if_neg (Nat.not_lt.mpr short), there]
        simp [follows, looked]

theorem Leads.ensureFolder_eq (leads : Leads fs path base) (filled : path.text ≠ "")
    (fits : path.text.utf8ByteSize ≤ longestPath) : ensureFolder path fs = (.ok (), fs) := by
  obtain ⟨found, made⟩ := leads.find_eq filled fits
  have there : fs.hasFolder path = true := by
    unfold hasFolder
    rw [found]
  unfold ensureFolder
  simp only [made, there, decide_true, Bool.and_self, if_true]

theorem withFolders_cases (path : Path) :
    path.withFolders = [] ∨ path.text ≠ "" ∧ ∃ outer, path.withFolders = path :: outer := by
  unfold Path.withFolders
  cases back : path.piecesBack with
  | nil => exact .inl rfl
  | cons first rest =>
    refine .inr ⟨?_, _, rfl⟩
    intro empty
    have same : path = ⟨""⟩ := congrArg Path.mk empty
    have none_left : (Path.mk "").piecesBack = [] := rfl
    rw [same, none_left] at back
    cases back

theorem Leads.ensureFolders_cases (leads : Leads fs path base) :
    ensureFolders path fs = (.ok (), fs) ∨
      longestPath < path.text.utf8ByteSize ∧
        ensureFolders path fs = (.error .nameTooLong, fs) := by
  unfold ensureFolders
  rcases withFolders_cases path with none_left | ⟨filled, outer, some_left⟩
  · rw [none_left]
    exact .inl rfl
  · rw [some_left, ensureNested]
    by_cases fits : path.text.utf8ByteSize ≤ longestPath
    · exact .inl (by simp only [leads.ensureFolder_eq filled fits])
    · have long := Nat.lt_of_not_le fits
      have follows : fs.follow path = _ := follow_too_long leads.noZero long
      have refused := ensureFolder_of_follow follows (by decide)
      exact .inr ⟨long, by simp only [refused]⟩

end Existing

namespace Tidy

variable {fs after : FileSystem} {folder : Path} {base : Location} {names : List String}
  {name : String}

theorem enterAll_eq (tidy : Tidy fs base) (proper : ∀ name ∈ names, IsPathName name)
    (found : fs.itemAt? (base ++ names) = some .folder) :
    fs.enterAll base names = .ok (base ++ names) := by
  induction names using List.reverseRecOn with
  | nil => rw [List.append_nil]; rfl
  | append_singleton front name ih =>
    have inner := ih (fun other member => proper other (List.mem_append_left _ member))
      (tidy.nested found)
    have short := tidy.short found
    rw [enterAll_append, inner]
    show fs.enterAll (base ++ front) [name] = _
    rw [enterAll_singleton, enter_name _ (proper name (by simp)),
      if_neg (Nat.not_lt.mpr short), List.append_assoc, found]

/-- Where names lead on to below a tidy folder, and why they do not. -/
theorem enterAll_cases (tidy : Tidy fs base) (proper : ∀ name ∈ names, IsPathName name)
    (dotless : ∀ name ∈ names, '.' ∉ name.toList) :
    (fs.enterAll base names = .ok (base ++ names) ∧
        fs.itemAt? (base ++ names) = some .folder) ∨
      fs.enterAll base names = .error .notFound ∨
      (fs.enterAll base names = .error .nameTooLong ∧
        ∃ name ∈ names, longestName < name.utf8ByteSize) := by
  induction names using List.reverseRecOn with
  | nil =>
    refine .inl ⟨?_, ?_⟩
    · rw [List.append_nil]; rfl
    · rw [List.append_nil]; exact tidy.root
  | append_singleton front name ih =>
    rw [enterAll_append]
    rcases ih (fun other member => proper other (List.mem_append_left _ member))
        (fun other member => dotless other (List.mem_append_left _ member)) with
      ⟨entered, -⟩ | missing | ⟨long, tooLong⟩
    · rw [entered]
      show (fs.enterAll (base ++ front) [name] = _ ∧ _) ∨ fs.enterAll (base ++ front) [name] = _ ∨
        (fs.enterAll (base ++ front) [name] = _ ∧ _)
      rw [enterAll_singleton, enter_name _ (proper name (by simp))]
      by_cases long : longestName < name.utf8ByteSize
      · rw [if_pos long]
        exact .inr (.inr ⟨rfl, name, by simp, long⟩)
      · rw [if_neg long, List.append_assoc]
        cases found : fs.itemAt? (base ++ (front ++ [name])) with
        | none => exact .inr (.inl rfl)
        | some item =>
          obtain rfl := (tidy.dotted found).mpr (dotless name (by simp))
          exact .inl ⟨rfl, rfl⟩
    · rw [missing]
      exact .inr (.inl rfl)
    · rw [long]
      obtain ⟨other, member, otherLong⟩ := tooLong
      exact .inr (.inr ⟨rfl, other, List.mem_append_left _ member, otherLong⟩)

theorem short_of_folder (tidy : Tidy fs base)
    (found : fs.itemAt? (base ++ names) = some .folder) :
    ∀ name ∈ names, name.utf8ByteSize ≤ longestName := by
  induction names using List.reverseRecOn with
  | nil => simp
  | append_singleton front last ih =>
    intro name member
    rcases List.mem_append.mp member with inside | same
    · exact ih (tidy.nested found) name inside
    · rw [List.mem_singleton.mp same]
      exact tidy.short found

/-- A folder's path followed by names leads to the last one, if there is a folder to
look in. -/
theorem points {path : Path} (tidy : Tidy fs base) (leads : Leads fs folder base)
    (longer : path.Extends folder (names ++ [name])) (noZero : '\x00' ∉ path.text.toList)
    (proper : ∀ other ∈ names ++ [name], IsPathName other)
    (fits : path.text.utf8ByteSize ≤ longestPath) (short : name.utf8ByteSize ≤ longestName)
    (found : fs.itemAt? (base ++ names) = some .folder) :
    Points fs path (base ++ names) name := by
  refine ⟨?_, short⟩
  rw [leads.follow_eq longer noZero proper fits, tidy.enterAll_eq
    (fun other member => proper other (List.mem_append_left _ member)) found]

theorem put {item : Item} (tidy : Tidy fs base) (keeps : Keeps fs after)
    (found : fs.itemAt? (base ++ names) = some .folder)
    (short : name.utf8ByteSize ≤ longestName) (dotted : item = .folder ↔ '.' ∉ name.toList)
    (changed : ∀ location, after.itemAt? location =
      if location = base ++ (names ++ [name]) then some item else fs.itemAt? location) :
    Tidy after base := by
  have cases {front : List String} {last : String} {other : Item}
      (there : after.itemAt? (base ++ (front ++ [last])) = some other) :
      (front = names ∧ last = name ∧ other = item) ∨
        fs.itemAt? (base ++ (front ++ [last])) = some other := by
    rw [changed] at there
    by_cases same : base ++ (front ++ [last]) = base ++ (names ++ [name])
    · rw [if_pos same] at there
      obtain ⟨fronts, lasts⟩ := List.append_inj' (List.append_cancel_left same) rfl
      exact .inl ⟨fronts, List.head_eq_of_cons_eq lasts, (Option.some.inj there).symm⟩
    · rw [if_neg same] at there
      exact .inr there
  constructor
  · exact keeps.folders _ tidy.root
  · intro front last other there
    rcases cases there with ⟨rfl, -, -⟩ | before
    · exact keeps.folders _ found
    · exact keeps.folders _ (tidy.nested before)
  · intro front last other there
    rcases cases there with ⟨-, rfl, -⟩ | before
    · exact short
    · exact tidy.short before
  · intro front last other there
    rcases cases there with ⟨-, rfl, rfl⟩ | before
    · exact dotted
    · exact tidy.dotted before

theorem erase {place : Location} (tidy : Tidy fs base) (keeps : Keeps fs after)
    (changed : ∀ location, after.itemAt? location =
      if location = place then none else fs.itemAt? location) :
    Tidy after base := by
  have before {location : Location} {item : Item} (there : after.itemAt? location = some item) :
      fs.itemAt? location = some item := by
    rw [changed] at there
    by_cases same : location = place
    · rw [if_pos same] at there
      cases there
    · rw [if_neg same] at there
      exact there
  constructor
  · exact keeps.folders _ tidy.root
  · intro names name item there
    exact keeps.folders _ (tidy.nested (before there))
  · intro names name item there
    exact tidy.short (before there)
  · intro names name item there
    exact tidy.dotted (before there)

end Tidy

end FileSystem

end Stencil
