import Stencil.FileSystem.Operations
import Stencil.Proofs.Path.Derived

/-!
# Following paths from a folder

The path of a folder leads to a location, however it is written.  A path of names
below it leads on from there, name by name.  All of this stays as it is while no
folder is taken away.
-/

namespace Stencil

namespace FileSystem

def startOf (fs : FileSystem) (path : Path) : Location :=
  if path.isAbsolute then [] else fs.working

def fileAt? (fs : FileSystem) (location : Location) : Option (List UInt8) :=
  match fs.itemAt? location with
  | some (.file content) => some content
  | _ => none

theorem fileAt?_eq_some_iff {fs : FileSystem} {location : Location} {content : List UInt8} :
    fs.fileAt? location = some content ↔ fs.itemAt? location = some (.file content) := by
  unfold fileAt?
  cases fs.itemAt? location with
  | none => simp
  | some item => cases item <;> simp

theorem fileAt?_eq_none_iff {fs : FileSystem} {location : Location} :
    fs.fileAt? location = none ↔
      fs.itemAt? location = none ∨ fs.itemAt? location = some .folder := by
  unfold fileAt?
  cases fs.itemAt? location with
  | none => simp
  | some item => cases item <;> simp

/-- If only one place changes, and to a file or to nothing, then so it is with the files. -/
theorem fileAt?_of_changed {before after : FileSystem} {place : Location}
    {content? : Option (List UInt8)}
    (changed : ∀ location, after.itemAt? location =
      if location = place then content?.map .file else before.itemAt? location)
    (location : Location) :
    after.fileAt? location = if location = place then content? else before.fileAt? location := by
  unfold fileAt?
  rw [changed]
  split_ifs
  · cases content? with
    | none => rfl
    | some content => rfl
  · rfl

theorem put_put (fs : FileSystem) (location : Location) (first second : Item) :
    (fs.put location first).put location second = fs.put location second := by
  unfold put withoutKey
  simp

theorem itemAt?_of_isBare {files : FileSystem} {base names : Location}
    (bare : files.isBare base = true) (below : names ≠ []) :
    files.itemAt? (base ++ names) = none := by
  have below?_append (base names : Location) : below? base (base ++ names) = some names := by
    induction base with
    | nil => rfl
    | cons name rest ih => rw [List.cons_append, below?, if_pos rfl, ih]
  unfold itemAt?
  rw [if_neg (by simp [below])]
  cases found : files.entries.lookup (base ++ names) with
  | none => rfl
  | some item =>
    obtain ⟨front, back, whole, -⟩ := List.lookup_eq_some_iff.mp found
    have member : (names, item) ∈ files.contentsBelow base := by
      apply List.mem_filterMap.mpr
      refine ⟨(base ++ names, item), ?_, ?_⟩
      · rw [whole]
        simp
      · simp [below?_append, below]
    unfold isBare at bare
    rw [List.isEmpty_iff.mp bare] at member
    exact absurd member List.not_mem_nil

theorem fileAt?_of_isBare {files : FileSystem} {base : Location}
    (root : files.itemAt? base = some .folder) (bare : files.isBare base = true)
    (names : List String) : files.fileAt? (base ++ names) = none := by
  apply fileAt?_eq_none_iff.mpr
  cases names with
  | nil =>
    rw [List.append_nil]
    exact .inr root
  | cons name rest => exact .inl (itemAt?_of_isBare bare (List.cons_ne_nil _ _))

/-- Where names lead from a folder: one dot to the folder itself, two dots to the one above,
and any other name to a folder that has it. -/
inductive Enters (fs : FileSystem) (start : Location) : String → Location → Prop where
  | here : Enters fs start "." start
  | above : Enters fs start ".." start.dropLast
  | into {name : String} (plain : name ≠ "." ∧ name ≠ "..")
      (short : name.utf8ByteSize ≤ longestName)
      (there : fs.itemAt? (start ++ [name]) = some .folder) :
      Enters fs start name (start ++ [name])

theorem enter_eq_ok_iff {fs : FileSystem} {start inner : Location} {name : String} :
    fs.enter start name = .ok inner ↔ Enters fs start name inner := by
  unfold enter lookup?
  constructor
  · intro entered
    by_cases dot : name = "."
    · rw [if_pos dot] at entered
      cases entered
      exact dot ▸ .here
    rw [if_neg dot] at entered
    by_cases dots : name = ".."
    · rw [if_pos dots] at entered
      cases entered
      exact dots ▸ .above
    rw [if_neg dots] at entered
    by_cases long : longestName < name.utf8ByteSize
    · rw [if_pos long] at entered
      cases entered
    rw [if_neg long] at entered
    cases there : fs.itemAt? (start ++ [name]) with
    | none =>
      rw [there] at entered
      cases entered
    | some item =>
      rw [there] at entered
      cases item with
      | file content => cases entered
      | folder =>
        cases entered
        exact .into ⟨dot, dots⟩ (Nat.le_of_not_lt long) there
  · intro enters
    cases enters with
    | here => rw [if_pos rfl]
    | above => rw [if_neg (by decide), if_pos rfl]
    | into plain short there =>
      rw [if_neg plain.1, if_neg plain.2, if_neg (Nat.not_lt.mpr short), there]

theorem enterAll_cons_eq_ok_iff {fs : FileSystem} {start inner : Location} {name : String}
    {rest : List String} :
    fs.enterAll start (name :: rest) = .ok inner ↔
      ∃ next, Enters fs start name next ∧ fs.enterAll next rest = .ok inner := by
  rw [enterAll]
  cases first : fs.enter start name with
  | error error =>
    constructor
    · intro entered
      cases entered
    · rintro ⟨next, enters, -⟩
      rw [enter_eq_ok_iff.mpr enters] at first
      cases first
  | ok next =>
    constructor
    · intro entered
      exact ⟨next, enter_eq_ok_iff.mp first, entered⟩
    · rintro ⟨other, enters, later⟩
      rw [enter_eq_ok_iff.mpr enters] at first
      cases first
      exact later

/-- A path leads to a location, by folders alone. -/
structure Leads (fs : FileSystem) (path : Path) (location : Location) : Prop where
  noZero : '\x00' ∉ path.text.toList
  enters : fs.enterAll (fs.startOf path) path.steps = .ok location

/-- No folder of one file system is missing in another. -/
structure Keeps (before after : FileSystem) : Prop where
  working : after.working = before.working
  folders : ∀ location, before.itemAt? location = some .folder →
    after.itemAt? location = some .folder

namespace Keeps

variable {before middle after : FileSystem}

theorem refl (fs : FileSystem) : Keeps fs fs := ⟨rfl, fun _ found => found⟩

theorem trans (first : Keeps before middle) (second : Keeps middle after) : Keeps before after :=
  ⟨second.working.trans first.working, fun location found =>
    second.folders location (first.folders location found)⟩

/-- Changing what is at one place takes no folder away if none was there. -/
theorem of_changed {place : Location} {item : Option Item}
    (working : after.working = before.working)
    (noFolder : before.itemAt? place ≠ some .folder)
    (changed : ∀ location, after.itemAt? location =
      if location = place then item else before.itemAt? location) : Keeps before after := by
  refine ⟨working, fun location found => ?_⟩
  rw [changed, if_neg ?_]
  · exact found
  · rintro rfl
    exact noFolder found

section

variable {fs : FileSystem} {location : Location}

theorem put (named : location ≠ []) (noFolder : fs.itemAt? location ≠ some .folder)
    (item : Item) : Keeps fs (fs.put location item) :=
  of_changed (working_put fs location item) noFolder (itemAt?_put fs named item)

theorem erase (named : location ≠ []) (noFolder : fs.itemAt? location ≠ some .folder) :
    Keeps fs (fs.erase location) :=
  of_changed (working_erase fs location) noFolder (itemAt?_erase fs named)

end

theorem enters (keeps : Keeps before after) {start inner : Location} {name : String}
    (enters : Enters before start name inner) : Enters after start name inner := by
  cases enters with
  | here => exact .here
  | above => exact .above
  | into plain short there => exact .into plain short (keeps.folders _ there)

theorem enterAll (keeps : Keeps before after) {start inner : Location} {names : List String}
    (entered : before.enterAll start names = .ok inner) :
    after.enterAll start names = .ok inner := by
  induction names generalizing start with
  | nil => exact entered
  | cons name rest ih =>
    obtain ⟨next, first, later⟩ := enterAll_cons_eq_ok_iff.mp entered
    exact enterAll_cons_eq_ok_iff.mpr ⟨next, keeps.enters first, ih later⟩

theorem startOf (keeps : Keeps before after) (path : Path) :
    after.startOf path = before.startOf path := by
  unfold FileSystem.startOf
  rw [keeps.working]

theorem leads (keeps : Keeps before after) {path : Path} {location : Location}
    (leads : Leads before path location) : Leads after path location := by
  refine ⟨leads.noZero, ?_⟩
  rw [keeps.startOf]
  exact keeps.enterAll leads.enters

theorem follow (keeps : Keeps before after) {path : Path} {spot : Spot}
    (follows : before.follow path = .ok spot) : after.follow path = .ok spot := by
  unfold FileSystem.follow at follows ⊢
  rw [keeps.working]
  dsimp only at follows ⊢
  split_ifs at follows ⊢
  all_goals
    cases last : ((Text.split '/' path.text).filter (· ≠ "")).getLast? with
    | none =>
      rw [last] at follows
      exact follows
    | some name =>
      rw [last] at follows
      dsimp only at follows ⊢
      split at follows
      · rename_i entered
        rw [keeps.enterAll entered]
        exact follows
      · cases follows

end Keeps

variable {fs : FileSystem}

theorem enterAll_append (start : Location) (first second : List String) :
    fs.enterAll start (first ++ second) =
      match fs.enterAll start first with
      | .ok inner => fs.enterAll inner second
      | .error error => .error error := by
  induction first generalizing start with
  | nil => rfl
  | cons name rest ih =>
    rw [List.cons_append, enterAll, enterAll]
    cases fs.enter start name with
    | error error => rfl
    | ok inner => exact ih inner

theorem enterAll_singleton (start : Location) (name : String) :
    fs.enterAll start [name] = fs.enter start name := by
  rw [enterAll]
  cases fs.enter start name with
  | error error => rfl
  | ok inner => rfl

theorem enterAll_append_dots {start inner : Location} {names dots : List String}
    (only : ∀ dot ∈ dots, dot = ".") :
    fs.enterAll start (names ++ dots) = .ok inner ↔ fs.enterAll start names = .ok inner := by
  have stays (location : Location) : fs.enterAll location dots = .ok location := by
    induction dots with
    | nil => rfl
    | cons dot rest ih =>
      obtain rfl := only dot List.mem_cons_self
      exact ih fun other member => only other (List.mem_cons_of_mem _ member)
  rw [enterAll_append]
  cases fs.enterAll start names with
  | error error => exact Iff.rfl
  | ok location => simp only [stays]

theorem enter_name (start : Location) {name : String} (proper : IsPathName name) :
    fs.enter start name =
      if longestName < name.utf8ByteSize then .error .nameTooLong
      else
        match fs.itemAt? (start ++ [name]) with
        | none => .error .notFound
        | some (.file _) => .error .notAFolder
        | some .folder => .ok (start ++ [name]) := by
  obtain ⟨-, -, -, notDot, notDots⟩ := proper
  unfold enter lookup?
  rw [if_neg notDot, if_neg notDots]
  by_cases long : longestName < name.utf8ByteSize
  · rw [if_pos long, if_pos long]
  · rw [if_neg long, if_neg long]
    cases fs.itemAt? (start ++ [name]) with
    | none => rfl
    | some item => cases item <;> rfl

theorem follow_eq {path : Path} {names : List String} {last : String}
    (noZero : '\x00' ∉ path.text.toList) (fits : path.text.utf8ByteSize ≤ longestPath)
    (steps : path.steps = names ++ [last]) :
    fs.follow path =
      match fs.enterAll (fs.startOf path) names with
      | .ok folder => .ok (spotIn folder last ((Text.split '/' path.text).getLast? == some ""))
      | .error error => .error error := by
  have filled : path.text ≠ "" := by
    intro empty
    have none_left : path.steps = [] := by
      unfold Path.steps
      rw [empty]
      rfl
    rw [steps] at none_left
    simp at none_left
  have lastStep : (path.steps.getLast?) = some last := by
    rw [steps, List.getLast?_concat]
  have earlier : path.steps.dropLast = names := by rw [steps, List.dropLast_concat]
  unfold Path.steps at lastStep earlier
  unfold follow
  simp only [List.contains_eq_mem, noZero, decide_false, Bool.false_eq_true, if_false, filled,
    Nat.not_lt.mpr fits, lastStep, earlier]
  rfl

theorem follow_too_long {path : Path} (noZero : '\x00' ∉ path.text.toList)
    (long : longestPath < path.text.utf8ByteSize) : fs.follow path = .error .nameTooLong := by
  have filled : path.text ≠ "" := by
    intro empty
    rw [empty] at long
    exact absurd long (by decide)
  unfold follow
  simp only [List.contains_eq_mem, noZero, decide_false, Bool.false_eq_true, if_false, filled,
    long, if_true]

section Names

variable {path folder : Path} {base : Location} {names : List String}

theorem Leads.follow_eq (leads : Leads fs folder base) {last : String}
    (longer : path.Extends folder (names ++ [last])) (noZero : '\x00' ∉ path.text.toList)
    (proper : ∀ name ∈ names ++ [last], IsPathName name)
    (fits : path.text.utf8ByteSize ≤ longestPath) :
    fs.follow path =
      match fs.enterAll base names with
      | .ok inner => .ok (.entry inner last false)
      | .error error => .error error := by
  have lastProper := proper last (List.mem_append_right _ List.mem_cons_self)
  have noSlash : (Text.split '/' path.text).getLast? ≠ some "" := by
    rw [longer.getLast?_split (by simp), List.getLast?_concat]
    exact fun same => lastProper.1 (Option.some.inj same)
  have start : fs.startOf path = fs.startOf folder := by
    unfold startOf
    rw [longer.absolute]
  have steps := longer.steps_eq proper
  rw [← List.append_assoc] at steps
  rw [FileSystem.follow_eq noZero fits steps, start, enterAll_append, leads.enters]
  simp only [beq_eq_false_iff_ne.mpr noSlash, spotIn, lastProper.2.2.2.1, lastProper.2.2.2.2,
    if_false]

theorem Leads.holder (leads : Leads fs folder base) {front : List Path.Piece}
    (starts : path.Starts folder front names) (noZero : '\x00' ∉ path.text.toList)
    (proper : ∀ name ∈ names, IsPathName name) {inner : Location}
    (entered : fs.enterAll base names = .ok inner) :
    Leads fs (path.holder front names) inner := by
  obtain ⟨dots, only, steps⟩ := starts.exists_dots proper
  have part := (Path.prefix_trimEnd _).trans starts.part
  refine ⟨fun member => noZero ((Path.prefix_ofPieces part).subset member), ?_⟩
  have start : fs.startOf (path.holder front names) = fs.startOf folder := by
    unfold startOf Path.holder
    rw [Path.isAbsolute_ofPieces part, starts.absolute]
  rw [start, ← enterAll_append_dots only, steps, enterAll_append, leads.enters]
  exact entered

theorem zero_not_mem_push (noZero : '\x00' ∉ folder.text.toList) (some_name : names ≠ [])
    (proper : ∀ name ∈ names, IsPathName name) :
    '\x00' ∉ (folder.push (.ofNames names)).text.toList := by
  have inside : '\x00' ∉ (Path.ofNames names).text.toList := by
    rw [Path.toList_ofNames]
    intro member
    rcases Text.mem_join member with slash | ⟨part, partMember, inside⟩
    · exact absurd slash (by decide)
    · obtain ⟨name, nameMember, rfl⟩ := List.mem_map.mp partMember
      exact (proper name nameMember).2.2.1 inside
  rw [Path.toList_push (Path.isAbsolute_ofNames some_name (forall_isComponentName proper))]
  split_ifs
  · simp [noZero, inside]
  · simp [noZero, inside]

theorem size_le_push (folder : Path) (some_name : names ≠ [])
    (proper : ∀ name ∈ names, IsPathName name) :
    folder.text.utf8ByteSize ≤ (folder.push (.ofNames names)).text.utf8ByteSize := by
  unfold Path.push
  rw [Path.isAbsolute_ofNames some_name (forall_isComponentName proper)]
  simp only [Bool.false_eq_true, if_false]
  split_ifs
  · rw [String.utf8ByteSize_append]
    exact Nat.le_add_right _ _
  · rw [String.utf8ByteSize_append, String.utf8ByteSize_append, Nat.add_assoc]
    exact Nat.le_add_right _ _

end Names

end FileSystem

end Stencil
