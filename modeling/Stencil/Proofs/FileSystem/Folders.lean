import Stencil.Proofs.FileSystem.Tidiness

/-!
# Making folders below a tidy one

Making the missing folders of a path goes up from the last one until one of them can
be made, and then down again.  Below a tidy folder this changes no file, and it ends
with the last folder there unless a name or the path is too long.
-/

namespace Stencil

namespace FileSystem

/-- Folders were added, and nothing else changed. -/
structure Widens (before after : FileSystem) (base : Location) : Prop where
  tidy : Tidy after base
  keeps : Keeps before after
  files : ∀ location, after.fileAt? location = before.fileAt? location

theorem Widens.trans {before middle after : FileSystem} {base : Location}
    (first : Widens before middle base) (second : Widens middle after base) :
    Widens before after base :=
  ⟨second.tidy, first.keeps.trans second.keeps, fun location =>
    (second.files location).trans (first.files location)⟩

section

variable {fs : FileSystem} {base : Location} {path folder : Path} {names : List String}
  {name : String}

theorem Tidy.widens_refl (tidy : Tidy fs base) : Widens fs fs base :=
  ⟨tidy, .refl fs, fun _ => rfl⟩

theorem Tidy.widens_put (tidy : Tidy fs base) (found : fs.itemAt? (base ++ names) = some .folder)
    (short : name.utf8ByteSize ≤ longestName) (dotless : '.' ∉ name.toList)
    (missing : fs.itemAt? (base ++ (names ++ [name])) = none) :
    Widens fs (fs.put (base ++ (names ++ [name])) .folder) base := by
  have named : base ++ (names ++ [name]) ≠ [] := by simp
  have changed := itemAt?_put fs named .folder
  have keeps : Keeps fs (fs.put (base ++ (names ++ [name])) .folder) :=
    .put named (by simp [missing]) _
  refine ⟨tidy.put keeps found short (by simp [dotless]) changed, keeps, ?_⟩
  intro location
  unfold fileAt?
  rw [changed]
  by_cases same : location = base ++ (names ++ [name])
  · rw [if_pos same, same, missing]
  · rw [if_neg same]

/-- Making sure of a folder below a tidy one: it is there then, or the folder around it
is missing, or something is too long. -/
theorem Tidy.ensureFolder_cases (tidy : Tidy fs base) (leads : Leads fs folder base)
    (longer : path.Extends folder (names ++ [name])) (noZero : '\x00' ∉ path.text.toList)
    (proper : ∀ other ∈ names ++ [name], IsPathName other)
    (dotless : ∀ other ∈ names ++ [name], '.' ∉ other.toList) :
    (∃ after, ensureFolder path fs = (.ok (), after) ∧ Widens fs after base ∧
        after.itemAt? (base ++ (names ++ [name])) = some .folder) ∨
      (ensureFolder path fs = (.error .notFound, fs) ∧
        fs.itemAt? (base ++ names) ≠ some .folder) ∨
      (ensureFolder path fs = (.error .nameTooLong, fs) ∧
        (longestPath < path.text.utf8ByteSize ∨
          ∃ other ∈ names ++ [name], longestName < other.utf8ByteSize)) := by
  by_cases long : longestPath < path.text.utf8ByteSize
  · have follows : fs.follow path = _ := follow_too_long noZero long
    exact .inr (.inr ⟨ensureFolder_of_follow follows (by decide), .inl long⟩)
  have fits := Nat.le_of_not_lt long
  have properFront : ∀ other ∈ names, IsPathName other :=
    fun other member => proper other (List.mem_append_left _ member)
  have follows := leads.follow_eq longer noZero proper fits
  rcases tidy.enterAll_cases properFront
      (fun other member => dotless other (List.mem_append_left _ member)) with
    ⟨entered, found⟩ | missing | ⟨tooLong, other, member, otherLong⟩
  · by_cases nameLong : longestName < name.utf8ByteSize
    · have refused : ensureFolder path fs = (.error .nameTooLong, fs) := by
        rw [entered] at follows
        unfold ensureFolder makeFolder lookup?
        simp [follows, nameLong]
      exact .inr (.inr ⟨refused, .inr ⟨name, by simp, nameLong⟩⟩)
    · have short := Nat.le_of_not_lt nameLong
      have points := tidy.points leads longer noZero proper fits short found
      have nameDotless := dotless name (by simp)
      cases there : fs.itemAt? (base ++ (names ++ [name])) with
      | none =>
        have made := points.ensureFolder_eq (by
          rw [List.append_assoc]
          exact fileAt?_eq_none_iff.mpr (.inl there))
        rw [List.append_assoc, if_pos there] at made
        refine .inl ⟨_, made, tidy.widens_put found short nameDotless there, ?_⟩
        rw [itemAt?_put _ (by simp), if_pos rfl]
      | some item =>
        obtain rfl := (tidy.dotted there).mpr nameDotless
        have made := points.ensureFolder_eq (by
          rw [List.append_assoc]
          exact fileAt?_eq_none_iff.mpr (.inr there))
        rw [List.append_assoc, if_neg (by simp [there])] at made
        exact .inl ⟨fs, made, tidy.widens_refl, there⟩
  · rw [missing] at follows
    refine .inr (.inl ⟨ensureFolder_of_follow follows (by decide), fun found => ?_⟩)
    rw [tidy.enterAll_eq properFront found] at missing
    cases missing
  · rw [tooLong] at follows
    exact .inr (.inr ⟨ensureFolder_of_follow follows (by decide),
      .inr ⟨other, List.mem_append_left _ member, otherLong⟩⟩)

/-- Making sure of all folders that names lead through. -/
theorem Tidy.ensureNested_cases {front : List Path.Piece} (tidy : Tidy fs base)
    (leads : Leads fs folder base) (starts : path.Starts folder front names)
    (noZero : '\x00' ∉ path.text.toList) (proper : ∀ other ∈ names, IsPathName other)
    (dotless : ∀ other ∈ names, '.' ∉ other.toList) :
    ∃ after, Widens fs after base ∧
      ((ensureFolders (path.holder front names) fs = (.ok (), after) ∧
          after.itemAt? (base ++ names) = some .folder) ∨
        (ensureFolders (path.holder front names) fs = (.error .nameTooLong, after) ∧
          (longestPath < path.text.utf8ByteSize ∨
            ∃ other ∈ names, longestName < other.utf8ByteSize))) := by
  unfold ensureFolders
  rw [Path.holder, Path.withFolders_ofPieces starts.part]
  induction names using List.reverseRecOn with
  | nil =>
    refine ⟨fs, tidy.widens_refl, ?_⟩
    have holderLeads := leads.holder starts noZero proper rfl
    rw [List.append_nil, ← Path.withFolders_ofPieces starts.part]
    rcases holderLeads.ensureFolders_cases with made | ⟨long, refused⟩
    · exact .inl ⟨made, tidy.root⟩
    · refine .inr ⟨refused, .inl (Nat.lt_of_lt_of_le long ?_)⟩
      exact Path.size_ofPieces_le ((Path.prefix_trimEnd _).trans starts.part)
  | append_singleton names name ih =>
    have longer := starts.extends_ofPieces (by simp)
    have partNoZero : '\x00' ∉
        (Path.ofPieces path.isAbsolute (front ++ (names ++ [name]).map Path.mark)).text.toList :=
      fun member => noZero ((Path.prefix_ofPieces starts.part).subset member)
    have size := Path.size_ofPieces_le starts.part
    have pieces : front ++ (names ++ [name]).map Path.mark =
        (front ++ names.map Path.mark) ++ [Path.mark name] := by
      rw [List.map_append, ← List.append_assoc]
      rfl
    rw [pieces] at longer partNoZero size ⊢
    rw [Path.foldersBack_concat, ensureNested]
    generalize Path.ofPieces path.isAbsolute (front ++ names.map Path.mark ++ [Path.mark name]) =
      inner at *
    rcases tidy.ensureFolder_cases leads longer partNoZero proper dotless with
      ⟨after, made, widens, there⟩ | ⟨missing, -⟩ | ⟨refused, long⟩
    · exact ⟨after, widens, .inl ⟨by simp only [made], there⟩⟩
    · obtain ⟨middle, widens, ended⟩ := ih starts.shorter
        (fun other member => proper other (List.mem_append_left _ member))
        (fun other member => dotless other (List.mem_append_left _ member))
      simp only [missing, Action.andThen]
      rcases ended with ⟨outer, found⟩ | ⟨outer, long⟩
      · simp only [outer]
        rcases widens.tidy.ensureFolder_cases (widens.keeps.leads leads) longer partNoZero proper
            dotless with
          ⟨after, made, later, there⟩ | ⟨-, absent⟩ | ⟨refused, long⟩
        · exact ⟨after, widens.trans later, .inl ⟨made, there⟩⟩
        · exact absurd found absent
        · exact ⟨middle, widens, .inr ⟨refused, long.imp_left (Nat.lt_of_lt_of_le · size)⟩⟩
      · simp only [outer]
        refine ⟨middle, widens, .inr ⟨rfl, long.imp_right ?_⟩⟩
        rintro ⟨other, member, otherLong⟩
        exact ⟨other, List.mem_append_left _ member, otherLong⟩
    · refine ⟨fs, tidy.widens_refl, .inr ⟨by simp only [refused], ?_⟩⟩
      exact long.imp_left (Nat.lt_of_lt_of_le · size)

end

end FileSystem

end Stencil
