import Mathlib.Data.List.Pairwise
import Mathlib.Data.List.Perm.Basic
import Stencil.Declaration.Json
import Stencil.Proofs.Json.Inversion

/-!
# Records from what they are given

A record can be written as an object or as a list of its fields.  Either way it
is given trees for some of its keys, each of which changes the record.  If the
fields change different parts of the record, neither the order of what is given
matters, nor do trees that leave a blank record as it is.
-/

namespace Stencil.Json

variable {σ : Type}

/-- Whether two fields of a record have different keys and change different
parts of the record. -/
structure Field.Independent (field other : Field σ) : Prop where
  keys : field.key ≠ other.key
  commute : ∀ {levels tree otherTree change otherChange}, field.read levels tree = .ok change →
    other.read levels otherTree = .ok otherChange →
    ∀ current, otherChange (change current) = change (otherChange current)

theorem fieldOf_read {α : Type} {key : String} {required : Bool} {reader : Reader α}
    {put : α → σ → σ} {levels : Nat} {tree : Tree} {change : σ → σ}
    (read : (fieldOf key required reader put).read levels tree = .ok change) :
    ∃ content, reader levels tree = .ok content ∧ change = put content := by
  obtain ⟨content, contentRead, same⟩ := map_eq_ok.mp read
  exact ⟨content, contentRead, same.symm⟩

theorem thorough_fieldOf {α : Type} {key : String} {required : Bool} {reader : Reader α}
    {put : α → σ → σ} (thorough : reader.Thorough) :
    (fieldOf key required reader put).read.Thorough := by
  intro levels tree change read
  obtain ⟨_, contentRead, -⟩ := fieldOf_read read
  exact thorough contentRead

theorem fieldOf_independent {α β : Type} {key otherKey : String} {required otherRequired : Bool}
    {reader : Reader α} {otherReader : Reader β} {put : α → σ → σ} {otherPut : β → σ → σ}
    (keys : key ≠ otherKey)
    (commute : ∀ content other current,
      otherPut other (put content current) = put content (otherPut other current)) :
    (fieldOf key required reader put).Independent
      (fieldOf otherKey otherRequired otherReader otherPut) where
  keys := keys
  commute := by
    intro levels tree otherTree change otherChange read otherRead current
    obtain ⟨content, -, rfl⟩ := fieldOf_read read
    obtain ⟨other, -, rfl⟩ := fieldOf_read otherRead
    exact commute content other current

namespace Record

variable (record : Record σ)

def field? (key : String) : Option (Field σ) := record.fields.find? (·.key = key)

/-- The trees of a written record by their keys.  The items of a list stand for
the fields in order. -/
def given : Tree → List (String × Tree)
  | .object entries _ => entries.filterMap fun entry => entry.1.read.toOption.map (·, entry.2)
  | .list items _ => (record.fields.map (·.key)).zip items
  | _ => []

/-- A record after a tree is given for a key. -/
def put (levels : Nat) (current : σ) (entry : String × Tree) : σ :=
  match record.field? entry.1 with
  | some field =>
    match field.read levels entry.2 with
    | .ok change => change current
    | .error _ => current
  | none => current

/-- Whether two trees are not given for one field. -/
def Apart (entry other : String × Tree) : Prop :=
  entry.1 = other.1 → record.field? entry.1 = none

/-- Whether what is given makes one record of another: every field can be read and
is given once at most, and each changes the record in turn. -/
structure ReadFrom (levels : Nat) (given : List (String × Tree)) (current result : σ) : Prop where
  readable : ∀ entry ∈ given, ∀ field, record.field? entry.1 = some field →
    ∃ change, field.read levels entry.2 = .ok change
  once : given.Pairwise record.Apart
  result : given.foldl (record.put levels) current = result

/-- Whether two trees are given for one key, and change a record alike. -/
structure Agree (levels : Nat) (entry other : String × Tree) : Prop where
  key : entry.1 = other.1
  change : ∀ {field}, record.field? entry.1 = some field → ∀ {change otherChange},
    field.read levels entry.2 = .ok change → field.read levels other.2 = .ok otherChange →
      change = otherChange

variable {record} {levels : Nat}

theorem put_of_read {current : σ} {entry : String × Tree} {field : Field σ} {change : σ → σ}
    (known : record.field? entry.1 = some field) (read : field.read levels entry.2 = .ok change) :
    record.put levels current entry = change current := by
  simp only [put, known, read]

theorem put_of_unknown {current : σ} {entry : String × Tree}
    (unknown : record.field? entry.1 = none) : record.put levels current entry = current := by
  simp only [put, unknown]

theorem given_object_cons {key : Quoted} {name : String} (read : key.read = .ok name) (tree : Tree)
    (rest : List (Quoted × Tree)) (ending : Ending) :
    record.given (.object ((key, tree) :: rest) ending) =
      (name, tree) :: record.given (.object rest ending) := by
  simp [given, read, Except.toOption]

theorem given_object_cons_of_error {key : Quoted} {fault : Fault} (read : key.read = .error fault)
    (tree : Tree) (rest : List (Quoted × Tree)) (ending : Ending) :
    record.given (.object ((key, tree) :: rest) ending) = record.given (.object rest ending) := by
  simp [given, read, Except.toOption]

theorem given_object_perm {entries first second : List (Quoted × Tree)}
    (order : entries.Perm (first ++ second)) (ending : Ending) :
    (record.given (.object entries ending)).Perm
      (record.given (.object first ending) ++ record.given (.object second ending)) := by
  have permuted := order.filterMap fun entry => entry.1.read.toOption.map (·, entry.2)
  rwa [List.filterMap_append] at permuted

theorem mem_of_mem_given {entries : List (Quoted × Tree)} {ending : Ending}
    {entry : String × Tree} (member : entry ∈ record.given (.object entries ending)) :
    ∃ key, (key, entry.2) ∈ entries ∧ key.read = .ok entry.1 := by
  obtain ⟨⟨key, tree⟩, written, named⟩ := List.mem_filterMap.mp member
  cases read : key.read with
  | error fault => simp [read, Except.toOption] at named
  | ok name =>
    simp only [read, Except.toOption, Option.map_some, Option.some.injEq] at named
    subst named
    exact ⟨key, written, read⟩

theorem given_list_append (first second : List Tree) (ending : Ending) :
    record.given (.list (first ++ second) ending) = record.given (.list first ending) ++
      ((record.fields.map (·.key)).drop first.length).zip second := by
  unfold given
  generalize record.fields.map (·.key) = keys
  induction first generalizing keys with
  | nil => simp
  | cons item rest ih =>
    cases keys with
    | nil => simp
    | cons key keys => simpa using ih keys

/-! ## Reading is changing -/

namespace ReadFrom

variable {entry : String × Tree} {rest : List (String × Tree)} {current result : σ}

theorem cons_unknown (unknown : record.field? entry.1 = none)
    (later : record.ReadFrom levels rest current result) :
    record.ReadFrom levels (entry :: rest) current result where
  readable := by
    intro other member field known
    cases List.mem_cons.mp member with
    | inl same =>
      rw [same, unknown] at known
      cases known
    | inr member => exact later.readable other member field known
  once := List.pairwise_cons.mpr ⟨fun _ _ _ => unknown, later.once⟩
  result := by rw [List.foldl_cons, put_of_unknown unknown, later.result]

theorem cons_known {field : Field σ} {change : σ → σ}
    (known : record.field? entry.1 = some field) (read : field.read levels entry.2 = .ok change)
    (fresh : ∀ other ∈ rest, entry.1 ≠ other.1)
    (later : record.ReadFrom levels rest (change current) result) :
    record.ReadFrom levels (entry :: rest) current result where
  readable := by
    intro other member otherField otherKnown
    cases List.mem_cons.mp member with
    | inl same =>
      rw [same, known] at otherKnown
      cases otherKnown
      exact ⟨change, same ▸ read⟩
    | inr member => exact later.readable other member otherField otherKnown
  once := by
    refine List.pairwise_cons.mpr ⟨?_, later.once⟩
    exact fun other member same => absurd same (fresh other member)
  result := by rw [List.foldl_cons, put_of_read known read, later.result]

end ReadFrom

/-- The entries of an object change a record as what they give does, and none of
their fields was seen before. -/
private theorem readEntries_given {entries : List (Quoted × Tree)} (ending : Ending)
    {current result : σ} {seen keys : List String}
    (read : record.readEntries levels entries current seen = .ok (result, keys)) :
    record.ReadFrom levels (record.given (.object entries ending)) current result ∧
      ∀ entry ∈ record.given (.object entries ending), entry.1 ∈ seen →
        record.field? entry.1 = none := by
  induction entries generalizing current seen with
  | nil =>
    cases read
    exact ⟨⟨by simp [given], by simp [given], rfl⟩, by simp [given]⟩
  | cons entry rest ih =>
    obtain ⟨key, tree⟩ := entry
    obtain ⟨name, keyRead, read⟩ := bind_eq_ok.mp read
    rw [given_object_cons keyRead]
    cases known : record.fields.find? (·.key = name) with
    | none =>
      simp only [known] at read
      obtain ⟨_, -, read⟩ := bind_eq_ok.mp read
      obtain ⟨later, apart⟩ := ih read
      exact ⟨.cons_unknown known later,
        List.forall_mem_cons.mpr ⟨fun _ => known, apart⟩⟩
    | some field =>
      simp only [known] at read
      by_cases repeated : seen.contains name = true
      · rw [if_pos repeated] at read
        cases read
      · rw [if_neg repeated] at read
        obtain ⟨change, fieldRead, read⟩ := bind_eq_ok.mp read
        obtain ⟨later, apart⟩ := ih read
        have fresh : ∀ other ∈ record.given (.object rest ending), name ≠ other.1 := by
          intro other member same
          have unknown := apart other member (same ▸ List.mem_cons_self)
          rw [← same] at unknown
          exact nomatch known.symm.trans unknown
        refine ⟨.cons_known known fieldRead fresh later, List.forall_mem_cons.mpr ⟨?_, ?_⟩⟩
        · exact fun member => absurd (List.contains_iff_mem.mpr member) repeated
        · exact fun other member before =>
            apart other member (List.mem_cons_of_mem name before)

theorem field?_key (independent : record.fields.Pairwise Field.Independent) {field : Field σ}
    (member : field ∈ record.fields) : record.field? field.key = some field := by
  unfold field?
  generalize record.fields = fields at independent member
  induction fields with
  | nil => exact nomatch member
  | cons first rest ih =>
    obtain ⟨apart, others⟩ := List.pairwise_cons.mp independent
    cases List.mem_cons.mp member with
    | inl same => simp [same]
    | inr later =>
      rw [List.find?_cons_of_neg (by simpa using (apart field later).keys)]
      exact ih others later

private theorem readItems_given (independent : record.fields.Pairwise Field.Independent)
    {ending : Ending} {fields : List (Field σ)} (left : fields.Sublist record.fields)
    {items : List Tree} {index : Nat} {current result : σ}
    (read : record.readItems levels ending fields items index current = .ok result) :
    record.ReadFrom levels ((fields.map (·.key)).zip items) current result := by
  induction fields generalizing items index current with
  | nil =>
    obtain ⟨_, -, read⟩ := bind_eq_ok.mp read
    cases read
    exact ⟨by simp, by simp, rfl⟩
  | cons first rest ih =>
    have firstKnown := field?_key independent (left.subset List.mem_cons_self)
    have restLeft := (List.sublist_cons_self first rest).trans left
    cases items with
    | nil =>
      obtain ⟨_, -, read⟩ := bind_eq_ok.mp read
      by_cases required : first.required = true
      · simp [required] at read
      · simp only [required, Bool.false_eq_true, if_false] at read
        simpa using ih restLeft read
    | cons item more =>
      obtain ⟨change, firstRead, read⟩ := bind_eq_ok.mp read
      apply ReadFrom.cons_known firstKnown firstRead _ (ih restLeft read)
      intro other member same
      obtain ⟨field, later, key⟩ := List.mem_map.mp (List.of_mem_zip member).1
      exact ((List.pairwise_cons.mp (independent.sublist left)).1 field later).keys
        (same.trans key.symm)

/-- A record that is read is what the tree gives, put into a blank one. -/
theorem readFrom_given (independent : record.fields.Pairwise Field.Independent) {tree : Tree}
    {result : σ} (read : record.reader levels tree = .ok result) :
    ∃ inner, enter levels = .ok inner ∧
      record.ReadFrom inner (record.given tree) record.blank result := by
  cases tree with
  | object entries ending =>
    obtain ⟨inner, entered, read⟩ := bind_eq_ok.mp read
    obtain ⟨⟨final, keys⟩, entriesRead, read⟩ := bind_eq_ok.mp read
    obtain ⟨_, -, read⟩ := bind_eq_ok.mp read
    have complete : final = result := by
      cases missing : record.missing? keys with
      | none =>
        rw [missing] at read
        exact Except.ok.inj read
      | some key => simp [missing] at read
    exact ⟨inner, entered, complete ▸ (readEntries_given ending entriesRead).1⟩
  | list items ending =>
    obtain ⟨inner, entered, read⟩ := bind_eq_ok.mp read
    exact ⟨inner, entered, readItems_given independent (List.Sublist.refl _) read⟩
  | null | bool _ | number _ | text _ | broken _ => cases read

/-! ## What is gone over -/

section Thorough

variable (each : ∀ field ∈ record.fields, field.read.Thorough) {levels : Nat}

include each

private theorem wellFormed_of_readEntries {entries : List (Quoted × Tree)} {current : σ}
    {seen : List String} {read : σ × List String}
    (entriesRead : record.readEntries levels entries current seen = .ok read) :
    WellFormedFields entries := by
  induction entries generalizing current seen with
  | nil => trivial
  | cons entry rest ih =>
    obtain ⟨key, tree⟩ := entry
    obtain ⟨name, keyRead, entriesRead⟩ := bind_eq_ok.mp entriesRead
    have closed := Quoted.closed_of_read keyRead
    cases known : record.fields.find? (·.key = name) with
    | none =>
      simp only [known] at entriesRead
      obtain ⟨_, skipped, restRead⟩ := bind_eq_ok.mp entriesRead
      exact ⟨closed, wellFormed_of_skip tree skipped, ih restRead⟩
    | some field =>
      simp only [known] at entriesRead
      by_cases repeated : seen.contains name = true
      · rw [if_pos repeated] at entriesRead
        cases entriesRead
      · rw [if_neg repeated] at entriesRead
        obtain ⟨_, fieldRead, restRead⟩ := bind_eq_ok.mp entriesRead
        exact ⟨closed, each field (List.mem_of_find?_eq_some known) fieldRead, ih restRead⟩

omit each in
theorem closed_of_closesItems {more : List Tree} {ending : Ending}
    (closes : closesItems more ending = .ok ()) : more = [] ∧ ending = .closed := by
  cases more with
  | nil => cases ending <;> first | exact ⟨rfl, rfl⟩ | cases closes
  | cons _ _ => cases closes

private theorem wellFormed_of_readItems {ending : Ending} {fields : List (Field σ)}
    (left : fields ⊆ record.fields) {items : List Tree} {index : Nat} {current result : σ}
    (read : record.readItems levels ending fields items index current = .ok result) :
    WellFormedItems items ∧ ending = .closed := by
  induction fields generalizing items index current with
  | nil =>
    obtain ⟨_, closes, -⟩ := bind_eq_ok.mp read
    obtain ⟨rfl, closed⟩ := closed_of_closesItems closes
    exact ⟨trivial, closed⟩
  | cons first rest ih =>
    obtain ⟨known, restLeft⟩ := List.cons_subset.mp left
    cases items with
    | nil =>
      obtain ⟨_, closes, -⟩ := bind_eq_ok.mp read
      exact ⟨trivial, Ending.eq_closed_of_list closes⟩
    | cons item more =>
      obtain ⟨_, firstRead, read⟩ := bind_eq_ok.mp read
      obtain ⟨others, closed⟩ := ih restLeft read
      exact ⟨⟨each first known firstRead, others⟩, closed⟩

theorem thorough : record.reader.Thorough := by
  intro levels tree result read
  cases tree with
  | object entries ending =>
    obtain ⟨inner, -, read⟩ := bind_eq_ok.mp read
    obtain ⟨_, entriesRead, read⟩ := bind_eq_ok.mp read
    obtain ⟨_, closes, -⟩ := bind_eq_ok.mp read
    exact ⟨wellFormed_of_readEntries each entriesRead, Ending.eq_closed_of_object closes⟩
  | list items ending =>
    obtain ⟨inner, -, read⟩ := bind_eq_ok.mp read
    exact wellFormed_of_readItems each (List.Subset.refl _) read
  | null | bool _ | number _ | text _ | broken _ => cases read

end Thorough

/-! ## What does not matter -/

instance : Std.Symm (@Field.Independent σ) where
  symm _ _ independent :=
    ⟨independent.keys.symm, fun read otherRead current =>
      (independent.commute otherRead read current).symm⟩

instance : Std.Symm record.Apart where
  symm _ _ apart same := same ▸ apart same.symm

private theorem put_comm (independent : record.fields.Pairwise Field.Independent)
    {entry other : String × Tree} (once : record.Apart entry other) (current : σ) :
    record.put levels (record.put levels current entry) other =
      record.put levels (record.put levels current other) entry := by
  cases known : record.field? entry.1 with
  | none => rw [put_of_unknown known, put_of_unknown known]
  | some field =>
    cases otherKnown : record.field? other.1 with
    | none => rw [put_of_unknown otherKnown, put_of_unknown otherKnown]
    | some otherField =>
      have key : field.key = entry.1 := by simpa using List.find?_some known
      have otherKey : otherField.key = other.1 := by simpa using List.find?_some otherKnown
      have apart : field ≠ otherField := by
        intro same
        have unknown := once (key.symm.trans ((congrArg Field.key same).trans otherKey))
        exact nomatch known.symm.trans unknown
      have independent := independent.forall (List.mem_of_find?_eq_some known)
        (List.mem_of_find?_eq_some otherKnown) apart
      simp only [put, known, otherKnown]
      cases read : field.read levels entry.2 with
      | error fault => rfl
      | ok change =>
        cases otherRead : otherField.read levels other.2 with
        | error fault => rfl
        | ok otherChange => exact independent.commute read otherRead current

namespace ReadFrom

variable {given others kept omitted : List (String × Tree)} {current result other : σ}

theorem perm (independent : record.fields.Pairwise Field.Independent)
    (read : record.ReadFrom levels given current result) (order : given.Perm others) :
    record.ReadFrom levels others current result where
  readable entry member := read.readable entry (order.mem_iff.mpr member)
  once := (order.pairwise_iff fun apart => symm_of record.Apart apart).mp read.once
  result := by
    rw [← read.result]
    refine (order.foldl_eq' ?_ current).symm
    intro entry member other otherMember current
    by_cases same : entry = other
    · rw [same]
    · exact put_comm independent (read.once.forall member otherMember same) current

private theorem foldl_put_blank (blank : ∀ entry ∈ omitted,
    record.put levels record.blank entry = record.blank) :
    omitted.foldl (record.put levels) record.blank = record.blank := by
  induction omitted with
  | nil => rfl
  | cons entry rest ih =>
    obtain ⟨first, others⟩ := List.forall_mem_cons.mp blank
    rw [List.foldl_cons, first, ih others]

/-- What leaves a blank record as it is can be left out. -/
theorem omit_blank (independent : record.fields.Pairwise Field.Independent)
    (read : record.ReadFrom levels (kept ++ omitted) record.blank result)
    (blank : ∀ entry ∈ omitted, record.put levels record.blank entry = record.blank) :
    record.ReadFrom levels kept record.blank result where
  readable entry member := read.readable entry (List.mem_append_left omitted member)
  once := (List.pairwise_append.mp read.once).1
  result := by
    have first := (read.perm independent List.perm_append_comm).result
    rwa [List.foldl_append, foldl_put_blank blank] at first

theorem tail {entry : String × Tree} {rest : List (String × Tree)}
    (read : record.ReadFrom levels (entry :: rest) current result) :
    record.ReadFrom levels rest (record.put levels current entry) result where
  readable other member := read.readable other (List.mem_cons_of_mem entry member)
  once := (List.pairwise_cons.mp read.once).2
  result := read.result

/-- Records are the same if each field makes the same of what they are given. -/
theorem unique (read : record.ReadFrom levels given current result)
    (otherRead : record.ReadFrom levels others current other)
    (agree : List.Forall₂ (record.Agree levels) given others) : result = other := by
  induction agree generalizing current with
  | nil => exact read.result.symm.trans otherRead.result
  | @cons entry otherEntry rest otherRest first _ ih =>
    have same : record.put levels current entry = record.put levels current otherEntry := by
      cases known : record.field? entry.1 with
      | none => rw [put_of_unknown known, put_of_unknown (first.key ▸ known)]
      | some field =>
        have otherKnown : record.field? otherEntry.1 = some field := first.key ▸ known
        obtain ⟨change, entryRead⟩ := read.readable entry List.mem_cons_self field known
        obtain ⟨otherChange, otherEntryRead⟩ :=
          otherRead.readable otherEntry List.mem_cons_self field otherKnown
        rw [put_of_read known entryRead, put_of_read otherKnown otherEntryRead,
          first.change known entryRead otherEntryRead]
    exact ih read.tail (same ▸ otherRead.tail)

end ReadFrom

/-- Two written records are the same if, in some order, they are given trees that
agree and others that leave a blank record as it is. -/
theorem reader_unique (independent : record.fields.Pairwise Field.Independent)
    {tree otherTree : Tree} {kept otherKept omitted otherOmitted : List (String × Tree)}
    (order : (record.given tree).Perm (kept ++ omitted))
    (otherOrder : (record.given otherTree).Perm (otherKept ++ otherOmitted))
    (agree : ∀ levels, List.Forall₂ (record.Agree levels) kept otherKept)
    (blank : ∀ levels, ∀ entry ∈ omitted, record.put levels record.blank entry = record.blank)
    (otherBlank : ∀ levels, ∀ entry ∈ otherOmitted,
      record.put levels record.blank entry = record.blank)
    {result other : σ} (read : record.reader levels tree = .ok result)
    (otherRead : record.reader levels otherTree = .ok other) : result = other := by
  obtain ⟨inner, entered, read⟩ := readFrom_given independent read
  obtain ⟨_, otherEntered, otherRead⟩ := readFrom_given independent otherRead
  cases Except.ok.inj (entered.symm.trans otherEntered)
  have keptRead := (read.perm independent order).omit_blank independent (blank inner)
  have otherKeptRead :=
    (otherRead.perm independent otherOrder).omit_blank independent (otherBlank inner)
  exact keptRead.unique otherKeptRead (agree inner)

end Record

end Stencil.Json
