import Stencil.Proofs.Toml.Quoted
import Stencil.Toml.Document

/-!
# Printed tables are read back

A printed document is a sequence of tables, each with its header and one line for each
entry, with an empty line between tables.  `Lines` relates such a text to its statements,
whatever number of lines its reader is allowed.  Statements with distinct keys build the
tables that were printed.
-/

namespace Stencil.Toml

/-- A text on a line stands for a node: it is read up to the end of the line. -/
structure Spells (written : List Char) (node : Node) : Prop where
  starts : ∃ first more, written = first :: more ∧ isSpace first = false
  reads : ∀ rest, node? (written ++ '\n' :: rest) = some (node, '\n' :: rest)

theorem spells_text (content : String) : Spells (Quoted.write content).toList (.text content) := by
  have written : (Quoted.write content).toList =
      '"' :: (content.toList.flatMap Quoted.writtenChar ++ ['"']) := by
    rw [Quoted.write, String.toList_ofList, List.cons_append]
  rw [written]
  constructor
  case starts => exact ⟨_, _, rfl, by decide⟩
  case reads =>
    intro rest
    rw [List.cons_append, List.append_assoc]
    have read := Quoted.anyLines_write content.toList (show '\n' ≠ '"' by decide) rest
    show (Quoted.anyLines ('"' :: (content.toList.flatMap Quoted.writtenChar ++
      '"' :: '\n' :: rest))).map (fun text => (Node.text (String.ofList text.1), text.2)) =
        some (.text content, '\n' :: rest)
    rw [read, Option.map_some, String.ofList_toList]

theorem spells_bool (value : Bool) :
    Spells (if value then "true" else "false").toList (.bool value) := by
  cases value with
  | true => exact ⟨⟨_, _, rfl, by decide⟩, fun _ => rfl⟩
  | false => exact ⟨⟨_, _, rfl, by decide⟩, fun _ => rfl⟩

/-- A key that is written without quotes. -/
structure IsBareKey (key : String) : Prop where
  filled : key.toList ≠ []
  bare : ∀ c ∈ key.toList, isBare c = true

instance (key : String) : Decidable (IsBareKey key) :=
  decidable_of_iff (key.toList ≠ [] ∧ key.toList.all isBare = true)
    ⟨fun both => ⟨both.1, List.all_eq_true.mp both.2⟩,
      fun named => ⟨named.filled, List.all_eq_true.mpr named.bare⟩⟩

/-- The characters that a line with a bare key cannot start with, because they start
something else. -/
def lineMarks : List Char := ['\n', '\r', '#', ' ', '\t', '[', '"', '\'']

theorem IsBareKey.exists_first {key : String} (named : IsBareKey key) :
    ∃ first more, key.toList = first :: more ∧ first ∉ lineMarks := by
  obtain ⟨first, more, whole⟩ := List.exists_cons_of_ne_nil named.filled
  refine ⟨first, more, whole, fun mark => ?_⟩
  have bare : isBare first = true := named.bare first (whole ▸ List.mem_cons_self)
  have none_bare : lineMarks.all (fun c => !isBare c) = true := by decide
  have not_bare := List.all_eq_true.mp none_bare first mark
  rw [bare] at not_bare
  cases not_bare

theorem keyPart?_bare {key : String} (named : IsBareKey key) {next : Char} {rest : List Char}
    (ends : isBare next = false) :
    keyPart? (key.toList ++ next :: rest) = some (key, next :: rest) := by
  obtain ⟨first, more, whole, plain⟩ := named.exists_first
  simp only [lineMarks, List.mem_cons, List.not_mem_nil, or_false, not_or] at plain
  obtain ⟨-, -, -, -, -, -, noQuote, noSingle⟩ := plain
  have unquoted : Quoted.oneLine (key.toList ++ next :: rest) = none := by
    rw [whole, List.cons_append, Quoted.oneLine.eq_def]
    split <;> simp_all
  have taken : (key.toList ++ next :: rest).takeWhile isBare = key.toList := by
    rw [List.takeWhile_append_of_pos named.bare, List.takeWhile_cons_of_neg (by simp [ends]),
      List.append_nil]
  have dropped : (key.toList ++ next :: rest).dropWhile isBare = next :: rest := by
    rw [List.dropWhile_append_of_pos named.bare, List.dropWhile_cons_of_neg (by simp [ends])]
  unfold keyPart?
  rw [unquoted, taken, dropped]
  simp [whole, ← String.toList_inj]

theorem skipSpace_bare {key : String} (named : IsBareKey key) (rest : List Char) :
    skipSpace (key.toList ++ rest) = key.toList ++ rest := by
  obtain ⟨first, more, whole, plain⟩ := named.exists_first
  simp only [lineMarks, List.mem_cons, List.not_mem_nil, or_false, not_or] at plain
  obtain ⟨-, -, -, noBlank, noTab, -, -, -⟩ := plain
  rw [whole, List.cons_append, skipSpace,
    List.dropWhile_cons_of_neg (by simp [isSpace, noBlank, noTab])]

/-- A bare key is a path of one key, unless a dot follows. -/
theorem key?_bare {key : String} (named : IsBareKey key) {next : Char} {rest : List Char}
    (ends : isBare next = false) (single : (skipSpace (next :: rest)).head? ≠ some '.') :
    key? (key.toList ++ next :: rest) = some ([key], skipSpace (next :: rest)) := by
  unfold key? deepest
  rw [keyWithin?, skipSpace_bare named, keyPart?_bare named ends]
  simp only [Option.bind_eq_bind, Option.bind_some]
  split
  · rename_i more dotted
    rw [dotted] at single
    exact absurd rfl single
  · rfl

/-- Printed lines and their statements. -/
inductive Lines : List Char → List Statement → Prop where
  | nil : Lines [] []
  | blank {rest : List Char} {statements : List Statement} :
      Lines rest statements → Lines ('\n' :: rest) statements
  | statement {chars rest : List Char} {statement : Statement} {statements : List Statement} :
      nextLine? false chars = none → statement? (skipSpace chars) = some (statement, rest) →
      rest.length < chars.length → Lines rest statements → Lines chars (statement :: statements)

theorem Lines.statementsWithin?_eq {chars : List Char} {statements : List Statement}
    (lines : Lines chars statements) {allowed : Nat} (enough : chars.length ≤ allowed) :
    statementsWithin? allowed chars = some statements := by
  induction lines generalizing allowed with
  | nil => cases allowed <;> rfl
  | blank _ ih =>
      cases allowed with
      | zero => exact absurd enough (by simp)
      | succ allowed =>
          rw [List.length_cons] at enough
          exact ih (Nat.le_of_succ_le_succ enough)
  | @statement chars rest statement statements filled read shorter _ ih =>
      cases chars with
      | nil => exact absurd shorter (by simp)
      | cons first more =>
          cases allowed with
          | zero => exact absurd enough (by simp)
          | succ allowed =>
              have others := @ih allowed (by omega)
              rw [statementsWithin?, filled]
              simp only [read, others, Option.bind_eq_bind, Option.bind_some, Option.pure_def]
              simp

theorem Lines.header {key : String} (named : IsBareKey key) {rest : List Char}
    {statements : List Statement} (lines : Lines rest statements) :
    Lines ('[' :: (key.toList ++ ']' :: '\n' :: rest)) (.table [key] :: statements) := by
  apply Lines.statement _ _ _ lines
  · rfl
  · obtain ⟨first, more, whole, plain⟩ := named.exists_first
    simp only [lineMarks, List.mem_cons, List.not_mem_nil, or_false, not_or] at plain
    have path : key? (key.toList ++ ']' :: '\n' :: rest) = some ([key], ']' :: '\n' :: rest) :=
      key?_bare named (by decide) (by simp [skipSpace, isSpace])
    show statement? ('[' :: (key.toList ++ ']' :: '\n' :: rest)) = _
    rw [whole] at path ⊢
    rw [statement?.eq_def]
    split <;> simp_all [nextLine?]
  · simp only [List.length_cons, List.length_append]
    omega

theorem statement?_entry {key : String} (named : IsBareKey key) {written : List Char}
    {node : Node} (spelled : Spells written node) (rest : List Char) :
    statement? (key.toList ++ ' ' :: '=' :: ' ' :: (written ++ '\n' :: rest)) =
      some (.entry [key] node, rest) := by
  obtain ⟨first, more, whole, plain⟩ := named.exists_first
  simp only [lineMarks, List.mem_cons, List.not_mem_nil, or_false, not_or] at plain
  obtain ⟨-, -, -, -, -, noBracket, -, -⟩ := plain
  have path := @key?_bare key named ' ' ('=' :: ' ' :: (written ++ '\n' :: rest)) (by decide)
    (by simp [skipSpace, isSpace])
  have equals : skipSpace (' ' :: '=' :: ' ' :: (written ++ '\n' :: rest)) =
      '=' :: ' ' :: (written ++ '\n' :: rest) := by simp [skipSpace, isSpace]
  have content : skipSpace (' ' :: (written ++ '\n' :: rest)) = written ++ '\n' :: rest := by
    obtain ⟨start, others, begins, filled⟩ := spelled.starts
    rw [begins, skipSpace, List.dropWhile_cons_of_pos (by decide), List.cons_append,
      List.dropWhile_cons_of_neg (by simp [filled])]
  rw [whole, List.cons_append] at path ⊢
  rw [statement?.eq_def]
  split
  · simp_all
  · simp_all
  · rw [path]
    simp only [equals, content, spelled.reads rest, Option.bind_eq_bind, Option.bind_some]
    rfl

theorem Lines.entry {key : String} (named : IsBareKey key) {written : List Char} {node : Node}
    (spelled : Spells written node) {rest : List Char} {statements : List Statement}
    (lines : Lines rest statements) :
    Lines (key.toList ++ ' ' :: '=' :: ' ' :: (written ++ '\n' :: rest))
      (.entry [key] node :: statements) := by
  apply Lines.statement _ _ _ lines
  · obtain ⟨first, more, whole, plain⟩ := named.exists_first
    simp only [lineMarks, List.mem_cons, List.not_mem_nil, or_false, not_or] at plain
    obtain ⟨noLine, noFeed, noComment, noBlank, noTab, -, -, -⟩ := plain
    have filled : isSpace first = false := by simp [isSpace, noBlank, noTab]
    rw [whole, List.cons_append, nextLine?.eq_def]
    split <;> simp_all
  · rw [skipSpace_bare named, statement?_entry named spelled rest]
  · simp only [List.length_cons, List.length_append]
    omega

/-- The statements of a table with a header. -/
def statementsOf (table : String × Entries) : List Statement :=
  .table [table.1] :: table.2.map fun entry => .entry [entry.1] entry.2

section Building

variable {before entries more : Entries} {header key : String}

theorem lookup_eq_none (absent : key ∉ entries.map Prod.fst) : entries.lookup key = none := by
  rw [List.lookup_eq_none_iff]
  intro entry member
  rw [bne_iff_ne]
  intro same
  exact absent (same ▸ List.mem_map_of_mem member)

theorem take?_table (absent : key ∉ before.map Prod.fst) (path : List String) :
    Building.take? ⟨before, path⟩ (.table [key]) =
      some ⟨before ++ [(key, .table .header [])], [key]⟩ := by
  have opened : openTable? key before = some (before ++ [(key, .table .header [])]) := by
    rw [openTable?, lookup_eq_none absent]
  show (openTable? key before).bind _ = _
  rw [opened]
  rfl

/-- An entry goes to the end of the table that was opened last. -/
theorem take?_entry (absent : header ∉ before.map Prod.fst) (fresh : key ∉ entries.map Prod.fst)
    (node : Node) :
    Building.take? ⟨before ++ [(header, .table .header entries)], [header]⟩
        (.entry [key] node) =
      some ⟨before ++ [(header, .table .header (entries ++ [(key, node)]))], [header]⟩ := by
  have found : (before ++ [(header, Node.table .header entries)]).lookup header =
      some (.table .header entries) := by
    rw [List.lookup_append, lookup_eq_none absent, Option.none_or, List.lookup_cons_self]
  have added : insertDotted? [key] node entries = some (entries ++ [(key, node)]) := by
    rw [insertDotted?, addEntry?, lookup_eq_none fresh]
    rfl
  have replaced : replace header (.table .header (entries ++ [(key, node)]))
      (before ++ [(header, .table .header entries)]) =
        before ++ [(header, .table .header (entries ++ [(key, node)]))] := by
    have unchanged : before.map (fun entry => if entry.1 = header then
        (header, Node.table .header (entries ++ [(key, node)])) else entry) = before.map id := by
      apply List.map_congr_left
      intro entry member
      exact if_neg fun same : entry.1 = header => absent (same ▸ List.mem_map_of_mem member)
    rw [replace, List.map_append, unchanged, List.map_id]
    simp
  have within : within? [header] (insertDotted? [key] node)
      (before ++ [(header, .table .header entries)]) =
        some (before ++ [(header, .table .header (entries ++ [(key, node)]))]) := by
    rw [within?, found]
    simp only [within?, added, Option.bind_eq_bind, Option.bind_some, replaced]
    rfl
  show (within? [header] (insertDotted? [key] node)
    (before ++ [(header, .table .header entries)])).bind _ = _
  rw [within]
  rfl

theorem foldlM_entries (absent : header ∉ before.map Prod.fst)
    (distinct : ((entries ++ more).map Prod.fst).Nodup) :
    (more.map fun entry => Statement.entry [entry.1] entry.2).foldlM Building.take?
        ⟨before ++ [(header, .table .header entries)], [header]⟩ =
      some ⟨before ++ [(header, .table .header (entries ++ more))], [header]⟩ := by
  induction more generalizing entries with
  | nil => rw [List.append_nil]; rfl
  | cons entry rest ih =>
      have fresh : entry.1 ∉ entries.map Prod.fst := by
        rw [List.map_append, List.nodup_append] at distinct
        intro member
        exact distinct.2.2 _ member _ (by simp) rfl
      rw [List.append_cons entries entry rest] at distinct ⊢
      rw [List.map_cons, List.foldlM_cons, take?_entry absent fresh]
      exact ih distinct

/-- Tables with distinct headers, none of which is there yet, are built one after the
other. -/
theorem foldlM_tables {tables : List (String × Entries)}
    (distinct : (before.map Prod.fst ++ tables.map Prod.fst).Nodup)
    (keys : ∀ table ∈ tables, (table.2.map Prod.fst).Nodup) (path : List String) :
    ∃ last, (tables.flatMap statementsOf).foldlM Building.take? ⟨before, path⟩ =
      some ⟨before ++ tables.map fun table => (table.1, .table .header table.2), last⟩ := by
  induction tables generalizing before path with
  | nil => exact ⟨path, by rw [List.map_nil, List.append_nil]; rfl⟩
  | cons table rest ih =>
      have absent : table.1 ∉ before.map Prod.fst := by
        rw [List.nodup_append] at distinct
        intro member
        exact distinct.2.2 _ member _ (by simp) rfl
      have filled := @foldlM_entries before [] table.2 table.1 absent (keys table List.mem_cons_self)
      have later : ((before ++ [(table.1, Node.table .header table.2)]).map Prod.fst ++
          rest.map Prod.fst).Nodup := by
        simpa using distinct
      obtain ⟨last, others⟩ := ih later
        (fun other member => keys other (List.mem_cons_of_mem _ member)) [table.1]
      refine ⟨last, ?_⟩
      rw [List.flatMap_cons, statementsOf, List.cons_append, List.foldlM_cons, take?_table absent]
      show ((table.2.map _ ++ _).foldlM Building.take? _ : Option Building) = _
      rw [List.foldlM_append, filled]
      simpa using others

end Building

/-- Tables that a document can hold together: no header and no key is given twice. -/
structure Distinct (tables : List (String × Entries)) : Prop where
  headers : (tables.map Prod.fst).Nodup
  keys : ∀ table ∈ tables, (table.2.map Prod.fst).Nodup

/-- Lines with the statements of distinct tables are a document of these tables. -/
theorem parse?_of_lines {text : String} {tables : List (String × Entries)}
    (lines : Lines text.toList (tables.flatMap statementsOf))
    (unmarked : dropMark text.toList = text.toList) (distinct : Distinct tables) :
    parse? text = some (tables.map fun table => (table.1, .table .header table.2)) := by
  have statements : statements? (dropMark text.toList) = some (tables.flatMap statementsOf) := by
    rw [unmarked]
    exact lines.statementsWithin?_eq (Nat.le_refl _)
  obtain ⟨last, built⟩ := @foldlM_tables [] tables distinct.headers distinct.keys []
  unfold parse?
  rw [statements]
  show ((tables.flatMap statementsOf).foldlM Building.take? ⟨[], []⟩).bind _ = _
  rw [built]
  rfl

end Stencil.Toml
