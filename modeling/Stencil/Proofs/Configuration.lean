import Stencil.Configuration.Load
import Stencil.Proofs.Toml.Document

/-!
# Configurations are read back

A configuration is printed as tables: that of the project, if it has a name, that of the
generator and that of the outputs.  Whatever its texts are, what is printed is read as
the same configuration.  There are other ways to write the same texts, so being read back
is a property of printers, `ReadsBack`.  Only what was read is checked for gaps.
-/

namespace Stencil

open Toml

namespace Configuration

/-- An entry of a printed table, and the key and node that it stands for. -/
structure EntryPrinted (written : String × String) (entry : String × Node) : Prop where
  key : written.1 = entry.1
  bare : IsBareKey entry.1
  spells : Spells written.2.toList entry.2

/-- A printed table, and the header and entries that it stands for. -/
structure TablePrinted (written : String × List (String × String)) (table : String × Entries) :
    Prop where
  header : written.1 = table.1
  bare : IsBareKey table.1
  entries : List.Forall₂ EntryPrinted written.2 table.2

theorem lines_entries {written : List (String × String)} {entries : Entries}
    (printed : List.Forall₂ EntryPrinted written entries) {rest : List Char}
    {statements : List Statement} (lines : Lines rest statements) :
    Lines ((written.flatMap fun entry => (entry.1 ++ " = " ++ entry.2 ++ "\n").toList) ++ rest)
      ((entries.map fun entry => .entry [entry.1] entry.2) ++ statements) := by
  induction printed with
  | nil => exact lines
  | cons first _ ih =>
      have line := Lines.entry first.bare first.spells ih
      rw [← first.key] at line
      simpa [first.key] using line

theorem lines_printTable {written : String × List (String × String)} {table : String × Entries}
    (printed : TablePrinted written table) {rest : List Char} {statements : List Statement}
    (lines : Lines rest statements) :
    Lines ((printTable written.1 written.2).toList ++ rest) (statementsOf table ++ statements) := by
  have content := Lines.header printed.bare (lines_entries printed.entries lines)
  rw [← printed.header] at content
  simpa [printTable, String.toList_join, List.flatMap_map, statementsOf, printed.header] using content

theorem lines_intercalate {written : List (String × List (String × String))}
    {tables : List (String × Entries)} (printed : List.Forall₂ TablePrinted written tables) :
    Lines (String.intercalate "\n" (written.map fun table => printTable table.1 table.2)).toList
      (tables.flatMap statementsOf) := by
  rw [String.toList_intercalate, List.map_map]
  induction printed with
  | nil => exact .nil
  | @cons first table others tables printed rest ih =>
      cases rest with
      | nil =>
          have single := lines_printTable printed .nil
          simpa using single
      | cons second rest =>
          have whole := lines_printTable printed (.blank ih)
          simpa using whole

def writtenTables (configuration : Configuration) : List (String × List (String × String)) :=
  let settings := configuration.settings
  (configuration.projectName.toList.map fun name => ("project", [("name", Quoted.write name)])) ++
    [("generator", [
      ("annotation", Quoted.write settings.trigger),
      ("impl_suffix", Quoted.write settings.implSuffix),
      ("lookup", Quoted.write settings.lookup.name),
      ("escape_literals", if settings.escapeLiterals then "true" else "false"),
      ("provenance_severity", Quoted.write settings.provenanceSeverity.name)]),
    ("output", [("dir", Quoted.write configuration.outputFolder)])]

def tables (configuration : Configuration) : List (String × Entries) :=
  let settings := configuration.settings
  (configuration.projectName.toList.map fun name => ("project", [("name", .text name)])) ++
    [("generator", [
      ("annotation", .text settings.trigger),
      ("impl_suffix", .text settings.implSuffix),
      ("lookup", .text settings.lookup.name),
      ("escape_literals", .bool settings.escapeLiterals),
      ("provenance_severity", .text settings.provenanceSeverity.name)]),
    ("output", [("dir", .text configuration.outputFolder)])]

theorem print_eq (configuration : Configuration) :
    configuration.print = String.intercalate "\n"
      (configuration.writtenTables.map fun table => printTable table.1 table.2) := by
  unfold print writtenTables
  cases configuration.projectName with
  | none => rfl
  | some name => rfl

theorem bareKeys :
    IsBareKey "project" ∧ IsBareKey "name" ∧ IsBareKey "generator" ∧ IsBareKey "annotation" ∧
      IsBareKey "impl_suffix" ∧ IsBareKey "lookup" ∧ IsBareKey "escape_literals" ∧
      IsBareKey "provenance_severity" ∧ IsBareKey "output" ∧ IsBareKey "dir" := by
  decide

theorem printed_text {key : String} (bare : IsBareKey key) (content : String) :
    EntryPrinted (key, Quoted.write content) (key, .text content) :=
  ⟨rfl, bare, spells_text content⟩

theorem printed_bool {key : String} (bare : IsBareKey key) (given : Bool) :
    EntryPrinted (key, if given then "true" else "false") (key, .bool given) :=
  ⟨rfl, bare, spells_bool given⟩

theorem printed_table {header : String} (bare : IsBareKey header)
    {written : List (String × String)} {entries : Entries}
    (printed : List.Forall₂ EntryPrinted written entries) :
    TablePrinted (header, written) (header, entries) :=
  ⟨rfl, bare, printed⟩

theorem printed_tables (configuration : Configuration) :
    List.Forall₂ TablePrinted configuration.writtenTables configuration.tables := by
  obtain ⟨projectKey, nameKey, generatorKey, annotationKey, suffixKey, lookupKey, escapeKey,
    severityKey, outputKey, dirKey⟩ := bareKeys
  have generator := List.Forall₂.cons (printed_text annotationKey configuration.settings.trigger)
    (.cons (printed_text suffixKey configuration.settings.implSuffix)
      (.cons (printed_text lookupKey configuration.settings.lookup.name)
        (.cons (printed_bool escapeKey configuration.settings.escapeLiterals)
          (.cons (printed_text severityKey configuration.settings.provenanceSeverity.name) .nil))))
  have output := List.Forall₂.cons (printed_text dirKey configuration.outputFolder) .nil
  have both := List.Forall₂.cons (printed_table generatorKey generator)
    (.cons (printed_table outputKey output) .nil)
  unfold writtenTables tables
  cases configuration.projectName with
  | none => exact both
  | some name =>
      have project := List.Forall₂.cons (printed_text nameKey name) .nil
      exact .cons (printed_table projectKey project) both

theorem distinct_tables (configuration : Configuration) : Distinct configuration.tables := by
  have keys : ∀ names ∈ [["name"], ["annotation", "impl_suffix", "lookup", "escape_literals",
      "provenance_severity"], ["dir"]], names.Nodup := by decide
  unfold tables
  cases configuration.projectName with
  | none =>
      constructor
      · show ["generator", "output"].Nodup
        decide
      · intro table member
        apply keys
        fin_cases member <;> simp
  | some name =>
      constructor
      · show ["project", "generator", "output"].Nodup
        decide
      · intro table member
        apply keys
        fin_cases member <;> simp

theorem entries_tables (configuration : Configuration) :
    Decoder.entries fields {} (configuration.tables.map fun table =>
      (table.1, .table .header table.2)) = some configuration := by
  obtain ⟨projectName, ⟨trigger, implSuffix, lookup, escapeLiterals, severity⟩, folder⟩ :=
    configuration
  cases projectName <;> cases lookup <;> cases severity <;> rfl

/-- What is printed starts with a header, so no mark of a byte order is dropped. -/
theorem dropMark_print (configuration : Configuration) :
    dropMark configuration.print.toList = configuration.print.toList := by
  have header : configuration.print.toList.head? = some '[' := by
    unfold print
    cases configuration.projectName with
    | none => simp [printTable]
    | some name => simp [printTable]
  obtain ⟨rest, starts⟩ := List.head?_eq_some_iff.mp header
  rw [starts]
  rfl

/-- What is printed is read as the same configuration. -/
def ReadsBack (print : Configuration → String) : Prop :=
  ∀ configuration, parse? (print configuration) = some configuration

theorem readsBack_print : ReadsBack print := by
  intro configuration
  have lines := lines_intercalate configuration.printed_tables
  rw [← print_eq] at lines
  have read := parse?_of_lines lines configuration.dropMark_print configuration.distinct_tables
  unfold parse?
  rw [read]
  exact entries_tables configuration

end Configuration

end Stencil
