import Stencil.Implementation
import Stencil.Proofs.Literal

/-!
# What the text of an implementation says

The text of a method is an opening, which only depends on the member, and then the names of
its list.  With escaped literals each name is one literal that stands for the name
(`read_literal`).  Literals end where they are closed, commas tell whether a list goes on, and
the indentation tells an empty list from one with names, so the text of an implementation
determines the lists that went into it (`render_eq_iff`).  Nothing is assumed of the names of
packages, classes, members and types: they are the same in both texts.
-/

namespace Stencil

open Literal

namespace MethodPlan

/-- The text of a method up to its list. -/
def opening (member : EligibleMember) : String :=
  "  public " ++ member.returnType.text ++ " " ++ member.name ++ "() \x7b\n" ++
    "    return java.util.Arrays.asList("

/-- The text of a method after its list. -/
def closing : String := "\n    );\n  \x7d\n"

/-- What stands before a name in a list. -/
def indent : String := "\n        "

/-- An escaped name between quotes. -/
def quoted (name : String) : List Char := '"' :: (escape name).toList ++ ['"']

/-- The text of a method after a name of its list, given the names that are left. -/
def continued : List String → List Char
  | [] => closing.toList
  | name :: rest => ',' :: indent.toList ++ quoted name ++ continued rest

/-- The text of a method after its opening, given its names. -/
def listing : List String → List Char
  | [] => closing.toList
  | name :: rest => indent.toList ++ quoted name ++ continued rest

theorem toList_literalLine (name : String) :
    (literalLine true name).toList = indent.toList ++ quoted name := by
  have line : literalLine true name = indent ++ "\"" ++ escape name ++ "\"" := rfl
  have quote : "\"".toList = ['"'] := rfl
  rw [line]
  simp only [String.toList_append, quote, quoted, List.append_assoc, List.cons_append,
    List.nil_append]

theorem toList_intercalate (name : String) (rest : List String) :
    (String.intercalate "," ((name :: rest).map (literalLine true))).toList ++ closing.toList =
      listing (name :: rest) := by
  induction rest generalizing name with
  | nil => rw [List.map_singleton, String.intercalate_singleton, toList_literalLine]; rfl
  | cons next rest ih =>
    have comma : ",".toList = [','] := rfl
    have later := ih next
    rw [List.map_cons] at later
    rw [List.map_cons, List.map_cons, String.intercalate_cons_cons, String.toList_append,
      String.toList_append, toList_literalLine, List.append_assoc, later, comma]
    simp only [listing, continued, List.append_assoc, List.cons_append, List.nil_append]

theorem toList_render (method : MethodPlan) :
    (method.render true).toList = (opening method.member).toList ++ listing method.names := by
  have parts : method.render true = opening method.member ++
      String.intercalate "," (method.names.map (literalLine true)) ++ closing := by
    unfold render opening closing
    simp only [String.append_assoc]
  rw [parts, String.toList_append, String.toList_append, List.append_assoc]
  cases method.names with
  | nil => rfl
  | cons name rest => rw [toList_intercalate]

/-! ## Names that are read -/

theorem exists_continued (names : List String) :
    ∃ next rest, (next = ',' ∨ next = '\n') ∧ continued names = next :: rest := by
  cases names with
  | nil => exact ⟨'\n', "    );\n  \x7d\n".toList, .inr rfl, rfl⟩
  | cons name rest => exact ⟨',', _, .inl rfl, rfl⟩

/-- What stands in a list up to a name. -/
def leading (before : List String) : List Char :=
  before.flatMap (fun name => indent.toList ++ quoted name ++ [',']) ++ indent.toList

theorem listing_append (before : List String) (name : String) (after : List String) :
    listing (before ++ name :: after) = leading before ++ (quoted name ++ continued after) := by
  have goes (first : String) (rest : List String) :
      ',' :: listing (first :: rest) = continued (first :: rest) := by
    simp only [listing, continued, List.cons_append]
  induction before with
  | nil => simp only [leading, listing, List.nil_append, List.flatMap_nil, List.append_assoc]
  | cons first before ih =>
    obtain ⟨second, rest, split⟩ : ∃ second rest, before ++ name :: after = second :: rest :=
      List.exists_cons_of_ne_nil (by simp)
    rw [split] at ih
    rw [List.cons_append, split, listing, ← goes, ih]
    simp only [leading, List.flatMap_cons, List.append_assoc, List.cons_append, List.nil_append]

/-- A name between quotes is read as one literal, which stands for this name and for no other and
ends at the closing quote, if a comma or the end of a line follows; and one of the two follows
wherever the name stands in the list of a method.  No control character is left in it. -/
theorem read_literal (name : String) {next : Char} (ends : next = ',' ∨ next = '\n')
    (rest : List Char) :
    Literal.read (quoted name ++ next :: rest) =
        (translate .even rest).map (fun later => (textUnits name, codeUnits next ++ later)) ∧
      (∀ other, textUnits other = textUnits name → other = name) ∧
      (∀ c ∈ (escape name).toList, isControl c = false) ∧
      ∀ member before after, ∃ following left, (following = ',' ∨ following = '\n') ∧
        (render true ⟨member, before ++ name :: after⟩).toList =
          (opening member).toList ++ leading before ++ (quoted name ++ following :: left) := by
  refine ⟨?_, fun _ same => textUnits_injective same, noControl_escape name, ?_⟩
  · obtain ⟨middle, stands⟩ := standsFor_escape name
    have quote : next ≠ '"' := by rcases ends with rfl | rfl <;> decide
    have backslash : next ≠ '\\' := by rcases ends with rfl | rfl <;> decide
    have reads := stands.read_quoted quote backslash rest
    unfold quoted
    rw [List.append_assoc]
    exact reads
  · intro member before after
    obtain ⟨following, left, follows, split⟩ := exists_continued after
    refine ⟨following, left, follows, ?_⟩
    rw [toList_render, listing_append, split, List.append_assoc]

/-- A name with a quote, with what looks like an escape, with control characters after a backslash
and with a character of two code units. -/
def oddName : String := "a\"\\u0041\\\x01\n\x7f😀"

/-- Read before a comma, the literal of this name ends at the comma and stands for the name. -/
theorem read_literal_oddName :
    escape oddName = "a\\\"\\\\u0041\\\\\\u0001\\n\\u007f😀" ∧
      Literal.read (quoted oddName ++ ",\n".toList) =
        some (textUnits oddName, [codeUnit ',', codeUnit '\n']) := by
  refine ⟨by decide +kernel, ?_⟩
  rw [show ",\n".toList = ',' :: ['\n'] from rfl, (read_literal oddName (.inl rfl) ['\n']).1]
  decide +kernel

/-! ## Lists that are told apart -/

theorem quoted_append_inj {first second : String} {rest more : List Char}
    (same : quoted first ++ rest = quoted second ++ more) : first = second ∧ rest = more := by
  unfold quoted at same
  rw [List.append_assoc, List.append_assoc] at same
  exact escape_append_inj (List.cons.inj same).2

theorem closing_ne_indent (rest more : List Char) :
    closing.toList ++ rest ≠ indent.toList ++ more := by
  have ends : closing.toList = "\n    ".toList ++ ')' :: ";\n  \x7d\n".toList := rfl
  have goes : indent.toList = "\n    ".toList ++ ' ' :: "   ".toList := rfl
  rw [ends, goes, List.append_assoc, List.append_assoc]
  intro same
  have bracket := (List.cons.inj (List.append_cancel_left same)).1
  exact absurd bracket (by decide)

theorem closing_ne_comma (rest more : List Char) : closing.toList ++ rest ≠ ',' :: more := by
  have ends : closing.toList = '\n' :: "    );\n  \x7d\n".toList := rfl
  rw [ends]
  intro same
  exact absurd (List.cons.inj same).1 (by decide)

theorem continued_append_inj {first second : List String} {rest more : List Char}
    (same : continued first ++ rest = continued second ++ more) :
    first = second ∧ rest = more := by
  induction first generalizing second with
  | nil =>
    cases second with
    | nil => exact ⟨rfl, List.append_cancel_left same⟩
    | cons other others => exact absurd same (closing_ne_comma _ _)
  | cons name names ih =>
    cases second with
    | nil => exact absurd same.symm (closing_ne_comma _ _)
    | cons other others =>
      simp only [continued, List.cons_append, List.append_assoc] at same
      have lists := List.append_cancel_left (List.cons.inj same).2
      obtain ⟨rfl, later⟩ := quoted_append_inj lists
      obtain ⟨rfl, ends⟩ := ih later
      exact ⟨rfl, ends⟩

/-- The text of a method shows its list, whatever follows the method. -/
theorem listing_append_inj {first second : List String} {rest more : List Char}
    (same : listing first ++ rest = listing second ++ more) : first = second ∧ rest = more := by
  cases first with
  | nil =>
    cases second with
    | nil => exact ⟨rfl, List.append_cancel_left same⟩
    | cons other others =>
      simp only [listing, List.append_assoc] at same
      exact absurd same (closing_ne_indent _ _)
  | cons name names =>
    cases second with
    | nil =>
      simp only [listing, List.append_assoc] at same
      exact absurd same.symm (closing_ne_indent _ _)
    | cons other others =>
      simp only [listing, List.append_assoc] at same
      obtain ⟨rfl, later⟩ := quoted_append_inj (List.append_cancel_left same)
      obtain ⟨rfl, ends⟩ := continued_append_inj later
      exact ⟨rfl, ends⟩

end MethodPlan

namespace ImplementationPlan

/-- The text of the methods of an implementation. -/
def bodies (methods : List MethodPlan) : List Char :=
  (methods.filter fun method => method.member.isAbstract).flatMap fun method =>
    (method.render true).toList

theorem toList_render (plan : ImplementationPlan) :
    (plan.render true).toList =
      plan.packageClause.toList ++ plan.header.toList ++ bodies plan.methods ++ "\x7d\n".toList := by
  unfold render bodies
  simp only [String.toList_append, String.toList_join, List.flatMap_map]

theorem bodies_cons (method : MethodPlan) (rest : List MethodPlan) :
    bodies (method :: rest) =
      if method.member.isAbstract then
        (MethodPlan.opening method.member).toList ++ (MethodPlan.listing method.names ++ bodies rest)
      else bodies rest := by
  unfold bodies
  rw [List.filter_cons]
  split_ifs with written
  · rw [List.flatMap_cons, MethodPlan.toList_render, List.append_assoc]
  · rfl

/-- Two lists of methods that have the same names wherever a method is written. -/
def SameLists (first second : List MethodPlan) : Prop :=
  ∀ (i : Nat) (one other : MethodPlan), first[i]? = some one → second[i]? = some other →
    one.member.isAbstract = true → one.names = other.names

theorem sameLists_cons {one other : MethodPlan} {first second : List MethodPlan} :
    SameLists (one :: first) (other :: second) ↔
      (one.member.isAbstract = true → one.names = other.names) ∧ SameLists first second := by
  constructor
  · intro same
    exact ⟨same 0 one other rfl rfl, fun i => same (i + 1)⟩
  · rintro ⟨head, tail⟩ i
    cases i with
    | zero =>
      intro m n left right
      cases left
      cases right
      exact head
    | succ i => exact tail i

theorem bodies_eq_iff {first second : List MethodPlan}
    (members : first.map MethodPlan.member = second.map MethodPlan.member) :
    bodies first = bodies second ↔ SameLists first second := by
  induction first generalizing second with
  | nil =>
    obtain rfl := List.map_eq_nil_iff.mp members.symm
    simp [SameLists]
  | cons one first ih =>
    cases second with
    | nil => cases members
    | cons other second =>
      obtain ⟨member, rest⟩ := List.cons.inj members
      rw [sameLists_cons, ← ih rest, bodies_cons, bodies_cons, ← member]
      cases one.member.isAbstract with
      | false => simp
      | true =>
        rw [if_pos rfl, if_pos rfl]
        constructor
        · intro same
          obtain ⟨names, later⟩ := MethodPlan.listing_append_inj (List.append_cancel_left same)
          exact ⟨fun _ => names, later⟩
        · rintro ⟨names, later⟩
          rw [names rfl, later]

/-- With escaped literals the text of an implementation determines the lists of its methods, and
nothing else does: two implementations of the same members have the same text exactly if at every
member that is to be implemented they have the same names, in the same order and as often. -/
theorem render_eq_iff {first second : ImplementationPlan}
    (package : first.package = second.package)
    (template : first.templateName = second.templateName)
    (implementation : first.implName = second.implName)
    (members : first.methods.map MethodPlan.member = second.methods.map MethodPlan.member) :
    first.render true = second.render true ↔
      ∀ (i : Nat) (one other : MethodPlan), first.methods[i]? = some one →
        second.methods[i]? = some other → one.member.isAbstract = true →
        one.names = other.names := by
  have clause : first.packageClause = second.packageClause := by
    unfold packageClause
    rw [package]
  have header : first.header = second.header := by
    unfold ImplementationPlan.header
    rw [template, implementation]
  rw [← String.toList_inj, toList_render, toList_render, clause, header,
    List.append_cancel_right_eq, List.append_cancel_left_eq]
  exact bodies_eq_iff members

/-- A method of the template whose list is written into the implementation. -/
def listedMember : EligibleMember := ⟨"A", Library.listOfString, true, "app.A"⟩

/-- A method of the template that has a body of its own. -/
def ownMember : EligibleMember := ⟨"B", Library.listOfString, false, "app.B"⟩

/-- An implementation of two members, of which one is written. -/
def implementationOf (names others : List String) : ImplementationPlan :=
  ⟨"app", "T", "T_Impl", [⟨listedMember, names⟩, ⟨ownMember, others⟩]⟩

/-- One name that looks like two of them is told from the two, but only if it is escaped; what
stands at a member with a body does not matter. -/
theorem render_eq_iff_lookalike :
    (implementationOf ["a", "b"] []).render false =
        (implementationOf ["a\",\n        \"b"] []).render false ∧
      (implementationOf ["a", "b"] []).render true ≠
        (implementationOf ["a\",\n        \"b"] []).render true ∧
      (implementationOf ["a", "b"] ["c"]).render true =
        (implementationOf ["a", "b"] ["d", "e"]).render true := by
  refine ⟨by decide +kernel, fun same => ?_, ?_⟩
  · have lists := (render_eq_iff (by rfl) (by rfl) (by rfl) (by rfl)).mp same
    have names : ["a", "b"] = ["a\",\n        \"b"] :=
      lists 0 ⟨listedMember, _⟩ ⟨listedMember, _⟩ rfl rfl rfl
    exact absurd names (by decide)
  · refine (render_eq_iff rfl rfl rfl rfl).mpr ?_
    intro i one other left right written
    match i with
    | 0 => cases left; cases right; rfl
    | 1 => cases left; cases written
    | i + 2 => cases left

end ImplementationPlan

end Stencil
