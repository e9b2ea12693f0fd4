import Mathlib.Tactic
import Stencil.Text.Pieces

/-!
# Cutting what was joined

Texts that do not contain a separator are the pieces of what they are joined to,
so cutting and joining undo each other.
-/

namespace Stencil.Text

theorem pieces_of_not_mem {separator : Char} {text : List Char} (absent : separator ∉ text) :
    pieces separator text = [text] := by
  induction text with
  | nil => rfl
  | cons c rest ih =>
    rw [List.mem_cons, not_or] at absent
    rw [pieces, if_neg (Ne.symm absent.1), ih absent.2]

theorem pieces_append (separator : Char) (first second : List Char) :
    pieces separator (first ++ separator :: second) =
      pieces separator first ++ pieces separator second := by
  induction first with
  | nil => simp [pieces]
  | cons c rest ih =>
    by_cases same : c = separator
    · rw [List.cons_append, pieces, if_pos same, ih, pieces, if_pos same]
      rfl
    · rw [List.cons_append, pieces, if_neg same, ih, pieces, if_neg same]
      cases found : pieces separator rest with
      | nil => exact absurd found (pieces_ne_nil separator rest)
      | cons piece others => rfl

theorem join_cons (separator : List Char) (piece : List Char) {others : List (List Char)}
    (more : others ≠ []) :
    join separator (piece :: others) = piece ++ separator ++ join separator others := by
  cases others with
  | nil => exact absurd rfl more
  | cons next rest => rfl

theorem pieces_join {separator : Char} {parts : List (List Char)} (some_part : parts ≠ [])
    (absent : ∀ part ∈ parts, separator ∉ part) :
    pieces separator (join [separator] parts) = parts := by
  induction parts with
  | nil => exact absurd rfl some_part
  | cons part others ih =>
    have free := absent part List.mem_cons_self
    cases others with
    | nil => exact pieces_of_not_mem free
    | cons next rest =>
      rw [join_cons _ _ (List.cons_ne_nil _ _), List.append_assoc, List.singleton_append,
        pieces_append, pieces_of_not_mem free,
        ih (List.cons_ne_nil _ _) fun other member => absent other (List.mem_cons_of_mem _ member)]
      rfl

theorem mem_join {separator : List Char} {parts : List (List Char)} {c : Char}
    (member : c ∈ join separator parts) : c ∈ separator ∨ ∃ part ∈ parts, c ∈ part := by
  induction parts with
  | nil => exact absurd member List.not_mem_nil
  | cons part others ih =>
    cases others with
    | nil => exact .inr ⟨part, List.mem_cons_self, member⟩
    | cons next rest =>
      rw [join_cons _ _ (List.cons_ne_nil _ _), List.append_assoc, List.mem_append,
        List.mem_append] at member
      rcases member with own | between | later
      · exact .inr ⟨part, List.mem_cons_self, own⟩
      · exact .inl between
      · rcases ih later with between | ⟨other, otherMember, inside⟩
        · exact .inl between
        · exact .inr ⟨other, List.mem_cons_of_mem _ otherMember, inside⟩

theorem join_append_single (separator : List Char) {parts : List (List Char)}
    (some_part : parts ≠ []) (last : List Char) :
    join separator (parts ++ [last]) = join separator parts ++ separator ++ last := by
  induction parts with
  | nil => exact absurd rfl some_part
  | cons part others ih =>
    cases others with
    | nil => rfl
    | cons next rest =>
      rw [List.cons_append, join_cons _ _ (by simp), ih (List.cons_ne_nil _ _),
        join_cons _ _ (List.cons_ne_nil _ _)]
      simp only [List.append_assoc]

theorem join_append_last (separator : List Char) (parts : List (List Char))
    (last more : List Char) :
    join separator (parts ++ [last ++ more]) = join separator (parts ++ [last]) ++ more := by
  cases parts with
  | nil => rfl
  | cons part others =>
    rw [join_append_single _ (List.cons_ne_nil _ _), join_append_single _ (List.cons_ne_nil _ _),
      List.append_assoc _ last more]

theorem join_eq_intercalate (separator : List Char) (parts : List (List Char)) :
    join separator parts = separator.intercalate parts := by
  induction parts with
  | nil => rfl
  | cons part others ih =>
    cases others with
    | nil => exact List.intercalate_singleton.symm
    | cons next rest => rw [join_cons _ _ (List.cons_ne_nil _ _), List.intercalate_cons_cons, ih]

theorem prefix_join (separator : List Char) {parts all : List (List Char)}
    (part : parts <+: all) : join separator parts <+: join separator all := by
  induction parts generalizing all with
  | nil => exact List.nil_prefix
  | cons first rest ih =>
    obtain ⟨more, rfl⟩ := part
    cases rest with
    | nil =>
      cases more with
      | nil => exact List.prefix_rfl
      | cons next others =>
        rw [List.singleton_append, join_cons _ _ (List.cons_ne_nil _ _), List.append_assoc]
        exact List.prefix_append _ _
    | cons next others =>
      rw [List.cons_append, join_cons _ first (List.cons_ne_nil next others),
        join_cons _ first (by simp)]
      apply (List.prefix_append_right_inj _).mpr
      exact ih (List.prefix_append _ _)

theorem splitLast?_of_not_mem {separator : Char} {text : List Char} (absent : separator ∉ text) :
    splitLast? separator text = none := by
  induction text with
  | nil => rfl
  | cons c rest ih =>
    rw [List.mem_cons, not_or] at absent
    rw [splitLast?, ih absent.2]
    exact if_neg (Ne.symm absent.1)

end Stencil.Text
