import Mathlib.Tactic
import Stencil.Toml.Statement

/-!
# Quoted text is read back

Every text can stand between double quotes on one line: quotes, backslashes, line breaks
and control characters are escaped, and all else is written as it is.  What is read up to
the closing quote is the text, whatever follows.
-/

namespace Stencil.Toml

namespace Quoted

/-- A character that is neither plain nor has a letter for its escape is written by its
number, which has two digits. -/
theorem codePoint?_digits {c : Char} (control : isPlain c = false) :
    codePoint? ['0', '0', Digest.hexDigit (c.toNat / 16), Digest.hexDigit (c.toNat % 16)] =
      some c := by
  have small : c.toNat < 128 := by
    simp only [isPlain, Bool.or_eq_false_iff, Bool.and_eq_false_iff, decide_eq_false_iff_not] at control
    omega
  have high : Digest.hexValue? (Digest.hexDigit (c.toNat / 16)) = some (c.toNat / 16) :=
    Digest.hexValue?_hexDigit ⟨c.toNat / 16, by omega⟩
  have low : Digest.hexValue? (Digest.hexDigit (c.toNat % 16)) = some (c.toNat % 16) :=
    Digest.hexValue?_hexDigit ⟨c.toNat % 16, by omega⟩
  have zero : Digest.hexValue? '0' = some 0 := by decide
  have number : 16 * (16 * (16 * (16 * 0 + 0) + 0) + c.toNat / 16) + c.toNat % 16 = c.toNat := by
    omega
  have valid : c.toNat.isValidChar := c.valid
  unfold codePoint?
  simp only [List.mapM_cons, List.mapM_nil, zero, high, low, Option.pure_def, Option.bind_eq_bind,
    Option.bind_some, List.foldl_cons, List.foldl_nil, number, valid, if_true, Char.ofNat_toNat]

/-- The written form of a character stands for this character. -/
theorem basic_writtenChar (c : Char) (rest : List Char) :
    basic (writtenChar c ++ rest) = prepend [c] (basic rest) := by
  unfold writtenChar
  split_ifs with quote backslash bell tab line page feed plain
  · rw [quote]; rfl
  · rw [backslash]; rfl
  · rw [bell]; rfl
  · rw [tab]; rfl
  · rw [line]; rfl
  · rw [page]; rfl
  · rw [feed]; rfl
  · rw [List.singleton_append, basic.eq_def]
    split <;> simp_all
  · rw [Bool.not_eq_true] at plain
    have found := codePoint?_digits plain
    simp only [List.cons_append, List.nil_append, basic, found]
    rfl

theorem basic_flatMap_writtenChar (text rest : List Char) :
    basic (text.flatMap writtenChar ++ '"' :: rest) = some (text, rest) := by
  induction text with
  | nil => rfl
  | cons c others ih =>
      rw [List.flatMap_cons, List.append_assoc, basic_writtenChar, ih]
      rfl

/-- No written form starts with a quote, so text is never taken for text between three of
them. -/
theorem writtenChar_eq_cons (c : Char) :
    ∃ first more, writtenChar c = first :: more ∧ first ≠ '"' := by
  unfold writtenChar
  split_ifs with quote
  any_goals exact ⟨'\\', _, rfl, by decide⟩
  exact ⟨c, [], rfl, quote⟩

theorem anyLines_write (text : List Char) {next : Char} (other : next ≠ '"') (rest : List Char) :
    anyLines ('"' :: (text.flatMap writtenChar ++ '"' :: next :: rest)) =
      some (text, next :: rest) := by
  have single : anyLines ('"' :: (text.flatMap writtenChar ++ '"' :: next :: rest)) =
      basic (text.flatMap writtenChar ++ '"' :: next :: rest) := by
    cases text with
    | nil =>
        rw [List.flatMap_nil, List.nil_append, anyLines.eq_def]
        split <;> simp_all [oneLine]
    | cons c others =>
        obtain ⟨first, more, written, noQuote⟩ := writtenChar_eq_cons c
        rw [List.flatMap_cons, written, List.append_assoc, List.cons_append, anyLines.eq_def]
        split <;> simp_all [oneLine]
  rw [single, basic_flatMap_writtenChar]

end Quoted

end Stencil.Toml
