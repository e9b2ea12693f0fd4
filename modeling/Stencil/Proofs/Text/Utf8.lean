import Mathlib.Tactic
import Stencil.Text.Utf8

/-!
# Octets determine their text

The octets of a text are read back to this text.  The octet machine reads the
octets of one character in turn; after each of them it holds the leading part
of the character's number.
-/

namespace Stencil.Text

private def continuation (n : Nat) : UInt8 := UInt8.ofNat (n % 64 + 128)

private theorem toNat_continuation (n : Nat) :
    (continuation n).toNat = n % 64 + 128 := by
  have small : n % 64 + 128 < 256 := by omega
  simpa [continuation] using small

private theorem readOctet_last {low high : UInt8} {value taken n : Nat}
    (above : low ≤ continuation n) (below : continuation n ≤ high) :
    readOctet (some ⟨1, low, high, value, taken⟩) (continuation n) =
      ([.char (Char.ofNat (value * 64 + n % 64))], none) := by
  have digits : (continuation n).toNat % 64 = n % 64 := by
    rw [toNat_continuation]
    omega
  simp [readOctet, above, below, digits]

private theorem readOctet_more {low high : UInt8} {owed value taken n : Nat}
    (above : low ≤ continuation n) (below : continuation n ≤ high) :
    readOctet (some ⟨owed + 2, low, high, value, taken⟩) (continuation n) =
      ([], some ⟨owed + 1, 0x80, 0xBF, value * 64 + n % 64, taken + 1⟩) := by
  have digits : (continuation n).toNat % 64 = n % 64 := by
    rw [toNat_continuation]
    omega
  simp [readOctet, above, below, digits]

private theorem low_le_continuation (n : Nat) : (0x80 : UInt8) ≤ continuation n := by
  rw [UInt8.le_iff_toNat_le, toNat_continuation]
  exact Nat.le_add_left 128 (n % 64)

private theorem continuation_le_high (n : Nat) : continuation n ≤ (0xBF : UInt8) := by
  rw [UInt8.le_iff_toNat_le, toNat_continuation]
  show n % 64 + 128 ≤ 191
  omega

/-- The octets that follow the first one of a character spell the rest of its
number. -/
private theorem readingsFrom_one {low high : UInt8} {value taken n : Nat}
    (above : low ≤ continuation n) (below : continuation n ≤ high) (rest : List UInt8) :
    readingsFrom (some ⟨1, low, high, value, taken⟩) (continuation n :: rest) =
      .char (Char.ofNat (value * 64 + n % 64)) :: readingsFrom none rest := by
  simp [readingsFrom, readOctet_last above below]

private theorem readingsFrom_two {low high : UInt8} {value taken m n : Nat}
    (above : low ≤ continuation m) (below : continuation m ≤ high) (rest : List UInt8) :
    readingsFrom (some ⟨2, low, high, value, taken⟩) (continuation m :: continuation n :: rest) =
      .char (Char.ofNat ((value * 64 + m % 64) * 64 + n % 64)) :: readingsFrom none rest := by
  rw [readingsFrom, readOctet_more above below]
  exact readingsFrom_one (low_le_continuation n) (continuation_le_high n) rest

private theorem readingsFrom_three {low high : UInt8} {value taken l m n : Nat}
    (above : low ≤ continuation l) (below : continuation l ≤ high) (rest : List UInt8) :
    readingsFrom (some ⟨3, low, high, value, taken⟩)
        (continuation l :: continuation m :: continuation n :: rest) =
      .char (Char.ofNat (((value * 64 + l % 64) * 64 + m % 64) * 64 + n % 64)) ::
        readingsFrom none rest := by
  rw [readingsFrom, readOctet_more above below]
  exact readingsFrom_two (low_le_continuation m) (continuation_le_high m) rest

private theorem readOctet_none {n : Nat} (small : n < 256) :
    readOctet none (UInt8.ofNat n) = beginChar (UInt8.ofNat n) ∧ (UInt8.ofNat n).toNat = n :=
  ⟨rfl, by simpa using small⟩

private theorem le_continuation {low : UInt8} {n : Nat} (above : low.toNat ≤ n % 64 + 128) :
    low ≤ continuation n := by
  rwa [UInt8.le_iff_toNat_le, toNat_continuation]

private theorem continuation_le {high : UInt8} {n : Nat} (below : n % 64 + 128 ≤ high.toNat) :
    continuation n ≤ high := by
  rwa [UInt8.le_iff_toNat_le, toNat_continuation]

/-- The first octet of three leaves out the short forms and the surrogates. -/
private theorem beginChar_three (lead m : Nat) (small : lead < 16)
    (notShort : lead = 0 → 32 ≤ m % 64) (notSurrogate : lead = 13 → m % 64 < 32) :
    ∃ low high, beginChar (UInt8.ofNat (lead + 0xe0)) = ([], some ⟨2, low, high, lead, 1⟩) ∧
      low ≤ continuation m ∧ continuation m ≤ high := by
  obtain ⟨-, number⟩ := readOctet_none (n := lead + 0xe0) (by omega)
  unfold beginChar
  rw [number]
  simp only
  rw [if_neg (by omega), if_neg (by omega), if_neg (by omega)]
  by_cases first : lead = 0
  · have above := notShort first
    rw [if_pos (by omega), first]
    exact ⟨0xA0, 0xBF, rfl, le_continuation (by show 160 ≤ _; omega), continuation_le_high m⟩
  · by_cases surrogate : lead = 13
    · have below := notSurrogate surrogate
      rw [if_neg (by omega), if_pos (by omega), surrogate]
      exact ⟨0x80, 0x9F, rfl, low_le_continuation m, continuation_le (by show _ ≤ 159; omega)⟩
    · rw [if_neg (by omega), if_neg (by omega), if_pos (by omega)]
      refine ⟨0x80, 0xBF, ?_, low_le_continuation m, continuation_le_high m⟩
      congr 3
      omega

/-- The first octet of four leaves out the short forms and what no character
has. -/
private theorem beginChar_four (lead l : Nat) (small : lead < 5)
    (notShort : lead = 0 → 16 ≤ l % 64) (notLarge : lead = 4 → l % 64 < 16) :
    ∃ low high, beginChar (UInt8.ofNat (lead + 0xf0)) = ([], some ⟨3, low, high, lead, 1⟩) ∧
      low ≤ continuation l ∧ continuation l ≤ high := by
  obtain ⟨-, number⟩ := readOctet_none (n := lead + 0xf0) (by omega)
  unfold beginChar
  rw [number]
  simp only
  rw [if_neg (by omega), if_neg (by omega), if_neg (by omega), if_neg (by omega),
    if_neg (by omega), if_neg (by omega)]
  by_cases first : lead = 0
  · have above := notShort first
    rw [if_pos (by omega), first]
    exact ⟨0x90, 0xBF, rfl, le_continuation (by show 144 ≤ _; omega), continuation_le_high l⟩
  · by_cases last : lead = 4
    · have below := notLarge last
      rw [if_neg (by omega), if_neg (by omega), if_pos (by omega), last]
      exact ⟨0x80, 0x8F, rfl, low_le_continuation l, continuation_le (by show _ ≤ 143; omega)⟩
    · rw [if_neg (by omega), if_pos (by omega)]
      refine ⟨0x80, 0xBF, ?_, low_le_continuation l, continuation_le_high l⟩
      congr 3
      omega

private theorem toNat_bounds (c : Char) :
    c.toNat < 0xD800 ∨ 0xDFFF < c.toNat ∧ c.toNat < 0x110000 := c.valid

private theorem encodeChar_eq (c : Char) : String.utf8EncodeChar c =
    if c.toNat ≤ 0x7f then [UInt8.ofNat c.toNat]
    else if c.toNat ≤ 0x7ff then
      [UInt8.ofNat (c.toNat / 64 % 0x20 + 0xc0), continuation c.toNat]
    else if c.toNat ≤ 0xffff then
      [UInt8.ofNat (c.toNat / 4096 % 0x10 + 0xe0), continuation (c.toNat / 64),
        continuation c.toNat]
    else
      [UInt8.ofNat (c.toNat / 262144 % 0x08 + 0xf0), continuation (c.toNat / 4096),
        continuation (c.toNat / 64), continuation c.toNat] := rfl

theorem readingsFrom_encodeChar (c : Char) (rest : List UInt8) :
    readingsFrom none (String.utf8EncodeChar c ++ rest) = .char c :: readingsFrom none rest := by
  have bounds := toNat_bounds c
  have code : Char.ofNat c.toNat = c := Char.ofNat_toNat c
  rw [encodeChar_eq]
  generalize c.toNat = v at bounds code ⊢
  split
  · obtain ⟨opened, number⟩ := readOctet_none (n := v) (by omega)
    have small : v < 128 := by omega
    simp [readingsFrom, opened, beginChar, number, small, code]
  · split
    · obtain ⟨opened, number⟩ := readOctet_none (n := v / 64 % 0x20 + 0xc0) (by omega)
      have started : beginChar (UInt8.ofNat (v / 64 % 0x20 + 0xc0)) =
          ([], some ⟨1, 0x80, 0xBF, v / 64, 1⟩) := by
        unfold beginChar
        rw [number]
        simp only
        rw [if_neg (by omega), if_neg (by omega), if_pos (by omega)]
        congr 3
        omega
      rw [List.cons_append, readingsFrom, opened, started]
      simp only [List.cons_append, List.nil_append]
      rw [readingsFrom_one (low_le_continuation v) (continuation_le_high v)]
      rw [show v / 64 * 64 + v % 64 = v by omega, code]
    · split
      · obtain ⟨opened, -⟩ := readOctet_none (n := v / 4096 % 0x10 + 0xe0) (by omega)
        obtain ⟨low, high, started, above, below⟩ :=
          beginChar_three (v / 4096 % 0x10) (v / 64) (by omega) (by omega) (by omega)
        rw [List.cons_append, readingsFrom, opened, started]
        simp only [List.cons_append, List.nil_append]
        rw [readingsFrom_two above below]
        rw [show (v / 4096 % 16 * 64 + v / 64 % 64) * 64 + v % 64 = v by omega, code]
      · obtain ⟨opened, -⟩ := readOctet_none (n := v / 262144 % 0x08 + 0xf0) (by omega)
        obtain ⟨low, high, started, above, below⟩ :=
          beginChar_four (v / 262144 % 0x08) (v / 4096)
            (by omega) (by omega) (by omega)
        rw [List.cons_append, readingsFrom, opened, started]
        simp only [List.cons_append, List.nil_append]
        rw [readingsFrom_three above below]
        rw [show ((v / 262144 % 8 * 64 + v / 4096 % 64) * 64 + v / 64 % 64) * 64 + v % 64 = v by
          omega, code]

theorem readings_octets (text : List Char) :
    readings (text.flatMap String.utf8EncodeChar) = text.map Reading.char := by
  unfold readings
  induction text with
  | nil => rfl
  | cons c rest ih => rw [List.flatMap_cons, readingsFrom_encodeChar, ih, List.map_cons]

theorem textOfReadings_chars (index : Nat) (text : List Char) :
    textOfReadings index (text.map Reading.char) = .ok text := by
  induction text generalizing index with
  | nil => rfl
  | cons c rest ih => simp [textOfReadings, ih]

/-- The octets of a text are read back to this text. -/
theorem decode_octets (text : String) : decode (octets text) = .ok text := by
  rw [decode, octets, readings_octets, textOfReadings_chars]
  simp [Except.map]

theorem octets_injective : Function.Injective octets := by
  intro first second same
  have decoded : (Except.ok first : Except Utf8Error String) = .ok second := by
    rw [← decode_octets first, same, decode_octets]
  exact Except.ok.inj decoded

private theorem ofNat_ne_zero {n : Nat} (positive : 0 < n) (small : n < 256) :
    (0 : UInt8) ≠ UInt8.ofNat n := by
  intro zero
  have number := congrArg UInt8.toNat zero
  rw [(readOctet_none small).2] at number
  exact absurd number.symm (Nat.ne_of_gt positive)

private theorem continuation_ne_zero (n : Nat) : (0 : UInt8) ≠ continuation n :=
  ofNat_ne_zero (by omega) (by omega)

theorem eq_zero_of_zero_mem_encodeChar {c : Char} (member : 0 ∈ String.utf8EncodeChar c) :
    c = '\x00' := by
  by_contra other
  have positive : c.toNat ≠ 0 := fun zero => other (Char.toNat_inj.mp zero)
  rw [encodeChar_eq] at member
  split at member
  · exact ofNat_ne_zero (by omega) (by omega) (List.mem_singleton.mp member)
  · split at member
    · simp only [List.mem_cons, List.not_mem_nil, or_false, continuation_ne_zero] at member
      exact ofNat_ne_zero (by omega) (by omega) member
    · split at member
      · simp only [List.mem_cons, List.not_mem_nil, or_false, continuation_ne_zero] at member
        exact ofNat_ne_zero (by omega) (by omega) member
      · simp only [List.mem_cons, List.not_mem_nil, or_false, continuation_ne_zero] at member
        exact ofNat_ne_zero (by omega) (by omega) member

theorem zero_not_mem_octets {text : String} (clean : '\x00' ∉ text.toList) :
    0 ∉ octets text := by
  intro member
  obtain ⟨c, charMember, octetMember⟩ := List.mem_flatMap.mp member
  exact clean (eq_zero_of_zero_mem_encodeChar octetMember ▸ charMember)

end Stencil.Text
