import Stencil.Json.Printer
import Stencil.Proofs.Json.Layout

/-!
# Tokens of printed values

Both printed forms of a value are cut into the same tokens.  A number ends
where something follows that cannot continue it, so every statement about a
text says what may follow the text; quotes, brackets, and separators end by
themselves.

Only values whose numbers are natural numbers of 64 bits are considered: no
other number is ever printed by the generator.
-/

namespace Stencil.Json

mutual

/-- Whether all numbers of a value are natural numbers of 64 bits. -/
def Value.Whole : Value → Prop
  | .null | .bool _ | .text _ => True
  | .number (.natural n) => n < UInt64.size
  | .number _ => False
  | .list items => WholeItems items
  | .object fields => WholeFields fields
termination_by structural value => value

def WholeItems : List Value → Prop
  | [] => True
  | item :: rest => item.Whole ∧ WholeItems rest
termination_by structural items => items

def WholeFields : List (String × Value) → Prop
  | [] => True
  | (_, value) :: rest => value.Whole ∧ WholeFields rest
termination_by structural fields => fields

end

def TextUnit.ofChar (c : Char) : TextUnit :=
  if c.toNat < 0x20 ∧ c ∉ ['\x08', '\t', '\n', '\x0c', '\r'] then .code c.toNat else .char c

def Quoted.ofText (text : String) : Quoted :=
  ⟨text.toList.map TextUnit.ofChar, .closed⟩

def decimalDigits (n : Nat) : List Nat := (Nat.toDigits 10 n).map fun c => c.toNat - 48

def Lexeme.ofNat (n : Nat) : Lexeme := ⟨false, decimalDigits n, [], none⟩

mutual

def Value.tokens : Value → List Token
  | .null => [.null]
  | .bool b => [.bool b]
  | .number (.natural n) => [.number (Lexeme.ofNat n)]
  | .number _ => [.stray]
  | .text text => [.text (Quoted.ofText text)]
  | .list [] => [.openList, .closeList]
  | .list (item :: rest) => .openList :: item.tokens ++ tokensOfItems rest ++ [.closeList]
  | .object [] => [.openObject, .closeObject]
  | .object ((key, value) :: rest) =>
    .openObject :: .text (Quoted.ofText key) :: .colon :: value.tokens ++
      tokensOfFields rest ++ [.closeObject]
termination_by structural value => value

def tokensOfItems : List Value → List Token
  | [] => []
  | item :: rest => .comma :: item.tokens ++ tokensOfItems rest
termination_by structural items => items

def tokensOfFields : List (String × Value) → List Token
  | [] => []
  | (key, value) :: rest =>
    .comma :: .text (Quoted.ofText key) :: .colon :: value.tokens ++ tokensOfFields rest
termination_by structural fields => fields

end

/-! ## Quoted texts -/

/-- The printer's form of a character is one of those in which it may be written. -/
theorem TextUnit.written_ofChar (c : Char) : (TextUnit.ofChar c).Written (escapedChar c) := by
  by_cases short : c ∈ ['"', '\\', '\x08', '\t', '\n', '\x0c', '\r']
  · simp only [List.mem_cons, List.not_mem_nil, or_false] at short
    rcases short with rfl | rfl | rfl | rfl | rfl | rfl | rfl <;> exact .short (by decide)
  · simp only [List.mem_cons, List.not_mem_nil, or_false, not_or] at short
    obtain ⟨quote, backslash, backspace, tab, line, page, carriage⟩ := short
    by_cases control : c.toNat < 0x20
    · have unit : TextUnit.ofChar c = .code c.toNat := by
        simp [TextUnit.ofChar, control, backspace, tab, line, page, carriage]
      have zero : Digest.hexValue? '0' = some 0 := rfl
      have high := Digest.hexValue?_hexDigit ⟨c.toNat / 16, by omega⟩
      have low := Digest.hexValue?_hexDigit ⟨c.toNat % 16, by omega⟩
      have value : 16 * (16 * (16 * 0 + 0) + c.toNat / 16) + c.toNat % 16 = c.toNat := by omega
      rw [escapedChar, if_neg quote, if_neg backslash, if_neg backspace, if_neg tab,
        if_neg line, if_neg page, if_neg carriage, if_pos control, unit]
      have written := TextUnit.Written.code zero zero high low
      rwa [value] at written
    · have unit : TextUnit.ofChar c = .char c := by simp [TextUnit.ofChar, control]
      rw [escapedChar, if_neg quote, if_neg backslash, if_neg backspace, if_neg tab,
        if_neg line, if_neg page, if_neg carriage, if_neg control, unit]
      exact .plain quote backslash (Nat.le_of_not_lt control)

theorem unitsWritten_escaped (text : List Char) :
    UnitsWritten (text.map TextUnit.ofChar) (text.flatMap escapedChar) := by
  induction text with
  | nil => exact .nil
  | cons c more ih => exact .cons (TextUnit.written_ofChar c) ih

theorem written_printText (text : String) :
    (Token.text (Quoted.ofText text)).Written (printText text) :=
  .text (unitsWritten_escaped text.toList)

/-! ## Natural numbers -/

private theorem digitChar_toNat : ∀ n : Fin 10, (Nat.digitChar n.val).toNat - 48 = n.val := by
  decide

theorem decimalDigits_of_lt {n : Nat} (small : n < 10) : decimalDigits n = [n] := by
  rw [decimalDigits, Nat.toDigits_of_lt_base small, List.map_singleton,
    digitChar_toNat ⟨n, small⟩]

theorem decimalDigits_of_le {n : Nat} (large : 10 ≤ n) :
    decimalDigits n = decimalDigits (n / 10) ++ [n % 10] := by
  rw [decimalDigits, Nat.toDigits_of_base_le (by decide) large, List.map_append,
    List.map_singleton, digitChar_toNat ⟨n % 10, Nat.mod_lt n (by decide)⟩, decimalDigits]

/-- The digits of a number, as they are printed; only zero begins with a zero. -/
theorem decimalDigits_laws (n : Nat) :
    digitChars (decimalDigits n) = Nat.toDigits 10 n ∧ AreDigits (decimalDigits n) ∧
      ((decimalDigits n).head? = some 0 → n = 0) := by
  induction n using Nat.strong_induction_on with
  | _ n ih =>
    by_cases small : n < 10
    · rw [decimalDigits_of_lt small, Nat.toDigits_of_lt_base small]
      exact ⟨rfl, ⟨by simp, by simpa using small⟩, by simp⟩
    · have large : 10 ≤ n := Nat.le_of_not_lt small
      obtain ⟨printed, ⟨filled, digits⟩, leading⟩ := ih (n / 10) (by omega)
      rw [decimalDigits_of_le large, Nat.toDigits_of_base_le (by decide) large, ← printed]
      refine ⟨List.map_append, ⟨by simp, fun digit member => ?_⟩, fun zero => ?_⟩
      · rcases List.mem_append.mp member with member | member
        · exact digits digit member
        · rw [List.mem_singleton.mp member]
          exact Nat.mod_lt n (by decide)
      · rw [List.head?_append_of_ne_nil _ filled] at zero
        have head := leading zero
        omega

theorem Lexeme.written_ofNat (n : Nat) : (Lexeme.ofNat n).Written (Nat.toDigits 10 n) := by
  obtain ⟨printed, areDigits, leading⟩ := decimalDigits_laws n
  have written : (Lexeme.ofNat n).Written
      ((if false then ['-'] else []) ++ (digitChars (decimalDigits n) ++
        ((if ([] : List Nat) = [] then [] else '.' :: digitChars []) ++ []))) := by
    refine .mk areDigits (fun zero => ?_) (.inl rfl) .none
    rw [leading zero]
    rfl
  simpa [printed] using written

private theorem takeWhole_digits {n : Nat} (small : n < UInt64.size) :
    (decimalDigits n).foldl Significand.takeWhole ⟨0, 0, false⟩ = ⟨n, 0, false⟩ := by
  induction n using Nat.strong_induction_on with
  | _ n ih =>
    by_cases single : n < 10
    · rw [decimalDigits_of_lt single]
      simpa [Significand.takeWhole] using small
    · have spelled : n / 10 * 10 + n % 10 = n := by omega
      rw [decimalDigits_of_le (Nat.le_of_not_lt single), List.foldl_append,
        ih (n / 10) (by omega) (by omega)]
      simpa [Significand.takeWhole, spelled] using small

theorem Lexeme.value_ofNat {n : Nat} (small : n < UInt64.size) :
    (Lexeme.ofNat n).value = .ok (.natural n) := by
  simp [Lexeme.value, Lexeme.ofNat, takeWhole_digits small]

/-! ## Values -/

private theorem endsNumber_comma : endsNumber ',' := by decide

private theorem endsNumber_closeList : endsNumber ']' := by decide

private theorem endsNumber_closeObject : endsNumber '\x7d' := by decide

private theorem endsNumber_line : endsNumber '\n' := by decide

theorem delimits_compactItems (items : List Value) (rest : List Char) :
    Delimits (compactItems items ++ [']'] ++ rest) := by
  cases items with
  | nil => exact delimits_cons endsNumber_closeList _
  | cons item more => exact delimits_cons endsNumber_comma _

theorem delimits_compactFields (fields : List (String × Value)) (rest : List Char) :
    Delimits (compactFields fields ++ ['\x7d'] ++ rest) := by
  cases fields with
  | nil => exact delimits_cons endsNumber_closeObject _
  | cons field more => exact delimits_cons endsNumber_comma _

mutual

/-- The compact form of a value holds the value's tokens. -/
theorem laysOut_compact : ∀ value : Value, value.Whole → LaysOut value.compact value.tokens
  | .null, _ => .single .null
  | .bool true, _ => .single .true
  | .bool false, _ => .single .false
  | .number (.natural n), _ => .single (.number (Lexeme.written_ofNat n))
  | .text text, _ => .single (written_printText text)
  | .list [], _ => LaysOut.cons (.single .closeList) .openList
  | .list (item :: more), whole => by
    have first := laysOut_compact item whole.1
    have rest := laysOut_compactItems more whole.2
    have body := first.append rest fun rest _ => delimits_compactItems more rest
    simpa [Value.compact, Value.tokens] using body.cons .openList
  | .object [], _ => LaysOut.cons (.single .closeObject) .openObject
  | .object ((key, value) :: more), whole => by
    have first := laysOut_compact value whole.1
    have rest := laysOut_compactFields more whole.2
    have body := first.append rest fun rest _ => delimits_compactFields more rest
    simpa [Value.compact, Value.tokens] using
      ((body.cons .colon).cons (written_printText key)).cons .openObject

theorem laysOut_compactItems : ∀ items : List Value, WholeItems items →
    LaysOut (compactItems items ++ [']']) (tokensOfItems items ++ [.closeList])
  | [], _ => .single .closeList
  | item :: more, whole => by
    have first := laysOut_compact item whole.1
    have rest := laysOut_compactItems more whole.2
    have body := first.append rest fun rest _ => delimits_compactItems more rest
    simpa [compactItems, tokensOfItems] using body.cons .comma

theorem laysOut_compactFields : ∀ fields : List (String × Value), WholeFields fields →
    LaysOut (compactFields fields ++ ['\x7d']) (tokensOfFields fields ++ [.closeObject])
  | [], _ => .single .closeObject
  | (key, value) :: more, whole => by
    have first := laysOut_compact value whole.1
    have rest := laysOut_compactFields more whole.2
    have body := first.append rest fun rest _ => delimits_compactFields more rest
    simpa [compactFields, tokensOfFields] using
      ((body.cons .colon).cons (written_printText key)).cons .comma

end

theorem LaysOut.line {tokens : List Token} {text : List Char} (level : Nat)
    (laysOut : LaysOut text tokens) : LaysOut (lineStart level ++ text) tokens := by
  have spaces : ∀ count, LaysOut (List.replicate count ' ' ++ text) tokens := by
    intro count
    induction count with
    | zero => exact laysOut
    | succ count ih => exact ih.space rfl
  exact (spaces (2 * level)).space rfl

theorem delimits_prettyItems (level : Nat) (items : List Value) (rest : List Char) :
    Delimits (prettyItems level items ++ lineStart level ++ [']'] ++ rest) := by
  cases items with
  | nil => exact delimits_cons endsNumber_line _
  | cons item more => exact delimits_cons endsNumber_comma _

theorem delimits_prettyFields (level : Nat) (fields : List (String × Value)) (rest : List Char) :
    Delimits (prettyFields level fields ++ lineStart level ++ ['\x7d'] ++ rest) := by
  cases fields with
  | nil => exact delimits_cons endsNumber_line _
  | cons field more => exact delimits_cons endsNumber_comma _

mutual

/-- The pretty form of a value holds the value's tokens. -/
theorem laysOut_pretty : ∀ (value : Value) (level : Nat), value.Whole →
    LaysOut (value.prettyAt level) value.tokens
  | .null, _, _ => .single .null
  | .bool true, _, _ => .single .true
  | .bool false, _, _ => .single .false
  | .number (.natural n), _, _ => .single (.number (Lexeme.written_ofNat n))
  | .text text, _, _ => .single (written_printText text)
  | .list [], _, _ => LaysOut.cons (.single .closeList) .openList
  | .list (item :: more), level, whole => by
    have first := laysOut_pretty item (level + 1) whole.1
    have rest := laysOut_prettyItems more level whole.2
    have body := first.append rest fun rest _ => delimits_prettyItems level more rest
    simpa [Value.prettyAt, Value.tokens] using (body.line (level + 1)).cons .openList
  | .object [], _, _ => LaysOut.cons (.single .closeObject) .openObject
  | .object ((key, value) :: more), level, whole => by
    have first := laysOut_pretty value (level + 1) whole.1
    have rest := laysOut_prettyFields more level whole.2
    have body := first.append rest fun rest _ => delimits_prettyFields level more rest
    simpa [Value.prettyAt, Value.tokens] using
      ((((body.space rfl).cons .colon).cons (written_printText key)).line (level + 1)).cons
        .openObject

theorem laysOut_prettyItems : ∀ (items : List Value) (level : Nat), WholeItems items →
    LaysOut (prettyItems level items ++ lineStart level ++ [']'])
      (tokensOfItems items ++ [.closeList])
  | [], level, _ => by
    simpa [prettyItems, tokensOfItems] using (LaysOut.single .closeList).line level
  | item :: more, level, whole => by
    have first := laysOut_pretty item (level + 1) whole.1
    have rest := laysOut_prettyItems more level whole.2
    have body := first.append rest fun rest _ => delimits_prettyItems level more rest
    simpa [prettyItems, tokensOfItems] using (body.line (level + 1)).cons .comma

theorem laysOut_prettyFields : ∀ (fields : List (String × Value)) (level : Nat),
    WholeFields fields →
    LaysOut (prettyFields level fields ++ lineStart level ++ ['\x7d'])
      (tokensOfFields fields ++ [.closeObject])
  | [], level, _ => by
    simpa [prettyFields, tokensOfFields] using (LaysOut.single .closeObject).line level
  | (key, value) :: more, level, whole => by
    have first := laysOut_pretty value (level + 1) whole.1
    have rest := laysOut_prettyFields more level whole.2
    have body := first.append rest fun rest _ => delimits_prettyFields level more rest
    simpa [prettyFields, tokensOfFields] using
      ((((body.space rfl).cons .colon).cons (written_printText key)).line (level + 1)).cons
        .comma

end

theorem laidOut_toCompact {value : Value} (whole : value.Whole) :
    LaidOut value.tokens value.toCompact.toList := by
  simpa [Value.toCompact] using (laysOut_compact value whole).laidOut

theorem laidOut_toPretty {value : Value} (whole : value.Whole) :
    LaidOut value.tokens value.toPretty.toList := by
  simpa [Value.toPretty] using (laysOut_pretty value 0 whole).laidOut

end Stencil.Json
