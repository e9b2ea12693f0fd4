import Mathlib.Tactic.SplitIfs
import Stencil.Literal

/-!
# How literals are read

A generated source is read in two steps.  First escapes by codes are translated, which gives
code units; what starts such an escape is decided by the backslashes that stand before.  Then
a literal is read unit by unit up to its closing quote, and the short escapes in it are
replaced by what they stand for.  An escaped text between quotes passes through both steps as
one literal that stands for the text (`standsFor_escape`, `StandsFor.read_quoted`).

An escaped text also ends where it is closed: no escaped form of a character starts another
one, nor a closing quote, so what stands before a closing quote can be told
(`escape_append_inj`).
-/

namespace Stencil.Literal

/-- A text that is written by codes, none of which starts another one, can be told from what is
written, up to an end that starts no code. -/
theorem flatMap_append_inj {α β : Type} {code : α → List β}
    (apart : ∀ {x y rest more}, code x ++ rest = code y ++ more → x = y ∧ rest = more)
    {left right : List α} {ends other : List β} (stops : ∀ x rest, code x ++ rest ≠ ends)
    (stopsToo : ∀ x rest, code x ++ rest ≠ other)
    (same : left.flatMap code ++ ends = right.flatMap code ++ other) :
    left = right ∧ ends = other := by
  induction left generalizing right with
  | nil =>
    cases right with
    | nil => exact ⟨rfl, same⟩
    | cons y right =>
      rw [List.flatMap_cons, List.append_assoc] at same
      exact absurd same.symm (stops y _)
  | cons x left ih =>
    rw [List.flatMap_cons, List.append_assoc] at same
    cases right with
    | nil => exact absurd same (stopsToo x _)
    | cons y right =>
      rw [List.flatMap_cons, List.append_assoc] at same
      obtain ⟨rfl, later⟩ := apart same
      obtain ⟨rfl, equal⟩ := ih later
      exact ⟨rfl, equal⟩

/-! ## Code units -/

/-- The code unit of a character of the first plane. -/
def codeUnit (c : Char) : UInt16 := UInt16.ofNat c.toNat

/-- The code units of a character: one, or a surrogate pair. -/
def codeUnits (c : Char) : List UInt16 :=
  if c.toNat < 0x10000 then [codeUnit c]
  else [UInt16.ofNat (0xD800 + (c.toNat - 0x10000) / 0x400),
    UInt16.ofNat (0xDC00 + (c.toNat - 0x10000) % 0x400)]

def textUnits (text : String) : List UInt16 := text.toList.flatMap codeUnits

theorem toNat_cases (c : Char) : c.toNat < 0xD800 ∨ 0xDFFF < c.toNat ∧ c.toNat < 0x110000 := by
  have valid := c.valid
  simp only [UInt32.isValidChar, Nat.isValidChar] at valid
  exact valid

theorem ofNat_inj {m n : Nat} (first : m < 0x10000) (second : n < 0x10000) :
    UInt16.ofNat m = UInt16.ofNat n ↔ m = n := by
  rw [← UInt16.toNat_inj, UInt16.toNat_ofNat_of_lt' first, UInt16.toNat_ofNat_of_lt' second]

theorem codeUnits_ne_nil (c : Char) : codeUnits c ≠ [] := by
  unfold codeUnits
  split_ifs
  · simp
  · simp

theorem codeUnit_not_mem {c other : Char} (different : c ≠ other) (low : other.toNat < 0xD800) :
    codeUnit other ∉ codeUnits c := by
  have apart {n : Nat} (small : n < 0x10000) (unlike : other.toNat ≠ n) :
      codeUnit other ≠ UInt16.ofNat n := fun same =>
    unlike ((ofNat_inj (by omega) small).mp same)
  have bound := toNat_cases c
  unfold codeUnits
  split_ifs with small
  · have unlike : other.toNat ≠ c.toNat := fun same => different (Char.toNat_inj.mp same.symm)
    exact mt List.mem_singleton.mp (apart small unlike)
  · simp only [List.mem_cons, List.not_mem_nil, or_false, not_or]
    exact ⟨apart (by omega) (by omega), apart (by omega) (by omega)⟩

theorem codeUnits_append_inj {c d : Char} {rest more : List UInt16}
    (same : codeUnits c ++ rest = codeUnits d ++ more) : c = d ∧ rest = more := by
  have own := toNat_cases c
  have other := toNat_cases d
  suffices equal : c.toNat = d.toNat ∧ rest = more from ⟨Char.toNat_inj.mp equal.1, equal.2⟩
  unfold codeUnits codeUnit at same
  split_ifs at same with first second second
  · exact ⟨(ofNat_inj first second).mp (List.cons.inj same).1, (List.cons.inj same).2⟩
  · have := (ofNat_inj first (by omega)).mp (List.cons.inj same).1
    omega
  · have := (ofNat_inj (by omega) second).mp (List.cons.inj same).1
    omega
  · obtain ⟨highs, lows⟩ := List.cons.inj same
    obtain ⟨lows, ends⟩ := List.cons.inj lows
    have high := (ofNat_inj (by omega) (by omega)).mp highs
    have low := (ofNat_inj (by omega) (by omega)).mp lows
    exact ⟨by omega, ends⟩

theorem textUnits_injective {first second : String} (same : textUnits first = textUnits second) :
    first = second := by
  have stops (c : Char) (rest : List UInt16) : codeUnits c ++ rest ≠ [] := fun empty =>
    codeUnits_ne_nil c (List.append_eq_nil_iff.mp empty).1
  have whole : first.toList.flatMap codeUnits ++ [] = second.toList.flatMap codeUnits ++ [] := by
    rw [List.append_nil, List.append_nil]
    exact same
  exact String.toList_inj.mp (flatMap_append_inj codeUnits_append_inj stops stops whole).1

/-! ## Reading sources -/

/-- Where the translation of a source stands. -/
inductive Position where
  /-- An even number of backslashes stands right before. -/
  | even
  /-- An odd number of backslashes stands right before, the last of which is not yet translated. -/
  | odd
  /-- The letters that open an escape stand right before. -/
  | marks
  /-- Digits with this value stand right before; this many and one more are missing. -/
  | digits (missing value : Nat)

/-- Translates escapes by codes.  A backslash starts one if an even number of backslashes stands
right before it and a letter u right after it; four hexadecimal digits have to follow then. -/
def translate : Position → List Char → Option (List UInt16)
  | .even, [] => some []
  | .odd, [] => some [codeUnit '\\']
  | .marks, [] => none
  | .digits _ _, [] => none
  | .even, c :: rest =>
    if c = '\\' then translate .odd rest else (translate .even rest).map (codeUnits c ++ ·)
  | .odd, c :: rest =>
    if c = 'u' then translate .marks rest
    else (translate .even rest).map (codeUnit '\\' :: codeUnits c ++ ·)
  | .marks, c :: rest =>
    if c = 'u' then translate .marks rest
    else
      match Digest.hexValue? c with
      | some value => translate (.digits 2 value) rest
      | none => none
  | .digits missing value, c :: rest =>
    match Digest.hexValue? c with
    | none => none
    | some digit =>
      match missing with
      | 0 => (translate .even rest).map (UInt16.ofNat (16 * value + digit) :: ·)
      | missing + 1 => translate (.digits missing (16 * value + digit)) rest

/-- The letters of short escapes, with the characters that these stand for. -/
def shortEscapes : List (Char × Char) :=
  [('b', '\x08'), ('t', '\t'), ('n', '\n'), ('f', '\x0c'), ('r', '\r'), ('"', '"'), ('\\', '\\')]

/-- What the code unit after a backslash stands for. -/
def shortEscape? (letter : UInt16) : Option UInt16 :=
  (shortEscapes.find? fun escape => codeUnit escape.1 == letter).map fun escape =>
    codeUnit escape.2

/-- Reads a literal after its opening quote: the text that it stands for, and what follows the
closing quote.  A literal ends in the line where it starts.  After a backslash a letter is due. -/
def readBody : (letterDue : Bool) → List UInt16 → Option (List UInt16 × List UInt16)
  | _, [] => none
  | true, letter :: rest =>
    match shortEscape? letter with
    | none => none
    | some meaning => (readBody false rest).map fun (text, left) => (meaning :: text, left)
  | false, unit :: rest =>
    if unit = codeUnit '"' then some ([], rest)
    else if unit = codeUnit '\n' ∨ unit = codeUnit '\r' then none
    else if unit = codeUnit '\\' then readBody true rest
    else (readBody false rest).map fun (text, left) => (unit :: text, left)

/-- Reads a literal.  Three quotes in a row open a block of text and no literal. -/
def readLiteral : List UInt16 → Option (List UInt16 × List UInt16)
  | [] => none
  | unit :: rest =>
    if unit = codeUnit '"' ∧ rest.take 2 ≠ [codeUnit '"', codeUnit '"'] then readBody false rest
    else none

/-- Reads a literal at the start of a source. -/
def read (source : List Char) : Option (List UInt16 × List UInt16) :=
  (translate .even source).bind readLiteral

/-! ## How characters are escaped -/

/-- The forms in which a character is escaped. -/
inductive Escaped (c : Char) : List Char → Prop where
  /-- By a letter that stands for it. -/
  | short {letter : Char} (listed : (letter, c) ∈ shortEscapes) : Escaped c ['\\', letter]
  /-- By its code. -/
  | code (control : isControl c = true) (inLine : c ≠ '\n' ∧ c ≠ '\r') :
      Escaped c ('\\' :: 'u' :: fourDigits c.toNat)
  /-- Not at all. -/
  | plain (quote : c ≠ '"') (backslash : c ≠ '\\') (printed : isControl c = false) : Escaped c [c]

theorem escaped_escapedChar (c : Char) : Escaped c (escapedChar c) := by
  unfold escapedChar
  split_ifs with quote backslash newline carriage tab backspace page control
  case pos => subst quote; exact .short (by decide)
  case pos => subst backslash; exact .short (by decide)
  case pos => subst newline; exact .short (by decide)
  case pos => subst carriage; exact .short (by decide)
  case pos => subst tab; exact .short (by decide)
  case pos => subst backspace; exact .short (by decide)
  case pos => subst page; exact .short (by decide)
  case pos => exact .code control ⟨newline, carriage⟩
  case neg => exact .plain quote backslash (Bool.eq_false_iff.mpr control)

theorem lt_of_isControl {c : Char} (control : isControl c = true) : c.toNat < 0xA0 := by
  simp only [isControl, Bool.or_eq_true, Bool.and_eq_true, decide_eq_true_eq] at control
  omega

theorem mem_shortEscapes {letter c : Char} (listed : (letter, c) ∈ shortEscapes) :
    letter ≠ 'u' ∧ isControl letter = false ∧ codeUnits letter = [codeUnit letter] ∧
      codeUnits c = [codeUnit c] ∧ shortEscape? (codeUnit letter) = some (codeUnit c) := by
  have all : ∀ escape ∈ shortEscapes, escape.1 ≠ 'u' ∧ isControl escape.1 = false ∧
      codeUnits escape.1 = [codeUnit escape.1] ∧ codeUnits escape.2 = [codeUnit escape.2] ∧
      shortEscape? (codeUnit escape.1) = some (codeUnit escape.2) := by decide +kernel
  exact all _ listed

/-! ## Codes -/

theorem hexDigit_ne_u (n : Fin 16) : Digest.hexDigit n ≠ 'u' := by
  revert n
  decide

theorem translate_fourDigits {n : Nat} (small : n < 0x10000) (rest : List Char) :
    translate .marks (fourDigits n ++ rest) =
      (translate .even rest).map (UInt16.ofNat n :: ·) := by
  have digit (m : Nat) : Digest.hexValue? (Digest.hexDigit (m % 16)) = some (m % 16) :=
    Digest.hexValue?_hexDigit ⟨m % 16, Nat.mod_lt m (by decide)⟩
  have other : Digest.hexDigit (n / 4096 % 16) ≠ 'u' :=
    hexDigit_ne_u ⟨n / 4096 % 16, Nat.mod_lt _ (by decide)⟩
  have value : 16 * (16 * (16 * (n / 4096 % 16) + n / 256 % 16) + n / 16 % 16) + n % 16 = n := by
    omega
  simp only [fourDigits, List.map_cons, List.map_nil, List.cons_append, List.nil_append, translate,
    if_neg other, digit, value]

/-! ## Reading what was escaped -/

/-- What a part of a source stands for: it is translated on its own, and the translation stands for
some code units in a literal, of which it does not close one. -/
structure StandsFor (part : List Char) (meaning middle : List UInt16) : Prop where
  translated : ∀ rest, translate .even (part ++ rest) = (translate .even rest).map (middle ++ ·)
  read : ∀ later, readBody false (middle ++ later) =
    (readBody false later).map fun (text, left) => (meaning ++ text, left)
  opens : middle.head? ≠ some (codeUnit '"')

theorem translate_plain {c : Char} (backslash : c ≠ '\\') (rest : List Char) :
    translate .even (c :: rest) = (translate .even rest).map (codeUnits c ++ ·) := by
  rw [translate, if_neg backslash]

theorem readBody_plain {units : List UInt16} (quote : codeUnit '"' ∉ units)
    (backslash : codeUnit '\\' ∉ units) (newline : codeUnit '\n' ∉ units)
    (carriage : codeUnit '\r' ∉ units) (later : List UInt16) :
    readBody false (units ++ later) =
      (readBody false later).map fun (text, left) => (units ++ text, left) := by
  induction units with
  | nil => simp
  | cons unit rest ih =>
    rw [List.mem_cons, not_or] at quote backslash newline carriage
    rw [List.cons_append, readBody, if_neg (Ne.symm quote.1),
      if_neg (not_or.mpr ⟨Ne.symm newline.1, Ne.symm carriage.1⟩), if_neg (Ne.symm backslash.1),
      ih quote.2 backslash.2 newline.2 carriage.2, Option.map_map]
    rfl

/-- A character that is translated to its own code units stands for itself, unless it means something
in a literal. -/
theorem standsFor_codeUnits {c : Char} {part : List Char}
    (translated : ∀ rest,
      translate .even (part ++ rest) = (translate .even rest).map (codeUnits c ++ ·))
    (quote : c ≠ '"') (backslash : c ≠ '\\') (newline : c ≠ '\n') (carriage : c ≠ '\r') :
    StandsFor part (codeUnits c) (codeUnits c) where
  translated := translated
  read := readBody_plain (codeUnit_not_mem quote (by decide))
    (codeUnit_not_mem backslash (by decide)) (codeUnit_not_mem newline (by decide))
    (codeUnit_not_mem carriage (by decide))
  opens := fun first => codeUnit_not_mem quote (by decide) (List.mem_of_mem_head? first)

theorem standsFor_of_escaped {c : Char} {part : List Char} (escaped : Escaped c part) :
    ∃ middle, StandsFor part (codeUnits c) middle := by
  cases escaped with
  | @short letter listed =>
    obtain ⟨mark, -, single, own, meaning⟩ := mem_shortEscapes listed
    refine ⟨[codeUnit '\\', codeUnit letter], ⟨fun rest => ?_, fun later => ?_, ?_⟩⟩
    · simp only [List.cons_append, List.nil_append, translate, if_true, if_neg mark, single]
    · rw [own, List.cons_append, readBody, if_neg (by decide), if_neg (by decide), if_pos rfl]
      simp only [List.cons_append, List.nil_append, readBody, meaning]
    · rw [List.head?_cons]
      decide
  | code control inLine =>
    have small := lt_of_isControl control
    have single : codeUnits c = [codeUnit c] := if_pos (by omega)
    have quote : c ≠ '"' := by rintro rfl; exact absurd control (by decide)
    have backslash : c ≠ '\\' := by rintro rfl; exact absurd control (by decide)
    refine ⟨codeUnits c, standsFor_codeUnits ?_ quote backslash inLine.1 inLine.2⟩
    intro rest
    rw [single, List.cons_append, List.cons_append, translate, if_pos rfl, translate, if_pos rfl,
      translate_fourDigits (by omega)]
    rfl
  | plain quote backslash printed =>
    have newline : c ≠ '\n' := by rintro rfl; exact absurd printed (by decide)
    have carriage : c ≠ '\r' := by rintro rfl; exact absurd printed (by decide)
    exact ⟨codeUnits c,
      standsFor_codeUnits (translate_plain backslash) quote backslash newline carriage⟩

theorem StandsFor.append {first second : List Char} {meaning other middle ending : List UInt16}
    (head : StandsFor first meaning middle) (tail : StandsFor second other ending) :
    StandsFor (first ++ second) (meaning ++ other) (middle ++ ending) := by
  constructor
  case translated =>
    intro rest
    rw [List.append_assoc, head.translated, tail.translated, Option.map_map]
    simp only [Function.comp_def, List.append_assoc]
  case read =>
    intro later
    rw [List.append_assoc, head.read, tail.read, Option.map_map]
    simp only [Function.comp_def, List.append_assoc]
  case opens =>
    cases middle with
    | nil => exact tail.opens
    | cons unit rest => exact head.opens

/-- An escaped text stands for the text. -/
theorem standsFor_escape (text : String) :
    ∃ middle, StandsFor (escape text).toList (textUnits text) middle := by
  unfold escape textUnits
  rw [String.toList_ofList]
  induction text.toList with
  | nil => exact ⟨[], by simp, by simp, by simp⟩
  | cons c rest ih =>
    obtain ⟨first, head⟩ := standsFor_of_escaped (escaped_escapedChar c)
    obtain ⟨more, tail⟩ := ih
    rw [List.flatMap_cons, List.flatMap_cons]
    exact ⟨first ++ more, head.append tail⟩

/-- A text that stands for something is one literal between quotes, unless another quote makes it
something else. -/
theorem StandsFor.read_quoted {part : List Char} {meaning middle : List UInt16}
    (stands : StandsFor part meaning middle) {next : Char} (quote : next ≠ '"')
    (backslash : next ≠ '\\') (rest : List Char) :
    Literal.read ('"' :: part ++ '"' :: next :: rest) =
      (translate .even rest).map fun later => (meaning, codeUnits next ++ later) := by
  unfold Literal.read
  rw [List.cons_append, translate_plain (by decide), stands.translated,
    translate_plain (by decide), translate_plain backslash]
  cases translate .even rest with
  | none => rfl
  | some later =>
    have single : codeUnits '"' = [codeUnit '"'] := by decide
    have noBlock : (middle ++ codeUnit '"' :: (codeUnits next ++ later)).take 2 ≠
        [codeUnit '"', codeUnit '"'] := by
      cases whole : middle with
      | cons unit more =>
        intro block
        have opens := stands.opens
        rw [whole, List.head?_cons] at opens
        exact opens (congrArg some (List.cons.inj block).1)
      | nil =>
        intro block
        have other := codeUnit_not_mem quote (by decide)
        obtain ⟨first, more, split⟩ := List.exists_cons_of_ne_nil (codeUnits_ne_nil next)
        rw [split] at block other
        have second := (List.cons.inj (List.cons.inj block).2).1
        exact other (second ▸ List.mem_cons_self)
    simp only [Option.map_some, Option.bind_some, single, List.singleton_append, readLiteral,
      ne_eq, noBlock, not_false_eq_true, and_self, if_true]
    rw [stands.read, readBody, if_pos rfl]
    simp only [Option.map_some, List.append_nil]

/-! ## Where an escaped text ends -/

theorem fourDigits_injective {m n : Nat} (first : m < 0x10000) (second : n < 0x10000)
    (same : fourDigits m = fourDigits n) : m = n := by
  have digit {a b : Nat} (equal : Digest.hexDigit (a % 16) = Digest.hexDigit (b % 16)) :
      a % 16 = b % 16 := by
    have values := congrArg Digest.hexValue? equal
    rw [Digest.hexValue?_hexDigit ⟨a % 16, Nat.mod_lt a (by decide)⟩,
      Digest.hexValue?_hexDigit ⟨b % 16, Nat.mod_lt b (by decide)⟩] at values
    exact Option.some.inj values
  simp only [fourDigits, List.map_cons, List.map_nil, List.cons.injEq, and_true] at same
  obtain ⟨thousands, hundreds, tens, ones⟩ := same
  have := digit thousands
  have := digit hundreds
  have := digit tens
  have := digit ones
  omega

theorem shortEscapes_functional {letter c d : Char} (first : (letter, c) ∈ shortEscapes)
    (second : (letter, d) ∈ shortEscapes) : c = d := by
  have all : ∀ escape ∈ shortEscapes, ∀ other ∈ shortEscapes,
      escape.1 = other.1 → escape.2 = other.2 := by decide
  exact all _ first _ second rfl

/-- No escaped form of a character starts another one. -/
theorem Escaped.append_inj {c d : Char} {form other rest more : List Char}
    (first : Escaped c form) (second : Escaped d other) (same : form ++ rest = other ++ more) :
    c = d ∧ rest = more := by
  cases first with
  | @short letter listed =>
    cases second with
    | @short letter' listed' =>
      obtain ⟨rfl, rfl⟩ : letter = letter' ∧ rest = more := by simpa using same
      exact ⟨shortEscapes_functional listed listed', rfl⟩
    | code control inLine =>
      have mark : letter = 'u' := (List.cons.inj (List.cons.inj same).2).1
      exact absurd mark (mem_shortEscapes listed).1
    | plain quote backslash printed => exact absurd (List.cons.inj same).1.symm backslash
  | code control inLine =>
    cases second with
    | @short letter listed =>
      have mark : 'u' = letter := (List.cons.inj (List.cons.inj same).2).1
      exact absurd mark.symm (mem_shortEscapes listed).1
    | code control' inLine' =>
      have small := lt_of_isControl control
      have small' := lt_of_isControl control'
      obtain ⟨digits, ends⟩ := List.append_inj (List.cons.inj (List.cons.inj same).2).2 rfl
      have numbers := fourDigits_injective (by omega) (by omega) digits
      exact ⟨Char.toNat_inj.mp numbers, ends⟩
    | plain quote backslash printed => exact absurd (List.cons.inj same).1.symm backslash
  | plain quote backslash printed =>
    cases second with
    | short listed => exact absurd (List.cons.inj same).1 backslash
    | code control inLine => exact absurd (List.cons.inj same).1 backslash
    | plain quote' backslash' printed' => exact List.cons.inj same

theorem Escaped.ne_quote {c : Char} {form rest more : List Char} (escaped : Escaped c form) :
    form ++ rest ≠ '"' :: more := by
  cases escaped with
  | short listed => simp
  | code control inLine => simp
  | plain quote backslash printed => simp [quote]

/-- A closing quote shows where an escaped text ends, and the text is known then. -/
theorem escape_append_inj {first second : String} {rest more : List Char}
    (same : (escape first).toList ++ '"' :: rest = (escape second).toList ++ '"' :: more) :
    first = second ∧ rest = more := by
  unfold escape at same
  rw [String.toList_ofList, String.toList_ofList] at same
  obtain ⟨equal, ends⟩ := flatMap_append_inj
    (fun forms => (escaped_escapedChar _).append_inj (escaped_escapedChar _) forms)
    (fun c _ => (escaped_escapedChar c).ne_quote) (fun c _ => (escaped_escapedChar c).ne_quote) same
  exact ⟨String.toList_inj.mp equal, (List.cons.inj ends).2⟩

/-! ## What an escaped text is made of -/

theorem isControl_hexDigit (n : Fin 16) : isControl (Digest.hexDigit n) = false := by
  revert n
  decide

theorem Escaped.noControl {c : Char} {form : List Char} (escaped : Escaped c form) :
    ∀ d ∈ form, isControl d = false := by
  have backslash : isControl '\\' = false := by decide
  cases escaped with
  | short listed => simp [backslash, (mem_shortEscapes listed).2.1]
  | code control inLine =>
    have digit (m : Nat) : isControl (Digest.hexDigit (m % 16)) = false :=
      isControl_hexDigit ⟨m % 16, Nat.mod_lt m (by decide)⟩
    have mark : isControl 'u' = false := by decide
    simp [fourDigits, backslash, mark, digit]
  | plain quote backslash printed => simp [printed]

/-- No control character is left in an escaped text. -/
theorem noControl_escape (text : String) :
    ∀ c ∈ (escape text).toList, isControl c = false := by
  intro c member
  unfold escape at member
  rw [String.toList_ofList] at member
  obtain ⟨own, -, inForm⟩ := List.mem_flatMap.mp member
  exact (escaped_escapedChar own).noControl c inForm

end Stencil.Literal
