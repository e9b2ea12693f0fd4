import Stencil.Proofs.Json.Layout

/-!
# What is cut into tokens

A text that is cut into tokens without a fault is one that holds these tokens.  Where
the machine stands in the middle of a token, what it has read of this token decides how the
token can go on.
-/

namespace Stencil.Json

/-- Whether a token is none of those that say what is wrong. -/
def Token.Sound : Token → Prop
  | .cutWord | .misspeltWord | .cutNumber | .malformedNumber | .stray => False
  | .text quoted => quoted.ending = .closed
  | _ => True

/-! ## Numbers -/

theorem eq_digitChar_of_digit? {c : Char} {digit : Nat} (value : digit? c = some digit) :
    c = Nat.digitChar digit ∧ digit < 10 := by
  unfold digit? at value
  split_ifs at value with range
  have low : 48 ≤ c.toNat := range.1
  have high : c.toNat ≤ 57 := range.2
  have chars : ∀ n : Fin 10, Char.ofNat (48 + n.val) = Nat.digitChar n.val := by decide
  cases value
  have named := chars ⟨c.toNat - 48, by omega⟩
  have sum : 48 + (c.toNat - 48) = c.toNat := by omega
  refine ⟨?_, by omega⟩
  rw [← named]
  show c = Char.ofNat (48 + (c.toNat - 48))
  rw [sum, Char.ofNat_toNat]

namespace NumberDraft

/-- The digits of a number before its exponent, and how they are written. -/
structure Significant (negative : Bool) (whole fraction : List Nat) (text : List Char) : Prop where
  wholeDigits : AreDigits whole
  noLeadingZero : whole.head? = some 0 → whole = [0]
  fractionDigits : fraction = [] ∨ AreDigits fraction
  spelled : text = (if negative then ['-'] else []) ++ (digitChars whole ++
    (if fraction = [] then [] else '.' :: digitChars fraction))

/-- What was read of a number that is in the making. -/
inductive Taken : NumberDraft → List Char → Prop
  | sign : Taken .ofSign ['-']
  | digits {negative : Bool} {whole fraction : List Nat} {text : List Char}
      (significant : Significant negative whole fraction text) :
      Taken ((ofWhole negative whole).withFraction fraction) text
  | point {negative : Bool} {whole : List Nat} {text : List Char}
      (significant : Significant negative whole [] text) :
      Taken { ofWhole negative whole with part := .point } (text ++ ['.'])
  | mark {negative : Bool} {whole fraction : List Nat} {text : List Char} {mark : Char}
      (significant : Significant negative whole fraction text) (isMark : mark ∈ ['e', 'E']) :
      Taken { (ofWhole negative whole).withFraction fraction with part := .mark } (text ++ [mark])
  | exponentSign {negative exponentNegative : Bool} {whole fraction : List Nat} {text : List Char}
      {mark sign : Char} (significant : Significant negative whole fraction text)
      (isMark : mark ∈ ['e', 'E']) (isSign : [sign] ∈ exponentSigns exponentNegative) :
      Taken { (ofWhole negative whole).withFraction fraction with
        part := .exponentSign, exponentNegative } (text ++ [mark, sign])
  | exponent {negative exponentNegative : Bool} {whole fraction digits : List Nat}
      {text sign : List Char} {mark : Char}
      (significant : Significant negative whole fraction text) (isMark : mark ∈ ['e', 'E'])
      (isSign : sign ∈ exponentSigns exponentNegative) (areDigits : AreDigits digits) :
      Taken (((ofWhole negative whole).withFraction fraction).withExponent
        (some (exponentNegative, digits))) (text ++ mark :: (sign ++ digitChars digits))

theorem areDigits_append {digits : List Nat} (areDigits : digits = [] ∨ AreDigits digits)
    {digit : Nat} (small : digit < 10) : AreDigits (digits ++ [digit]) := by
  refine ⟨by simp, ?_⟩
  intro other member
  rcases List.mem_append.mp member with before | last
  · rcases areDigits with rfl | areDigits
    · cases before
    · exact areDigits.2 other before
  · cases List.mem_singleton.mp last
    exact small

theorem digitChars_append (digits : List Nat) (digit : Nat) :
    digitChars (digits ++ [digit]) = digitChars digits ++ [Nat.digitChar digit] :=
  List.map_append

theorem Taken.written {draft : NumberDraft} {text : List Char} (taken : draft.Taken text)
    {lexeme : Lexeme} (finished : draft.lexeme? = some lexeme) : lexeme.Written text := by
  have lexeme_written : ∀ {negative : Bool} {whole fraction : List Nat}
      {exponent : Option (Bool × List Nat)} {digits exponentText : List Char},
      Significant negative whole fraction digits → ExponentWritten exponent exponentText →
      (((ofWhole negative whole).withFraction fraction).withExponent exponent).lexeme? =
        some lexeme → lexeme.Written (digits ++ exponentText) := by
    intro negative whole fraction exponent digits exponentText significant written finished
    cases (lexeme?_finished negative whole fraction exponent).symm.trans finished
    rw [significant.spelled, List.append_assoc, List.append_assoc]
    exact .mk significant.wholeDigits significant.noLeadingZero significant.fractionDigits written
  cases taken with
  | sign | point | mark | exponentSign => cases finished
  | digits significant =>
    have written := lexeme_written significant .none finished
    rwa [List.append_nil] at written
  | exponent significant isMark isSign areDigits =>
    exact lexeme_written significant (.some isMark isSign areDigits) finished

namespace Significant

variable {negative : Bool} {whole fraction : List Nat} {text : List Char} {digit : Nat}

theorem more_whole (significant : Significant negative whole [] text) (goesOn : whole ≠ [0])
    (small : digit < 10) :
    Significant negative (whole ++ [digit]) [] (text ++ [Nat.digitChar digit]) where
  wholeDigits := areDigits_append (.inr significant.wholeDigits) small
  noLeadingZero := by
    intro zero
    rw [List.head?_append_of_ne_nil _ significant.wholeDigits.1] at zero
    exact absurd (significant.noLeadingZero zero) goesOn
  fractionDigits := .inl rfl
  spelled := by simp [significant.spelled, digitChars_append]

theorem more_fraction (significant : Significant negative whole fraction text)
    (small : digit < 10) : Significant negative whole (fraction ++ [digit])
      (text ++ (if fraction = [] then ['.'] else []) ++ [Nat.digitChar digit]) where
  wholeDigits := significant.wholeDigits
  noLeadingZero := significant.noLeadingZero
  fractionDigits := .inr (areDigits_append significant.fractionDigits small)
  spelled := by
    by_cases empty : fraction = []
    · simp [significant.spelled, empty, digitChars]
    · simp [significant.spelled, empty, digitChars_append]

/-- A digit after those of the whole part and of the fraction. -/
private theorem step_digit (significant : Significant negative whole fraction text) {c : Char}
    {next : NumberDraft} (value : digit? c = some digit)
    (more : ((ofWhole negative whole).withFraction fraction).step c = .more next) :
    next.Taken (text ++ [c]) := by
  obtain ⟨rfl, small⟩ := eq_digitChar_of_digit? value
  by_cases empty : fraction = []
  · subst empty
    have goesOn : whole ≠ [0] := by
      intro zero
      simp [NumberDraft.step, ofWhole, withFraction, zero, value] at more
    have longer : whole ++ [digit] ≠ [0] := by
      simp [List.append_eq_singleton_iff, significant.wholeDigits.1]
    have same : (ofWhole negative (whole ++ [digit])).withFraction [] = next := by
      simpa [NumberDraft.step, ofWhole, withFraction, goesOn, longer, value] using more
    exact same ▸ .digits (significant.more_whole goesOn small)
  · have same : (ofWhole negative whole).withFraction (fraction ++ [digit]) = next := by
      simpa [NumberDraft.step, ofWhole, withFraction, empty, value] using more
    have significant := significant.more_fraction small
    rw [if_neg empty, List.append_nil] at significant
    exact same ▸ .digits significant

private theorem step_mark (significant : Significant negative whole fraction text) {c : Char}
    {next : NumberDraft} (value : digit? c = none)
    (more : ((ofWhole negative whole).withFraction fraction).step c = .more next) :
    next.Taken (text ++ [c]) := by
  by_cases isMark : c = 'e' ∨ c = 'E'
  · have same : { (ofWhole negative whole).withFraction fraction with part := .mark } =
        next := by
      rcases isMark with rfl | rfl <;> by_cases empty : fraction = [] <;>
        by_cases zero : whole = [0] <;>
        simpa [NumberDraft.step, ofWhole, withFraction, empty, zero, value] using more
    exact same ▸ .mark significant (List.mem_pair.mpr isMark)
  · by_cases point : c = '.' ∧ fraction = []
    · obtain ⟨rfl, rfl⟩ := point
      have same : { ofWhole negative whole with part := .point } = next := by
        by_cases zero : whole = [0] <;>
          simpa [NumberDraft.step, ofWhole, withFraction, zero, value] using more
      exact same ▸ .point significant
    · by_cases empty : fraction = [] <;> by_cases zero : whole = [0] <;>
        simp_all [NumberDraft.step, ofWhole, withFraction]

private theorem step_exponent (significant : Significant negative whole fraction text)
    {mark c : Char} (isMark : mark ∈ ['e', 'E']) {next : NumberDraft}
    (more : ({ (ofWhole negative whole).withFraction fraction with part := .mark } :
      NumberDraft).step c = .more next) : next.Taken (text ++ [mark, c]) := by
  cases value : digit? c with
  | none =>
    have signed : ∃ exponentNegative, [c] ∈ exponentSigns exponentNegative ∧
        { (ofWhole negative whole).withFraction fraction with
          part := .exponentSign, exponentNegative } = next := by
      simp only [NumberDraft.step, value] at more
      split_ifs at more with plus minus
      · exact ⟨false, by simp [exponentSigns, plus], by simpa using more⟩
      · exact ⟨true, by simp [exponentSigns, minus], by simpa using more⟩
    obtain ⟨exponentNegative, isSign, same⟩ := signed
    exact same ▸ .exponentSign significant isMark isSign
  | some digit =>
    obtain ⟨rfl, small⟩ := eq_digitChar_of_digit? value
    have same : ((ofWhole negative whole).withFraction fraction).withExponent
        (some (false, [digit])) = next := by
      simpa [NumberDraft.step, withExponent, value] using more
    have unsigned : [] ∈ exponentSigns false := List.mem_pair.mpr (.inl rfl)
    have single : AreDigits [digit] := areDigits_append (.inl rfl) small
    exact same ▸ .exponent significant isMark unsigned single

end Significant

theorem Taken.step {draft next : NumberDraft} {text : List Char} {c : Char}
    (taken : draft.Taken text) (more : draft.step c = .more next) : next.Taken (text ++ [c]) := by
  cases taken with
  | sign =>
    cases value : digit? c with
    | none => simp [NumberDraft.step, ofSign, value] at more
    | some digit =>
      obtain ⟨rfl, small⟩ := eq_digitChar_of_digit? value
      have significant : Significant true [digit] [] ['-', Nat.digitChar digit] :=
        ⟨⟨by simp, by simpa using small⟩, by simp, .inl rfl, by simp [digitChars]⟩
      have same : (ofWhole true [digit]).withFraction [] = next := by
        simpa [NumberDraft.step, ofSign, value, ofWhole, withFraction] using more
      exact same ▸ .digits significant
  | digits significant =>
    cases value : digit? c with
    | none => exact significant.step_mark value more
    | some digit => exact significant.step_digit value more
  | @point negative whole _ significant =>
    cases value : digit? c with
    | none => simp [NumberDraft.step, value] at more
    | some digit =>
      obtain ⟨rfl, small⟩ := eq_digitChar_of_digit? value
      have same : (ofWhole negative whole).withFraction [digit] = next := by
        simpa [NumberDraft.step, ofWhole, withFraction, value] using more
      exact same ▸ .digits (significant.more_fraction small)
  | mark significant isMark =>
    rw [List.append_assoc]
    exact significant.step_exponent isMark more
  | @exponentSign negative exponentNegative whole fraction text mark sign significant isMark
      isSign =>
    rw [List.append_assoc]
    cases value : digit? c with
    | none => simp [NumberDraft.step, value] at more
    | some digit =>
      obtain ⟨rfl, small⟩ := eq_digitChar_of_digit? value
      have same : ((ofWhole negative whole).withFraction fraction).withExponent
          (some (exponentNegative, [digit])) = next := by
        simpa [NumberDraft.step, withExponent, value] using more
      exact same ▸ .exponent significant isMark isSign (areDigits_append (.inl rfl) small)
  | @exponent negative exponentNegative whole fraction digits text sign mark significant isMark
      isSign areDigits =>
    cases value : digit? c with
    | none => simp [NumberDraft.step, withExponent, value] at more
    | some digit =>
      obtain ⟨rfl, small⟩ := eq_digitChar_of_digit? value
      have same : ((ofWhole negative whole).withFraction fraction).withExponent
          (some (exponentNegative, digits ++ [digit])) = next := by
        simpa [NumberDraft.step, withExponent, value] using more
      have longer := Taken.exponent significant isMark isSign
        (areDigits_append (.inr areDigits) small)
      rw [digitChars_append, ← List.append_assoc sign, ← List.cons_append,
        ← List.append_assoc text] at longer
      exact same ▸ longer

/-- A number ends only at a character that is neither a digit nor, unless it has an
exponent, the start of a further part. -/
theorem step_done {draft : NumberDraft} {c : Char} (done : draft.step c = .done) :
    digit? c = none := by
  cases value : digit? c with
  | none => rfl
  | some digit => cases part : draft.part <;> simp [NumberDraft.step, part, value] at done

end NumberDraft

/-! ## Quoted texts -/

theorem UnitsWritten.concat {units : List TextUnit} {text : List Char}
    (written : UnitsWritten units text) {unit : TextUnit} {last : List Char}
    (lastWritten : unit.Written last) : UnitsWritten (units ++ [unit]) (text ++ last) := by
  induction written with
  | nil =>
    have single := UnitsWritten.cons lastWritten .nil
    rwa [List.append_nil] at single
  | cons first _ ih =>
    rw [List.cons_append, List.append_assoc]
    exact .cons first ih

theorem written_of_shortEscape? {c meant : Char} (known : shortEscape? c = some meant) :
    (TextUnit.char meant).Written ['\\', c] := by
  apply TextUnit.Written.short
  unfold shortEscape? at known
  split_ifs at known with itself <;> cases known
  · rcases itself with rfl | rfl | rfl <;> simp [shortEscapes]
  all_goals
    subst c
    simp [shortEscapes]

theorem written_of_codeValue? {taken : List Char} {value : Nat}
    (known : codeValue? taken = some value) :
    (TextUnit.code value).Written ('\\' :: 'u' :: taken) := by
  unfold codeValue? at known
  split_ifs at known with four
  match taken, four with
  | [a, b, c, d], _ =>
    simp only [List.foldlM_cons, List.foldlM_nil, Option.bind_eq_bind, Option.bind_eq_some_iff,
      Option.map_eq_some_iff, Option.pure_def, Option.some.injEq] at known
    obtain ⟨_, ⟨p, first, rfl⟩, _, ⟨q, second, rfl⟩, _, ⟨r, third, rfl⟩, _, ⟨s, fourth, rfl⟩,
      rfl⟩ := known
    simpa using TextUnit.Written.code first second third fourth

/-- What was read of a token where the machine stands. -/
inductive Mode.Taken : Mode → List Char → Prop
  | between : Taken .between []
  | word {due text : List Char} {token : Token} (written : token.Written (text ++ due))
      (plain : ∀ lexeme, token ≠ .number lexeme) : Taken (.word due token) text
  | number {draft : NumberDraft} {text : List Char} (taken : draft.Taken text) :
      Taken (.number draft) text
  | plain {units : List TextUnit} {text : List Char} (written : UnitsWritten units.reverse text) :
      Taken (.quoted units .plain) ('"' :: text)
  | escape {units : List TextUnit} {text : List Char} (written : UnitsWritten units.reverse text) :
      Taken (.quoted units .escape) ('"' :: (text ++ ['\\']))
  | code {units : List TextUnit} {text taken : List Char}
      (written : UnitsWritten units.reverse text) :
      Taken (.quoted units (.code taken)) ('"' :: (text ++ '\\' :: 'u' :: taken))

/-- Nothing that could continue a number, a digit apart, starts a sound token. -/
private theorem endsNumber_of_sound {c : Char} {rest : List Char} (noDigit : digit? c = none)
    (sound : ∀ token ∈ tokensFrom .between (c :: rest), token.Sound) : endsNumber c := by
  have stray : begin c ≠ ([.stray], .halted) := by
    intro begun
    rw [tokensFrom, Mode.step, begun] at sound
    exact sound .stray List.mem_cons_self
  refine ⟨noDigit, ?_, ?_, ?_⟩ <;>
  · rintro rfl
    exact stray rfl

section Steps

variable {c : Char} {rest before : List Char}
  (later : ∀ {mode before}, mode.Taken before → (∀ token ∈ tokensFrom mode rest, token.Sound) →
    LaidOut (tokensFrom mode rest) (before ++ rest))

include later

private theorem laidOut_more {mode next : Mode} (stepped : mode.step c = ([], next))
    (taken : next.Taken (before ++ [c]))
    (sound : ∀ token ∈ tokensFrom mode (c :: rest), token.Sound) :
    LaidOut (tokensFrom mode (c :: rest)) (before ++ c :: rest) := by
  rw [tokensFrom, stepped] at sound ⊢
  rw [List.append_cons]
  exact later taken sound

private theorem laidOut_last {mode : Mode} {token : Token}
    (stepped : mode.step c = ([token], .between)) (written : token.Written (before ++ [c]))
    (plain : ∀ lexeme, token ≠ .number lexeme)
    (sound : ∀ token ∈ tokensFrom mode (c :: rest), token.Sound) :
    LaidOut (tokensFrom mode (c :: rest)) (before ++ c :: rest) := by
  rw [tokensFrom, stepped] at sound ⊢
  rw [List.append_cons]
  exact .token blank_nil written (fun lexeme number => absurd number (plain lexeme))
    (later .between fun token member => sound token (List.mem_cons_of_mem _ member))

omit later in
/-- A character at which the machine halts does not belong to a sound token. -/
private theorem false_of_halted {mode : Mode} {token : Token}
    (stepped : mode.step c = ([token], .halted)) (unsound : ¬ token.Sound)
    (sound : ∀ token ∈ tokensFrom mode (c :: rest), token.Sound) : False := by
  rw [tokensFrom, stepped] at sound
  exact unsound (sound token List.mem_cons_self)

/-- A character between tokens. -/
private theorem laidOut_begin (sound : ∀ token ∈ tokensFrom .between (c :: rest), token.Sound) :
    LaidOut (tokensFrom .between (c :: rest)) (c :: rest) := by
  have single : ∀ {token : Token}, begin c = ([token], .between) → token.Written [c] →
      (∀ lexeme, token ≠ .number lexeme) → LaidOut (tokensFrom .between (c :: rest)) (c :: rest) :=
    fun begun written plain => @laidOut_last c rest [] later .between _ begun written plain sound
  have opened : ∀ {mode : Mode}, begin c = ([], mode) → mode.Taken [c] →
      LaidOut (tokensFrom .between (c :: rest)) (c :: rest) :=
    fun begun taken => @laidOut_more c rest [] later .between _ begun taken sound
  by_cases space : isSpace c = true
  · have begun : begin c = ([], .between) := by rw [begin, if_pos space]
    rw [tokensFrom, Mode.step, begun] at sound ⊢
    exact (later .between sound).cons_space space
  by_cases mark : c ∈ ['[', ']', '\x7b', '\x7d', ',', ':', '"', '-', 'n', 't', 'f']
  · simp only [List.mem_cons, List.not_mem_nil, or_false] at mark
    rcases mark with rfl | rfl | rfl | rfl | rfl | rfl | rfl | rfl | rfl | rfl | rfl
    · exact single rfl .openList (by simp)
    · exact single rfl .closeList (by simp)
    · exact single rfl .openObject (by simp)
    · exact single rfl .closeObject (by simp)
    · exact single rfl .comma (by simp)
    · exact single rfl .colon (by simp)
    · exact opened rfl (.plain .nil)
    · exact opened rfl (.number .sign)
    · exact opened rfl (.word .null (by simp))
    · exact opened rfl (.word .true (by simp))
    · exact opened rfl (.word .false (by simp))
  · simp only [List.mem_cons, List.not_mem_nil, or_false, not_or] at mark
    cases value : digit? c with
    | none =>
      have begun : Mode.between.step c = ([.stray], .halted) := by
        simp [Mode.step, begin, space, mark, value]
      exact (false_of_halted begun id sound).elim
    | some digit =>
      have begun : begin c = ([], .number (.ofDigit digit)) := by simp [begin, space, mark, value]
      obtain ⟨rfl, small⟩ := eq_digitChar_of_digit? value
      have significant : NumberDraft.Significant false [digit] [] [Nat.digitChar digit] :=
        ⟨NumberDraft.areDigits_append (.inl rfl) small, by simp, .inl rfl, by simp [digitChars]⟩
      have same : (NumberDraft.ofWhole false [digit]).withFraction [] = .ofDigit digit := by
        simp [NumberDraft.ofWhole, NumberDraft.withFraction, NumberDraft.ofDigit]
      exact opened begun (.number (same ▸ .digits significant))

private theorem laidOut_word {due : List Char} {token : Token}
    (written : token.Written (before ++ due)) (plain : ∀ lexeme, token ≠ .number lexeme)
    (sound : ∀ other ∈ tokensFrom (.word due token) (c :: rest), other.Sound) :
    LaidOut (tokensFrom (.word due token) (c :: rest)) (before ++ c :: rest) := by
  match due, written with
  | [], _ => exact (false_of_halted rfl id sound).elim
  | letter :: more, written =>
    by_cases same : c = letter
    · subst same
      rw [List.append_cons] at written
      by_cases last : more = []
      · subst last
        rw [List.append_nil] at written
        exact laidOut_last later (by simp [Mode.step]) written plain sound
      · exact laidOut_more later (by simp [Mode.step, last]) (.word written plain) sound
    · have stepped : (Mode.word (letter :: more) token).step c = ([.misspeltWord], .halted) := by
        simp [Mode.step, same]
      exact (false_of_halted stepped id sound).elim

private theorem laidOut_number {draft : NumberDraft} (taken : draft.Taken before)
    (sound : ∀ token ∈ tokensFrom (.number draft) (c :: rest), token.Sound) :
    LaidOut (tokensFrom (.number draft) (c :: rest)) (before ++ c :: rest) := by
  cases stepped : draft.step c with
  | more next =>
    exact laidOut_more later (by simp [Mode.step, stepped]) (.number (taken.step stepped)) sound
  | malformed =>
    exact (@false_of_halted c rest (.number draft) .malformedNumber (by simp [Mode.step, stepped])
      id sound).elim
  | done =>
    cases finished : draft.lexeme? with
    | none =>
      exact (@false_of_halted c rest (.number draft) .malformedNumber
        (by simp [Mode.step, stepped, finished]) id sound).elim
    | some lexeme =>
      have cut : tokensFrom (.number draft) (c :: rest) =
          .number lexeme :: tokensFrom .between (c :: rest) := by
        simp [tokensFrom, Mode.step, stepped, finished]
      rw [cut] at sound ⊢
      have others : ∀ token ∈ tokensFrom .between (c :: rest), token.Sound :=
        fun token member => sound token (List.mem_cons_of_mem _ member)
      have ends := endsNumber_of_sound (NumberDraft.step_done stepped) others
      exact .token blank_nil (.number (taken.written finished)) (fun _ _ => delimits_cons ends _)
        (laidOut_begin later others)

private theorem laidOut_plain {units : List TextUnit} {text : List Char}
    (written : UnitsWritten units.reverse text)
    (sound : ∀ token ∈ tokensFrom (.quoted units .plain) (c :: rest), token.Sound) :
    LaidOut (tokensFrom (.quoted units .plain) (c :: rest)) ('"' :: text ++ c :: rest) := by
  by_cases quote : c = '"'
  · subst quote
    exact laidOut_last later rfl (.text written) (by simp) sound
  by_cases backslash : c = '\\'
  · subst backslash
    exact laidOut_more later rfl (.escape written) sound
  by_cases control : c.toNat < 0x20
  · have stepped : (Mode.quoted units .plain).step c =
        ([.text ⟨units.reverse, .controlCharacter⟩], .halted) := by
      simp [Mode.step, readQuoted, quote, backslash, control]
    exact (false_of_halted stepped (by simp [Token.Sound]) sound).elim
  · have longer : UnitsWritten (TextUnit.char c :: units).reverse (text ++ [c]) := by
      rw [List.reverse_cons]
      exact written.concat (.plain quote backslash (Nat.not_lt.mp control))
    exact laidOut_more later (by simp [Mode.step, readQuoted, quote, backslash, control])
      (.plain longer) sound

private theorem laidOut_escape {units : List TextUnit} {text : List Char}
    (written : UnitsWritten units.reverse text)
    (sound : ∀ token ∈ tokensFrom (.quoted units .escape) (c :: rest), token.Sound) :
    LaidOut (tokensFrom (.quoted units .escape) (c :: rest))
      ('"' :: (text ++ ['\\']) ++ c :: rest) := by
  by_cases code : c = 'u'
  · subst code
    have taken : Mode.Taken (.quoted units (.code [])) _ := .code written
    exact laidOut_more later rfl (by simpa using taken) sound
  cases meant : shortEscape? c with
  | none =>
    have stepped : (Mode.quoted units .escape).step c =
        ([.text ⟨units.reverse, .unknownEscape⟩], .halted) := by
      simp [Mode.step, readQuoted, code, meant]
    exact (false_of_halted stepped (by simp [Token.Sound]) sound).elim
  | some character =>
    have longer : UnitsWritten (TextUnit.char character :: units).reverse (text ++ ['\\', c]) := by
      rw [List.reverse_cons]
      exact written.concat (written_of_shortEscape? meant)
    have stepped : (Mode.quoted units .escape).step c =
        ([], .quoted (.char character :: units) .plain) := by
      simp [Mode.step, readQuoted, code, meant]
    have taken := Mode.Taken.plain longer
    exact laidOut_more later stepped (by simpa using taken) sound

private theorem laidOut_code {units : List TextUnit} {text taken : List Char}
    (written : UnitsWritten units.reverse text)
    (sound : ∀ token ∈ tokensFrom (.quoted units (.code taken)) (c :: rest), token.Sound) :
    LaidOut (tokensFrom (.quoted units (.code taken)) (c :: rest))
      ('"' :: (text ++ '\\' :: 'u' :: taken) ++ c :: rest) := by
  by_cases short : octetCount (taken ++ [c]) < 4
  · have longer : Mode.Taken (.quoted units (.code (taken ++ [c]))) _ := .code written
    have stepped : (Mode.quoted units (.code taken)).step c =
        ([], .quoted units (.code (taken ++ [c]))) := by
      simp [Mode.step, readQuoted, short]
    exact laidOut_more later stepped (by simpa using longer) sound
  cases value : codeValue? (taken ++ [c]) with
  | none =>
    have stepped : (Mode.quoted units (.code taken)).step c =
        ([.text ⟨units.reverse, .malformedCode⟩], .halted) := by
      simp [Mode.step, readQuoted, short, value]
    exact (false_of_halted stepped (by simp [Token.Sound]) sound).elim
  | some number =>
    have longer : UnitsWritten (TextUnit.code number :: units).reverse
        (text ++ '\\' :: 'u' :: (taken ++ [c])) := by
      rw [List.reverse_cons]
      exact written.concat (written_of_codeValue? value)
    have stepped : (Mode.quoted units (.code taken)).step c =
        ([], .quoted (.code number :: units) .plain) := by
      simp [Mode.step, readQuoted, short, value]
    have whole := Mode.Taken.plain longer
    exact laidOut_more later stepped (by simpa using whole) sound

end Steps

/-- A text that is cut into sound tokens, from some state of the machine on, holds them
together with what was read of the first one. -/
theorem Mode.Taken.laidOut {mode : Mode} {before text : List Char} (taken : mode.Taken before)
    (sound : ∀ token ∈ tokensFrom mode text, token.Sound) :
    LaidOut (tokensFrom mode text) (before ++ text) := by
  induction text generalizing mode before with
  | nil =>
    cases taken with
    | between => exact .done blank_nil
    | word => exact (sound .cutWord List.mem_cons_self).elim
    | @number draft _ taken =>
      cases finished : draft.lexeme? with
      | none => exact (sound .cutNumber (by simp [tokensFrom, Mode.finish, finished])).elim
      | some lexeme =>
        simp only [tokensFrom, Mode.finish, finished]
        exact .token blank_nil (.number (taken.written finished)) (fun _ _ => delimits_nil)
          (.done blank_nil)
    | plain | escape | code => cases sound _ List.mem_cons_self
  | cons c rest ih =>
    cases taken with
    | between => exact laidOut_begin ih sound
    | word written plain => exact laidOut_word ih written plain sound
    | number taken => exact laidOut_number ih taken sound
    | plain written => exact laidOut_plain ih written sound
    | escape written => exact laidOut_escape ih written sound
    | code written => exact laidOut_code ih written sound

end Stencil.Json
