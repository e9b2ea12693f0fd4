import Mathlib.Tactic
import Stencil.Json.Token

/-!
# How tokens are written

A token may be written in more than one way: a character of a quoted text can be escaped,
and an exponent can have a sign that it does not need.  However it is written, it is read
as this token.  Only a number needs something after it that cannot continue it; quotes,
brackets and separators end by themselves.
-/

namespace Stencil.Json

/-- Whether a character cannot continue a number. -/
def endsNumber (c : Char) : Prop :=
  digit? c = none ∧ c ≠ '.' ∧ c ≠ 'e' ∧ c ≠ 'E'

instance (c : Char) : Decidable (endsNumber c) := inferInstanceAs (Decidable (_ ∧ _))

/-- Whether a text cannot continue a number. -/
def Delimits (text : List Char) : Prop := ∀ c, text.head? = some c → endsNumber c

/-- The characters with a short escape, and what the escape means. -/
def shortEscapes : List (Char × Char) :=
  [('"', '"'), ('\\', '\\'), ('/', '/'), ('b', '\x08'), ('f', '\x0c'), ('n', '\n'), ('r', '\r'),
    ('t', '\t')]

/-- How a character of a quoted text is written. -/
inductive TextUnit.Written : TextUnit → List Char → Prop
  | plain {c : Char} (noQuote : c ≠ '"') (noBackslash : c ≠ '\\') (noControl : 0x20 ≤ c.toNat) :
      Written (.char c) [c]
  | short {c meant : Char} (known : (c, meant) ∈ shortEscapes) : Written (.char meant) ['\\', c]
  | code {a b c d : Char} {p q r s : Nat} (first : Digest.hexValue? a = some p)
      (second : Digest.hexValue? b = some q) (third : Digest.hexValue? c = some r)
      (fourth : Digest.hexValue? d = some s) :
      Written (.code (16 * (16 * (16 * p + q) + r) + s)) ['\\', 'u', a, b, c, d]

/-- How the characters of a quoted text are written. -/
inductive UnitsWritten : List TextUnit → List Char → Prop
  | nil : UnitsWritten [] []
  | cons {unit : TextUnit} {units : List TextUnit} {text rest : List Char}
      (first : unit.Written text) (others : UnitsWritten units rest) :
      UnitsWritten (unit :: units) (text ++ rest)

def digitChars (digits : List Nat) : List Char := digits.map Nat.digitChar

/-- Whether some numbers are decimal digits, of which there is at least one. -/
def AreDigits (digits : List Nat) : Prop := digits ≠ [] ∧ ∀ digit ∈ digits, digit < 10

def exponentSigns : Bool → List (List Char)
  | true => [['-']]
  | false => [[], ['+']]

inductive ExponentWritten : Option (Bool × List Nat) → List Char → Prop
  | none : ExponentWritten none []
  | some {mark : Char} {sign : List Char} {negative : Bool} {digits : List Nat}
      (isMark : mark ∈ ['e', 'E']) (isSign : sign ∈ exponentSigns negative)
      (areDigits : AreDigits digits) :
      ExponentWritten (some (negative, digits)) (mark :: (sign ++ digitChars digits))

inductive Lexeme.Written : Lexeme → List Char → Prop
  | mk {negative : Bool} {whole fraction : List Nat} {exponent : Option (Bool × List Nat)}
      {exponentText : List Char} (wholeDigits : AreDigits whole)
      (noLeadingZero : whole.head? = some 0 → whole = [0])
      (fractionDigits : fraction = [] ∨ AreDigits fraction)
      (exponentWritten : ExponentWritten exponent exponentText) :
      Written ⟨negative, whole, fraction, exponent⟩
        ((if negative then ['-'] else []) ++ (digitChars whole ++
          ((if fraction = [] then [] else '.' :: digitChars fraction) ++ exponentText)))

inductive Token.Written : Token → List Char → Prop
  | openList : Written .openList ['[']
  | closeList : Written .closeList [']']
  | openObject : Written .openObject ['\x7b']
  | closeObject : Written .closeObject ['\x7d']
  | comma : Written .comma [',']
  | colon : Written .colon [':']
  | null : Written .null ['n', 'u', 'l', 'l']
  | true : Written (.bool true) ['t', 'r', 'u', 'e']
  | false : Written (.bool false) ['f', 'a', 'l', 's', 'e']
  | number {lexeme : Lexeme} {text : List Char} (written : lexeme.Written text) :
      Written (.number lexeme) text
  | text {units : List TextUnit} {text : List Char} (written : UnitsWritten units text) :
      Written (.text ⟨units, .closed⟩) ('"' :: (text ++ ['"']))

/-! ## Quoted texts -/

theorem utf8Size_of_hexValue? {c : Char} {n : Nat} (digit : Digest.hexValue? c = some n) :
    c.utf8Size = 1 := by
  have small : c.val ≤ 127 := by
    unfold Digest.hexValue? at digit
    split_ifs at digit with decimal lower upper
    · exact UInt32.le_trans decimal.2 (by decide)
    · exact UInt32.le_trans lower.2 (by decide)
    · exact UInt32.le_trans upper.2 (by decide)
  exact Char.utf8Size_eq_one_iff.mpr small

theorem TextUnit.Written.tokensFrom_append {unit : TextUnit} {text : List Char}
    (written : unit.Written text) (units : List TextUnit) (rest : List Char) :
    tokensFrom (.quoted units .plain) (text ++ rest) =
      tokensFrom (.quoted (unit :: units) .plain) rest := by
  cases written with
  | plain noQuote noBackslash noControl =>
    simp [tokensFrom, Mode.step, readQuoted, noQuote, noBackslash, Nat.not_lt.mpr noControl]
  | short known =>
    simp only [shortEscapes, List.mem_cons, Prod.mk.injEq, List.not_mem_nil, or_false] at known
    rcases known with ⟨rfl, rfl⟩ | ⟨rfl, rfl⟩ | ⟨rfl, rfl⟩ | ⟨rfl, rfl⟩ | ⟨rfl, rfl⟩ | ⟨rfl, rfl⟩ |
      ⟨rfl, rfl⟩ | ⟨rfl, rfl⟩ <;> rfl
  | @code a b c d p q r s first second third fourth =>
    have widths := And.intro (utf8Size_of_hexValue? first) (And.intro
      (utf8Size_of_hexValue? second) (And.intro (utf8Size_of_hexValue? third)
        (utf8Size_of_hexValue? fourth)))
    have one : octetCount [a] < 4 := by simp [octetCount, widths]
    have two : octetCount [a, b] < 4 := by simp [octetCount, widths]
    have three : octetCount [a, b, c] < 4 := by simp [octetCount, widths]
    have full : ¬ octetCount [a, b, c, d] < 4 := by simp [octetCount, widths]
    have value : codeValue? [a, b, c, d] = some (16 * (16 * (16 * p + q) + r) + s) := by
      simp [codeValue?, first, second, third, fourth]
    simp [tokensFrom, Mode.step, readQuoted, one, two, three, full, value]

theorem UnitsWritten.tokensFrom_append {added : List TextUnit} {text : List Char}
    (written : UnitsWritten added text) (units : List TextUnit) (rest : List Char) :
    tokensFrom (.quoted units .plain) (text ++ rest) =
      tokensFrom (.quoted (added.reverse ++ units) .plain) rest := by
  induction written generalizing units with
  | nil => rfl
  | cons first _ ih =>
    rw [List.append_assoc, first.tokensFrom_append, ih, List.reverse_cons, List.append_assoc,
      List.singleton_append]

/-! ## Numbers -/

theorem digit?_digitChar : ∀ n : Fin 10, digit? (Nat.digitChar n.val) = some n.val := by
  decide

/-- A text leads from a number in the making to a later state of it. -/
def NumberDraft.Runs (draft : NumberDraft) (text : List Char) (next : NumberDraft) : Prop :=
  ∀ rest, tokensFrom (.number draft) (text ++ rest) = tokensFrom (.number next) rest

namespace NumberDraft.Runs

theorem nil (draft : NumberDraft) : draft.Runs [] draft := fun _ => rfl

theorem append {first second third : NumberDraft} {text other : List Char}
    (runs : first.Runs text second) (later : second.Runs other third) :
    first.Runs (text ++ other) third := by
  intro rest
  rw [List.append_assoc, runs, later]

theorem cons {draft next last : NumberDraft} {c : Char} {text : List Char}
    (step : draft.step c = .more next) (later : next.Runs text last) :
    draft.Runs (c :: text) last := by
  intro rest
  rw [List.cons_append, tokensFrom, Mode.step, step]
  exact later rest

theorem digits {push : List Nat → NumberDraft}
    (step : ∀ seen c digit, digit? c = some digit →
      (push seen).step c = .more (push (digit :: seen)))
    {digits : List Nat} (small : ∀ digit ∈ digits, digit < 10) (seen : List Nat) :
    (push seen).Runs (digitChars digits) (push (digits.reverse ++ seen)) := by
  induction digits generalizing seen with
  | nil => exact nil _
  | cons digit more ih =>
    have value := digit?_digitChar ⟨digit, small digit List.mem_cons_self⟩
    rw [List.reverse_cons, List.append_assoc, List.singleton_append]
    exact cons (step seen _ digit value)
      (ih (fun other member => small other (List.mem_cons_of_mem _ member)) (digit :: seen))

end NumberDraft.Runs

namespace NumberDraft

/-- The draft of a number after the digits before the point. -/
def ofWhole (negative : Bool) (whole : List Nat) : NumberDraft :=
  ⟨if whole = [0] then .zero else .whole, negative, whole.reverse, [], false, []⟩

/-- The draft of a number after the digits after the point, if there are any. -/
def withFraction (draft : NumberDraft) (fraction : List Nat) : NumberDraft :=
  if fraction = [] then draft else { draft with part := .fraction, fraction := fraction.reverse }

@[simp] theorem withFraction_exponent (negative : Bool) (whole fraction : List Nat) :
    ((ofWhole negative whole).withFraction fraction).exponent = [] := by
  unfold withFraction
  split_ifs <;> rfl

@[simp] theorem withFraction_exponentNegative (negative : Bool) (whole fraction : List Nat) :
    ((ofWhole negative whole).withFraction fraction).exponentNegative = false := by
  unfold withFraction
  split_ifs <;> rfl

/-- The draft of a number after its exponent, if it has one. -/
def withExponent (draft : NumberDraft) : Option (Bool × List Nat) → NumberDraft
  | none => draft
  | some (negative, digits) =>
    { draft with part := .exponent, exponentNegative := negative, exponent := digits.reverse }

private theorem runs_whole {negative : Bool} {digit : Nat} {more : List Nat}
    (small : ∀ other ∈ more, other < 10) (noLeadingZero : digit = 0 → more = []) :
    (ofWhole negative [digit]).Runs (digitChars more) (ofWhole negative (digit :: more)) := by
  by_cases zero : digit = 0
  · rw [noLeadingZero zero]
    exact Runs.nil _
  · have start : ofWhole negative [digit] = ⟨.whole, negative, [digit], [], false, []⟩ := by
      simp [ofWhole, zero]
    have last : ofWhole negative (digit :: more) =
        ⟨.whole, negative, more.reverse ++ [digit], [], false, []⟩ := by
      simp [ofWhole, zero]
    rw [start, last]
    refine @Runs.digits (fun whole => ⟨.whole, negative, whole, [], false, []⟩) ?_ more small
      [digit]
    intro seen c digit value
    simp [NumberDraft.step, value]

private theorem tokensFrom_whole {negative : Bool} {whole : List Nat} (areDigits : AreDigits whole)
    (noLeadingZero : whole.head? = some 0 → whole = [0]) (rest : List Char) :
    tokensFrom .between ((if negative then ['-'] else []) ++ (digitChars whole ++ rest)) =
      tokensFrom (.number (ofWhole negative whole)) rest := by
  obtain ⟨filled, small⟩ := areDigits
  cases whole with
  | nil => exact absurd rfl filled
  | cons digit more =>
    obtain ⟨first, others⟩ := List.forall_mem_cons.mp small
    have value := digit?_digitChar ⟨digit, first⟩
    have runs : (ofWhole negative [digit]).Runs (digitChars more)
        (ofWhole negative (digit :: more)) :=
      runs_whole others fun zero => (List.cons.inj (noLeadingZero (congrArg some zero))).2
    have begun : ∀ n : Fin 10, begin (Nat.digitChar n.val) = ([], .number (.ofDigit n.val)) := by
      decide
    cases negative with
    | false =>
      rw [← runs rest]
      show tokensFrom .between (Nat.digitChar digit :: (digitChars more ++ rest)) = _
      rw [tokensFrom, Mode.step, begun ⟨digit, first⟩]
      simp [ofWhole, NumberDraft.ofDigit]
    | true =>
      have sign : begin '-' = ([], .number .ofSign) := rfl
      have step : NumberDraft.ofSign.step (Nat.digitChar digit) = .more (ofWhole true [digit]) := by
        simp [NumberDraft.step, NumberDraft.ofSign, ofWhole, value]
      rw [← runs rest]
      show tokensFrom .between ('-' :: Nat.digitChar digit :: (digitChars more ++ rest)) = _
      rw [tokensFrom, Mode.step, sign]
      exact Runs.cons step (Runs.nil _) (digitChars more ++ rest)

private theorem runs_fraction {draft : NumberDraft} {fraction : List Nat}
    (isWhole : draft.part = .zero ∨ draft.part = .whole) (fresh : draft.fraction = [])
    (areDigits : fraction = [] ∨ AreDigits fraction) :
    draft.Runs (if fraction = [] then [] else '.' :: digitChars fraction)
      (draft.withFraction fraction) := by
  unfold withFraction
  split_ifs with empty
  · exact Runs.nil _
  · obtain ⟨-, small⟩ := areDigits.resolve_left empty
    cases fraction with
    | nil => exact absurd rfl empty
    | cons digit more =>
      obtain ⟨first, others⟩ := List.forall_mem_cons.mp small
      have point : draft.step '.' = .more { draft with part := .point } := by
        have noDigit : digit? '.' = none := rfl
        rcases isWhole with part | part <;> simp [NumberDraft.step, part, noDigit]
      have opened : ({ draft with part := .point } : NumberDraft).step (Nat.digitChar digit) =
          .more { draft with part := .fraction, fraction := [digit] } := by
        simp [NumberDraft.step, digit?_digitChar ⟨digit, first⟩, fresh]
      rw [List.reverse_cons]
      refine Runs.cons point (Runs.cons opened ?_)
      refine @Runs.digits (fun fraction => { draft with part := .fraction, fraction }) ?_ more
        others [digit]
      intro seen c digit value
      simp [NumberDraft.step, value]

private theorem runs_exponent {draft : NumberDraft} {exponent : Option (Bool × List Nat)}
    {text : List Char} (ended : draft.part = .zero ∨ draft.part = .whole ∨ draft.part = .fraction)
    (fresh : draft.exponentNegative = false ∧ draft.exponent = [])
    (written : ExponentWritten exponent text) : draft.Runs text (draft.withExponent exponent) := by
  cases written with
  | none => exact Runs.nil _
  | @some mark sign negative digits isMark isSign areDigits =>
    obtain ⟨filled, small⟩ := areDigits
    cases digits with
    | nil => exact absurd rfl filled
    | cons digit more =>
      obtain ⟨first, others⟩ := List.forall_mem_cons.mp small
      have marked : draft.step mark = .more { draft with part := .mark } := by
        have noDigit : digit? 'e' = none ∧ digit? 'E' = none := ⟨rfl, rfl⟩
        rcases List.mem_pair.mp isMark with rfl | rfl <;> rcases ended with part | part | part <;>
          simp [NumberDraft.step, part, noDigit]
      have signed : ∃ next : NumberDraft,
          ({ draft with part := .mark } : NumberDraft).Runs sign next ∧
            next.step (Nat.digitChar digit) = .more
              ⟨.exponent, draft.negative, draft.whole, draft.fraction, negative, [digit]⟩ := by
        have value := digit?_digitChar ⟨digit, first⟩
        have noDigit : digit? '+' = none ∧ digit? '-' = none := ⟨rfl, rfl⟩
        cases negative with
        | true =>
          obtain rfl : sign = ['-'] := by simpa [exponentSigns] using isSign
          refine ⟨{ draft with part := .exponentSign, exponentNegative := true },
            Runs.cons ?_ (Runs.nil _), ?_⟩
          · simp [NumberDraft.step, noDigit]
          · simp [NumberDraft.step, value, fresh]
        | false =>
          rcases List.mem_pair.mp isSign with rfl | rfl
          · refine ⟨_, Runs.nil _, ?_⟩
            simp [NumberDraft.step, value, fresh]
          · refine ⟨{ draft with part := .exponentSign }, Runs.cons ?_ (Runs.nil _), ?_⟩
            · simp [NumberDraft.step, noDigit]
            · simp [NumberDraft.step, value, fresh]
      obtain ⟨next, signRuns, opened⟩ := signed
      simp only [withExponent, List.reverse_cons]
      refine Runs.cons marked (signRuns.append (Runs.cons opened ?_))
      refine @Runs.digits (fun exponent =>
        ⟨.exponent, draft.negative, draft.whole, draft.fraction, negative, exponent⟩) ?_ more
        others [digit]
      intro seen c digit value
      simp [NumberDraft.step, value]

theorem lexeme?_finished (negative : Bool) (whole fraction : List Nat)
    (exponent : Option (Bool × List Nat)) :
    (((ofWhole negative whole).withFraction fraction).withExponent exponent).lexeme? =
      some ⟨negative, whole, fraction, exponent⟩ := by
  unfold withExponent withFraction ofWhole
  cases exponent <;> split_ifs <;> simp_all [NumberDraft.lexeme?]

/-- A number in the making ends where something follows that cannot continue it. -/
theorem tokensFrom_ended {draft : NumberDraft} {lexeme : Lexeme} {rest : List Char}
    (finished : draft.lexeme? = some lexeme) (delimits : Delimits rest) :
    tokensFrom (.number draft) rest = .number lexeme :: tokensFrom .between rest := by
  cases rest with
  | nil => simp [tokensFrom, Mode.finish, finished]
  | cons c more =>
    obtain ⟨noDigit, noPoint, noMark, noCapital⟩ := delimits c rfl
    have done : draft.step c = .done := by
      cases part : draft.part <;>
        simp_all [NumberDraft.step, NumberDraft.lexeme?]
    simp [tokensFrom, Mode.step, done, finished]

end NumberDraft

theorem Lexeme.Written.tokensFrom_append {lexeme : Lexeme} {text rest : List Char}
    (written : lexeme.Written text) (delimits : Delimits rest) :
    tokensFrom .between (text ++ rest) = .number lexeme :: tokensFrom .between rest := by
  cases written with
  | @mk negative whole fraction exponent exponentText wholeDigits noLeadingZero fractionDigits
      exponentWritten =>
    let wholeDraft := NumberDraft.ofWhole negative whole
    have isWhole : wholeDraft.part = .zero ∨ wholeDraft.part = .whole := by
      simp only [wholeDraft, NumberDraft.ofWhole]
      split_ifs <;> simp
    have ended : (wholeDraft.withFraction fraction).part = .zero ∨
        (wholeDraft.withFraction fraction).part = .whole ∨
        (wholeDraft.withFraction fraction).part = .fraction := by
      unfold NumberDraft.withFraction
      split_ifs
      · exact isWhole.imp_right .inl
      · exact .inr (.inr rfl)
    have fresh : (wholeDraft.withFraction fraction).exponentNegative = false ∧
        (wholeDraft.withFraction fraction).exponent = [] := by
      simp [wholeDraft]
    have fractionRuns := NumberDraft.runs_fraction isWhole rfl fractionDigits
    have exponentRuns := NumberDraft.runs_exponent ended fresh exponentWritten
    simp only [List.append_assoc]
    rw [NumberDraft.tokensFrom_whole wholeDigits noLeadingZero, fractionRuns, exponentRuns]
    exact NumberDraft.tokensFrom_ended (NumberDraft.lexeme?_finished ..) delimits

/-- A written token is read as this token.  A number has to end. -/
theorem Token.Written.tokensFrom_append {token : Token} {text rest : List Char}
    (written : token.Written text) (ends : ∀ lexeme, token = .number lexeme → Delimits rest) :
    tokensFrom .between (text ++ rest) = token :: tokensFrom .between rest := by
  cases written with
  | number written => exact written.tokensFrom_append (ends _ rfl)
  | @text units text written =>
    have opened : begin '"' = ([], .quoted [] .plain) := rfl
    rw [List.cons_append, tokensFrom, Mode.step, opened, List.append_assoc]
    simp only [List.nil_append]
    rw [written.tokensFrom_append, List.cons_append, tokensFrom]
    simp [Mode.step, readQuoted]
  | _ => rfl

end Stencil.Json
