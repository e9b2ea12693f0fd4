import Stencil.Proofs.Json.Writing

/-!
# How tokens are laid out

A text holds its tokens one after the other, with as many blanks before, between and after
them as its writer likes.  Whatever the blanks, it is cut into these tokens.
-/

namespace Stencil.Json

/-- Whether a text consists of blanks. -/
def Blank (text : List Char) : Prop := ∀ c ∈ text, isSpace c = true

/-- A text that holds tokens.  Blanks may stand before every token and at the end, and a number
goes on as long as it can. -/
inductive LaidOut : List Token → List Char → Prop
  | done {gap : List Char} (blank : Blank gap) : LaidOut [] gap
  | token {token : Token} {tokens : List Token} {gap text rest : List Char} (blank : Blank gap)
      (written : token.Written text) (ends : ∀ lexeme, token = .number lexeme → Delimits rest)
      (later : LaidOut tokens rest) : LaidOut (token :: tokens) (gap ++ (text ++ rest))

theorem blank_nil : Blank [] := by
  intro c member
  cases member

theorem blank_cons {c : Char} {gap : List Char} (space : isSpace c = true) (blank : Blank gap) :
    Blank (c :: gap) :=
  List.forall_mem_cons.mpr ⟨space, blank⟩

private theorem tokensFrom_blank {gap : List Char} (blank : Blank gap) (rest : List Char) :
    tokensFrom .between (gap ++ rest) = tokensFrom .between rest := by
  induction gap with
  | nil => rfl
  | cons c more ih =>
    obtain ⟨space, others⟩ := List.forall_mem_cons.mp blank
    have skipped : begin c = ([], .between) := by
      unfold begin
      rw [if_pos space]
    rw [List.cons_append, tokensFrom, Mode.step, skipped]
    exact ih others

/-- A text is cut into the tokens that it holds. -/
theorem LaidOut.tokensFrom_eq {laid : List Token} {text : List Char} (holds : LaidOut laid text) :
    tokensFrom .between text = laid := by
  induction holds with
  | @done gap blank =>
    rw [← List.append_nil gap, tokensFrom_blank blank]
    rfl
  | token blank written ends _ ih =>
    rw [tokensFrom_blank blank, written.tokensFrom_append ends, ih]

theorem LaidOut.cons_space {tokens : List Token} {text : List Char} (holds : LaidOut tokens text)
    {c : Char} (space : isSpace c = true) : LaidOut tokens (c :: text) := by
  cases holds with
  | done blank => exact .done (blank_cons space blank)
  | token blank written ends later =>
    exact .token (blank_cons space blank) written ends later

/-! ## Texts put together -/

theorem delimits_nil : Delimits [] := by
  intro c found
  cases found

theorem delimits_cons {c : Char} (ends : endsNumber c) (rest : List Char) :
    Delimits (c :: rest) := by
  intro other found
  cases found
  exact ends

/-- A text holds tokens wherever something follows that cannot continue a number. -/
def LaysOut (text : List Char) (tokens : List Token) : Prop :=
  ∀ rest more, Delimits rest → LaidOut more rest → LaidOut (tokens ++ more) (text ++ rest)

namespace LaysOut

theorem single {token : Token} {text : List Char} (written : token.Written text) :
    LaysOut text [token] :=
  fun _ _ delimits following => .token blank_nil written (fun _ _ => delimits) following

theorem cons {token : Token} {written text : List Char} {tokens : List Token}
    (laysOut : LaysOut text tokens) (spelled : token.Written written)
    (ends : ∀ lexeme, token ≠ .number lexeme := by simp) :
    LaysOut (written ++ text) (token :: tokens) := by
  intro rest more delimits following
  rw [List.append_assoc, ← List.nil_append (written ++ _)]
  exact .token blank_nil spelled (fun lexeme number => absurd number (ends lexeme))
    (laysOut rest more delimits following)

theorem space {c : Char} {text : List Char} {tokens : List Token} (laysOut : LaysOut text tokens)
    (space : isSpace c = true) : LaysOut (c :: text) tokens :=
  fun rest more delimits following => (laysOut rest more delimits following).cons_space space

theorem append {first second : List Char} {tokens others : List Token}
    (laysOut : LaysOut first tokens) (following : LaysOut second others)
    (ends : ∀ rest, Delimits rest → Delimits (second ++ rest)) :
    LaysOut (first ++ second) (tokens ++ others) := by
  intro rest more delimits later
  rw [List.append_assoc, List.append_assoc]
  exact laysOut _ _ (ends rest delimits) (following rest more delimits later)

theorem laidOut {text : List Char} {tokens : List Token} (laysOut : LaysOut text tokens) :
    LaidOut tokens text := by
  have alone := laysOut [] [] delimits_nil (.done blank_nil)
  rwa [List.append_nil, List.append_nil] at alone

end LaysOut

end Stencil.Json
