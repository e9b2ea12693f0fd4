import Stencil.Proofs.Json.Scanning
import Stencil.Proofs.Json.Trees

/-!
# Trees and the tokens that they were read from

A tree that is well formed and that nothing follows was read from its own tokens.  Every
place at which the tree is not lost yet is reached by the tokens of what is read so far.
-/

namespace Stencil.Json

/-! ## The tokens that lead to a place -/

/-- The tokens of some items with the commas between them. -/
def itemTokens : List Tree → List Token
  | [] => []
  | item :: rest => item.tokens ++ tokensOfTrees rest

/-- The tokens of some fields with the commas between them. -/
def fieldTokens : List (Quoted × Tree) → List Token
  | [] => []
  | (key, value) :: rest => .text key :: .colon :: value.tokens ++ tokensOfEntries rest

/-- Some tokens, and a comma if there are any. -/
def andComma (tokens : List Token) : List Token :=
  if tokens = [] then [] else tokens ++ [.comma]

theorem tokensOfTrees_append (items others : List Tree) :
    tokensOfTrees (items ++ others) = tokensOfTrees items ++ tokensOfTrees others := by
  induction items with
  | nil => rfl
  | cons item rest ih => simp [tokensOfTrees, ih]

theorem tokensOfEntries_append (fields others : List (Quoted × Tree)) :
    tokensOfEntries (fields ++ others) = tokensOfEntries fields ++ tokensOfEntries others := by
  induction fields with
  | nil => rfl
  | cons field rest ih => simp [tokensOfEntries, ih]

theorem itemTokens_concat (items : List Tree) (tree : Tree) :
    itemTokens (items ++ [tree]) = andComma (itemTokens items) ++ tree.tokens := by
  cases items with
  | nil => simp [itemTokens, andComma, tokensOfTrees]
  | cons item rest =>
    obtain ⟨first, more, spelled, -⟩ := tokens_eq_cons item
    have filled : itemTokens (item :: rest) ≠ [] := by simp [itemTokens, spelled]
    rw [andComma, if_neg filled]
    simp [itemTokens, tokensOfTrees_append, tokensOfTrees]

theorem fieldTokens_concat (fields : List (Quoted × Tree)) (key : Quoted) (tree : Tree) :
    fieldTokens (fields ++ [(key, tree)]) =
      andComma (fieldTokens fields) ++ [.text key, .colon] ++ tree.tokens := by
  cases fields with
  | nil => simp [fieldTokens, andComma, tokensOfEntries]
  | cons field rest =>
    have filled : fieldTokens (field :: rest) ≠ [] := by simp [fieldTokens]
    rw [andComma, if_neg filled]
    simp [fieldTokens, tokensOfEntries_append, tokensOfEntries]

theorem tokens_list (items : List Tree) (ending : Ending) :
    (Tree.list items ending).tokens = .openList :: (itemTokens items ++ [.closeList]) := by
  cases items <;> simp [Tree.tokens, itemTokens]

theorem tokens_object (fields : List (Quoted × Tree)) (ending : Ending) :
    (Tree.object fields ending).tokens = .openObject :: (fieldTokens fields ++ [.closeObject]) := by
  cases fields <;> simp [Tree.tokens, fieldTokens]

/-- The tokens of what is open around a place. -/
def opened : List Frame → List Token
  | [] => []
  | .items done :: frames => opened frames ++ .openList :: andComma (itemTokens done.reverse)
  | .field done key :: frames =>
    opened frames ++ .openObject :: (andComma (fieldTokens done.reverse) ++ [.text key, .colon])

/-- The tokens that lead to a place. -/
def Place.read : Place → List Token
  | value frames => opened frames
  | firstItem frames => opened frames ++ [.openList]
  | item frames done => opened frames ++ .openList :: (itemTokens done.reverse ++ [.comma])
  | afterItem frames done => opened frames ++ .openList :: itemTokens done.reverse
  | firstKey frames => opened frames ++ [.openObject]
  | nextKey frames done => opened frames ++ .openObject :: (fieldTokens done.reverse ++ [.comma])
  | colon frames done key =>
    opened frames ++ .openObject :: (andComma (fieldTokens done.reverse) ++ [.text key])
  | afterField frames done => opened frames ++ .openObject :: fieldTokens done.reverse
  | finished tree => tree.tokens
  | halted _ _ => []

theorem read_after (tree : Tree) (frames : List Frame) :
    (Place.after tree frames).read = opened frames ++ tree.tokens := by
  cases frames with
  | nil => rfl
  | cons frame frames =>
    cases frame with
    | items done => simp [Place.after, Place.read, opened, itemTokens_concat]
    | field done key => simp [Place.after, Place.read, opened, fieldTokens_concat]

/-- Whether a place can be reached while the text is well formed: something stands before a
comma. -/
def Place.Sound : Place → Prop
  | item _ done | afterItem _ done => done ≠ []
  | nextKey _ done | afterField _ done => done ≠ []
  | halted _ _ => False
  | _ => True

/-- Whether no well-formed tree is read any more. -/
def Place.Lost : Place → Prop
  | halted tree surplus => surplus = true ∨ ¬ tree.WellFormed
  | _ => False

/-- Whether a place is reached by some tokens, unless all is lost there. -/
def Place.ReachedBy (place : Place) (tokens : List Token) : Prop :=
  place.Lost ∨ (place.Sound ∧ place.read = tokens)

theorem wellFormed_enclose {tree : Tree} {frames : List Frame}
    (wellFormed : (enclose tree frames).WellFormed) : frames = [] ∧ tree.WellFormed := by
  induction frames generalizing tree with
  | nil => exact ⟨rfl, wellFormed⟩
  | cons frame frames ih =>
    cases frame with
    | items done => exact nomatch (ih wellFormed).2.2
    | field done key => exact nomatch (ih wellFormed).2.2

theorem not_wellFormed_list {items : List Tree} {ending : Ending} (unclosed : ending ≠ .closed) :
    ¬ (Tree.list items ending).WellFormed := fun wellFormed => unclosed wellFormed.2

theorem not_wellFormed_object {fields : List (Quoted × Tree)} {ending : Ending}
    (unclosed : ending ≠ .closed) : ¬ (Tree.object fields ending).WellFormed :=
  fun wellFormed => unclosed wellFormed.2

theorem reachedBy_stop {tree : Tree} (broken : ¬ tree.WellFormed) (frames : List Frame)
    (tokens : List Token) : (stop tree frames).ReachedBy tokens :=
  .inl (.inr fun wellFormed => broken (wellFormed_enclose wellFormed).2)

theorem reachedBy_after (tree : Tree) {frames : List Frame} {tokens : List Token}
    (led : opened frames ++ tree.tokens = tokens) : (Place.after tree frames).ReachedBy tokens := by
  refine .inr ⟨?_, (read_after tree frames).trans led⟩
  match frames with
  | [] => trivial
  | .items _ :: _ | .field _ _ :: _ => exact List.cons_ne_nil _ _

/-! ## Steps -/

theorem reachedBy_readValue (frames : List Frame) (token : Token) :
    (readValue frames token).ReachedBy (opened frames ++ [token]) := by
  cases token with
  | null => exact reachedBy_after .null rfl
  | bool b => exact reachedBy_after (.bool b) rfl
  | number lexeme => exact reachedBy_after (.number lexeme) rfl
  | text quoted =>
    by_cases closed : quoted.ending = .closed
    · rw [readValue, if_pos closed]
      exact reachedBy_after (.text quoted) rfl
    · have broken : ¬ (Tree.text quoted).WellFormed := closed
      rw [readValue, if_neg closed]
      exact reachedBy_stop broken ..
  | openList => exact .inr ⟨trivial, rfl⟩
  | openObject => exact .inr ⟨trivial, rfl⟩
  | _ => exact reachedBy_stop id ..

theorem reachedBy_readKey (frames : List Frame) (done : List (Quoted × Tree)) (token : Token) :
    (readKey frames done token).ReachedBy
      (opened frames ++ .openObject :: (andComma (fieldTokens done.reverse) ++ [token])) := by
  cases token with
  | text quoted =>
    by_cases closed : quoted.ending = .closed
    · rw [readKey, if_pos closed]
      exact .inr ⟨trivial, rfl⟩
    · rw [readKey, if_neg closed]
      exact reachedBy_stop (not_wellFormed_object (by decide)) ..
  | _ => exact reachedBy_stop (not_wellFormed_object (by decide)) ..

theorem andComma_itemTokens {done : List Tree} (filled : done ≠ []) :
    andComma (itemTokens done.reverse) = itemTokens done.reverse ++ [.comma] := by
  cases reversed : done.reverse with
  | nil => exact absurd (List.reverse_eq_nil_iff.mp reversed) filled
  | cons item rest =>
    obtain ⟨first, more, spelled, -⟩ := tokens_eq_cons item
    simp [andComma, itemTokens, spelled]

theorem andComma_fieldTokens {done : List (Quoted × Tree)} (filled : done ≠ []) :
    andComma (fieldTokens done.reverse) = fieldTokens done.reverse ++ [.comma] := by
  cases reversed : done.reverse with
  | nil => exact absurd (List.reverse_eq_nil_iff.mp reversed) filled
  | cons field rest => simp [andComma, fieldTokens]

theorem Place.ReachedBy.step {place : Place} {tokens : List Token}
    (reached : place.ReachedBy tokens) (token : Token) :
    (place.step token).ReachedBy (tokens ++ [token]) := by
  rcases reached with lost | ⟨sound, rfl⟩
  · cases place with
    | halted tree surplus => exact .inl lost
    | _ => exact lost.elim
  cases place with
  | value frames => exact reachedBy_readValue frames token
  | firstItem frames =>
    by_cases close : token = .closeList
    · rw [Place.step, if_pos close, close]
      exact reachedBy_after (.list [] .closed) (by simp [Place.read, Tree.tokens])
    · rw [Place.step, if_neg close]
      have reached := reachedBy_readValue (.items [] :: frames) token
      simpa [Place.read, opened, andComma, itemTokens] using reached
  | item frames done =>
    by_cases close : token = .closeList
    · rw [Place.step, if_pos close]
      exact reachedBy_stop (not_wellFormed_list (by decide)) ..
    · rw [Place.step, if_neg close]
      have reached := reachedBy_readValue (.items done :: frames) token
      rwa [opened, andComma_itemTokens sound] at reached
  | afterItem frames done =>
    by_cases close : token = .closeList
    · rw [Place.step, if_pos close, close]
      exact reachedBy_after (.list done.reverse .closed) (by simp [Place.read, tokens_list])
    · by_cases comma : token = .comma
      · rw [Place.step, if_neg close, if_pos comma, comma]
        exact .inr ⟨sound, by simp [Place.read]⟩
      · rw [Place.step, if_neg close, if_neg comma]
        exact reachedBy_stop (not_wellFormed_list (by decide)) ..
  | firstKey frames =>
    by_cases close : token = .closeObject
    · rw [Place.step, if_pos close, close]
      exact reachedBy_after (.object [] .closed) (by simp [Place.read, Tree.tokens])
    · rw [Place.step, if_neg close]
      have reached := reachedBy_readKey frames [] token
      simpa [Place.read, andComma, fieldTokens] using reached
  | nextKey frames done =>
    by_cases close : token = .closeObject
    · rw [Place.step, if_pos close]
      exact reachedBy_stop (not_wellFormed_object (by decide)) ..
    · rw [Place.step, if_neg close]
      have reached := reachedBy_readKey frames done token
      rw [andComma_fieldTokens sound] at reached
      simpa [Place.read] using reached
  | colon frames done key =>
    by_cases colon : token = .colon
    · rw [Place.step, if_pos colon, colon]
      exact .inr ⟨trivial, by simp [Place.read, opened]⟩
    · rw [Place.step, if_neg colon]
      exact reachedBy_stop (not_wellFormed_object (by decide)) ..
  | afterField frames done =>
    by_cases close : token = .closeObject
    · rw [Place.step, if_pos close, close]
      exact reachedBy_after (.object done.reverse .closed) (by simp [Place.read, tokens_object])
    · by_cases comma : token = .comma
      · rw [Place.step, if_neg close, if_pos comma, comma]
        exact .inr ⟨sound, by simp [Place.read]⟩
      · rw [Place.step, if_neg close, if_neg comma]
        exact reachedBy_stop (not_wellFormed_object (by decide)) ..
  | finished tree => exact .inl (.inl rfl)
  | halted tree surplus => exact sound.elim

theorem Place.ReachedBy.foldl {place : Place} {tokens : List Token}
    (reached : place.ReachedBy tokens) (more : List Token) :
    (more.foldl Place.step place).ReachedBy (tokens ++ more) := by
  induction more generalizing place tokens with
  | nil => rwa [List.append_nil]
  | cons token rest ih =>
    rw [List.foldl_cons, List.append_cons]
    exact ih (reached.step token)

theorem Place.ReachedBy.finish {place : Place} {tokens : List Token}
    (reached : place.ReachedBy tokens) {tree : Tree} (finished : place.finish = (tree, false))
    (wellFormed : tree.WellFormed) : tokens = tree.tokens := by
  have cutShort : ∀ {broken : Tree} {frames : List Frame}, ¬ broken.WellFormed →
      (enclose broken frames, false) ≠ (tree, false) := by
    intro broken frames broken same
    cases same
    exact broken (wellFormed_enclose wellFormed).2
  rcases reached with lost | ⟨sound, rfl⟩
  · cases place with
    | halted other surplus =>
      cases finished
      exact (lost.elim nofun fun broken => broken wellFormed).elim
    | _ => exact lost.elim
  cases place with
  | finished other =>
    cases finished
    rfl
  | halted other surplus => exact sound.elim
  | value frames => exact (@cutShort (.broken .endOfText) frames id finished).elim
  | firstItem | item | afterItem => exact (cutShort (not_wellFormed_list (by decide)) finished).elim
  | firstKey | nextKey | colon | afterField =>
    exact (cutShort (not_wellFormed_object (by decide)) finished).elim

/-- A well-formed tree that nothing follows was read from its own tokens. -/
theorem eq_tokens_of_ofTokens {tokens : List Token} {tree : Tree}
    (read : Tree.ofTokens tokens = (tree, false)) (wellFormed : tree.WellFormed) :
    tokens = tree.tokens := by
  have start : (Place.value []).ReachedBy [] := .inr ⟨trivial, rfl⟩
  exact (start.foldl tokens).finish read wellFormed

/-! ## Sound tokens -/

mutual

theorem sound_tokens : ∀ tree : Tree, tree.WellFormed → ∀ token ∈ tree.tokens, token.Sound
  | .null, _ => List.forall_mem_singleton.mpr trivial
  | .bool _, _ => List.forall_mem_singleton.mpr trivial
  | .number _, _ => List.forall_mem_singleton.mpr trivial
  | .text _, closed => List.forall_mem_singleton.mpr closed
  | .list [] _, _ => by simp [Tree.tokens, Token.Sound]
  | .list (item :: rest) _, wellFormed => by
    have first := sound_tokens item wellFormed.1.1
    have others := sound_tokensOfTrees rest wellFormed.1.2
    simp only [Tree.tokens, List.cons_append, List.forall_mem_cons, List.forall_mem_append]
    exact ⟨trivial, ⟨first, others⟩, trivial, by simp⟩
  | .object [] _, _ => by simp [Tree.tokens, Token.Sound]
  | .object ((key, value) :: rest) _, wellFormed => by
    have closed : (Token.text key).Sound := wellFormed.1.1
    have first := sound_tokens value wellFormed.1.2.1
    have others := sound_tokensOfEntries rest wellFormed.1.2.2
    simp only [Tree.tokens, List.cons_append, List.forall_mem_cons, List.forall_mem_append]
    exact ⟨trivial, closed, trivial, ⟨first, others⟩, trivial, by simp⟩
  | .broken _, wellFormed => wellFormed.elim

theorem sound_tokensOfTrees : ∀ items : List Tree, WellFormedItems items →
    ∀ token ∈ tokensOfTrees items, token.Sound
  | [], _ => by simp [tokensOfTrees]
  | item :: rest, wellFormed => by
    have first := sound_tokens item wellFormed.1
    have others := sound_tokensOfTrees rest wellFormed.2
    simp only [tokensOfTrees, List.cons_append, List.forall_mem_cons, List.forall_mem_append]
    exact ⟨trivial, first, others⟩

theorem sound_tokensOfEntries : ∀ fields : List (Quoted × Tree), WellFormedFields fields →
    ∀ token ∈ tokensOfEntries fields, token.Sound
  | [], _ => by simp [tokensOfEntries]
  | (key, value) :: rest, wellFormed => by
    have closed : (Token.text key).Sound := wellFormed.1
    have first := sound_tokens value wellFormed.2.1
    have others := sound_tokensOfEntries rest wellFormed.2.2
    simp only [tokensOfEntries, List.cons_append, List.forall_mem_cons, List.forall_mem_append]
    exact ⟨trivial, closed, trivial, first, others⟩

end

/-- A text that is read as a whole, well-formed tree spells this tree. -/
theorem spelledBy_of_ofText {tree : Tree} {text : String}
    (read : Tree.ofText text = (tree, false)) (wellFormed : tree.WellFormed) :
    tree.SpelledBy text := by
  have own : Json.tokens text = tree.tokens := eq_tokens_of_ofTokens read wellFormed
  have sound : ∀ token ∈ tokensFrom .between text.toList, token.Sound := by
    show ∀ token ∈ Json.tokens text, token.Sound
    rw [own]
    exact sound_tokens tree wellFormed
  have laid : LaidOut (Json.tokens text) text.toList := Mode.Taken.between.laidOut sound
  exact ⟨wellFormed, own ▸ laid⟩

/-- The texts that spell a tree are those that are read as this tree and nothing else,
where the tree is well formed. -/
theorem spelledBy_iff {tree : Tree} {text : String} :
    tree.SpelledBy text ↔ Tree.ofText text = (tree, false) ∧ tree.WellFormed :=
  ⟨fun spelled => ⟨spelled.ofText_eq, spelled.1⟩, fun read => spelledBy_of_ofText read.1 read.2⟩

end Stencil.Json
