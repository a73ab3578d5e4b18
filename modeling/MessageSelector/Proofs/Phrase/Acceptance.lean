import MessageSelector.Proofs.Phrase.Completeness
import MessageSelector.Regex.Plain

/-! Whole selectors: the inputs that are accepted, and the trees that they are accepted as. -/

namespace MessageSelector

section

variable [Regex.Engine]

namespace Phrase

/-- Takes a tree for the whole of a selector, which has to end after it. -/
def ending (tree : Expr) : Reader Expr := fun rest =>
  -- The end of the input is looked at but not taken.
  if (upcoming rest).token = .endOfInput then .ok (tree, rest)
  else unexpected (.token .endOfInput) rest

/-- Reads a whole selector up to its end. -/
def selecting : Reader Expr :=
  reading (.chain .or) >>= ending

/-- The end of the input is looked at and not taken. -/
theorem ending_keepsTo (tree : Expr) (input : List Lexeme) :
    (ending tree).KeepsTo (fun tokens result => tokens = [] ∧ result = tree) input := by
  -- The end is not taken, so a phrase of no tokens is all that is kept to.
  by_cases last : (upcoming input).token = .endOfInput
  · refine .of_ok ⟨rfl, rfl⟩ fun later same => ?_
    rw [ending, if_pos (by rwa [upcoming_congr same])]
  · -- Where the input goes on, nothing at all would be the completion.
    have completable : ∃ (completion : List Token) (result : Expr),
        completion = [] ∧ result = tree :=
      ⟨[], tree, rfl, rfl⟩
    refine .of_unexpected (.token .endOfInput) completable fun later same => ?_
    rw [ending, if_neg (by rwa [upcoming_congr same])]

/-- Reading a whole selector keeps to the phrases of the loosest rank. -/
theorem selecting_keepsTo (input : List Lexeme) :
    selecting.KeepsTo (Derives (.chain .or)) input := by
  -- A condition that is completed needs nothing more before the end.
  refine .bind (reading_keepsTo (.chain .or) input)
    (Q := fun tree tokens result => tokens = [] ∧ result = tree)
    (fun tree rest _ => ending_keepsTo tree rest) ?_ fun tree => ⟨[], tree, rfl, rfl⟩
  intro tokens tree more result phrase whole
  obtain ⟨nothing, same⟩ := whole
  rwa [nothing, same, List.append_nil]

/-- What is read of a selector is followed by its end. -/
theorem upcoming_of_selecting {input rest : List Lexeme} {tree : Expr}
    (read : selecting input = .ok (tree, rest)) : (upcoming rest).token = .endOfInput := by
  -- Both parts must have succeeded, and the second one only looks for the end.
  unfold selecting at read
  cases first : reading (.chain .or) input with
  | error error =>
    rw [Reader.bind_of_error first] at read
    cases read
  | ok found =>
    obtain ⟨whole, left⟩ := found
    rw [Reader.bind_of_ok first, ending] at read
    split at read
    · rename_i last
      cases read
      exact last
    · cases read

/-- A phrase of the loosest rank before the end of the input is read as a whole selector. -/
theorem selecting_of_derives {body rest : List Lexeme} {tree : Expr}
    (derived : Derives (.chain .or) (tokensOf body) tree)
    (last : (upcoming rest).token = .endOfInput) :
    selecting (body ++ rest) = .ok (tree, rest) := by
  -- The end of the input goes on with no phrase.
  have ends : goesOn (.chain .or) (upcoming rest).token = false := by
    simp [last, goesOn, Chain.operand, Chain.join?, beginsTest, comparison?, beginsWordedTest]
  have read := (readsAs_of_derives derived).whole rfl ends
  rw [selecting, Reader.bind_of_ok read, ending, if_pos last]

end Phrase

namespace Expr

/-- The tree of an input is what reading a whole selector makes of it. -/
theorem ofLexemes_eq_selecting (input : List Lexeme) :
    ofLexemes input = (Phrase.selecting input).map Prod.fst := by
  -- Both read a condition first and then look whether the end follows.
  unfold ofLexemes Phrase.selecting Phrase.reading Reader.ofParsed
  cases found : Phrase.read (.chain .or) input with
  | error error =>
    rw [Reader.bind_of_error (by rw [found]; rfl)]
    rfl
  | ok parsed =>
    rw [Reader.bind_of_ok (by rw [found]; rfl), Phrase.ending]
    by_cases last : (Phrase.upcoming parsed.rest).token = .endOfInput
    · simp [bind, Except.bind, last, Except.map, pure, Except.pure]
    · simp [bind, Except.bind, last, Except.map, Phrase.unexpected]

/-- What is accepted is read as a whole selector. -/
theorem exists_selecting_of_ok {input : List Lexeme} {tree : Expr}
    (accepted : ofLexemes input = .ok tree) :
    ∃ rest, Phrase.selecting input = .ok (tree, rest) := by
  rw [ofLexemes_eq_selecting] at accepted
  -- The selector is what the reader yields, with the remaining tokens dropped.
  cases found : Phrase.selecting input with
  | error error => simp [found, Except.map] at accepted
  | ok read =>
    rw [found] at accepted
    cases accepted
    exact ⟨read.2, rfl⟩

/-- What is refused is refused by reading a whole selector. -/
theorem selecting_of_error {input : List Lexeme} {error : SyntaxError}
    (refused : ofLexemes input = .error error) : Phrase.selecting input = .error error := by
  rw [ofLexemes_eq_selecting] at refused
  -- Dropping the remaining tokens of a success makes no error.
  cases found : Phrase.selecting input with
  | error told =>
    rw [found] at refused
    cases refused
    rfl
  | ok read => simp [found, Except.map] at refused

/-- A phrase of the loosest rank is accepted as its tree when the end of the input follows. -/
theorem ofLexemes_of_derives {body : List Lexeme} {tree : Expr}
    (derived : Derives (.chain .or) (tokensOf body) tree) (offset : Nat) (beyond : List Lexeme) :
    ofLexemes (body ++ ⟨.endOfInput, offset⟩ :: beyond) = .ok tree := by
  -- The reader finds the derivation and stops at the end of the input.
  rw [ofLexemes_eq_selecting, Phrase.selecting_of_derives derived rfl]
  rfl

/-- An accepted input begins with a phrase of the loosest rank that its end follows. -/
theorem exists_derives_of_ofLexemes {input : List Lexeme} {tree : Expr}
    (accepted : ofLexemes input = .ok tree) :
    ∃ body rest, input = body ++ rest ∧ (Phrase.upcoming rest).token = .endOfInput ∧
      Derives (.chain .or) (tokensOf body) tree := by
  obtain ⟨rest, read⟩ := exists_selecting_of_ok accepted
  -- What the reader has taken derives the tree, and it stopped at the end of the input.
  obtain ⟨body, same, derived⟩ := (Phrase.selecting_keepsTo input).exists_of_ok read
  exact ⟨body, rest, same, Phrase.upcoming_of_selecting read, derived⟩

/-- The tokens of an accepted input that is ended are a selector of the grammar. -/
theorem derivesSelector_of_ofLexemes {input : List Lexeme} {tree : Expr} (ended : Ended input)
    (accepted : ofLexemes input = .ok tree) : DerivesSelector (tokensOf input) tree := by
  obtain ⟨body, rest, rfl, last, derived⟩ := exists_derives_of_ofLexemes accepted
  cases rest with
  | nil => exact absurd rfl (ended.ne_nil derived.endOfInput_notMem)
  | cons lexeme beyond =>
    have isEnd : lexeme.token = .endOfInput := last
    -- Nothing comes after the end of an input that is ended.
    obtain ⟨rfl, -⟩ := ended.eq_append isEnd
    exact ⟨tokensOf body, by simp [isEnd], derived⟩

/-- A selector of the grammar is accepted as its tree wherever its tokens stand. -/
theorem ofLexemes_of_derivesSelector {input : List Lexeme} {tree : Expr}
    (derived : DerivesSelector (tokensOf input) tree) : ofLexemes input = .ok tree := by
  -- The end is the last token of a selector, and whatever is placed there is the end.
  obtain ⟨tokens, same, phrase⟩ := derived
  obtain ⟨body, offset, beyond, rfl, rfl, -⟩ := eq_append_cons_of_tokensOf same
  exact ofLexemes_of_derives phrase offset beyond

/-- No tokens have two trees, since the one that is read is the only one. -/
theorem tree_unique {tokens : List Token} {left right : Expr}
    (first : DerivesSelector tokens left) (second : DerivesSelector tokens right) :
    left = right := by
  -- The tokens are read at places of no account.
  let placed : List Lexeme := tokens.map fun token => ⟨token, 0⟩
  have same : tokensOf placed = tokens := by simp [placed, tokensOf, Function.comp_def]
  have readFirst := ofLexemes_of_derivesSelector (same ▸ first)
  have readSecond := ofLexemes_of_derivesSelector (same ▸ second)
  exact Except.ok.inj (readFirst.symm.trans readSecond)

/-- An ended input is accepted as a tree exactly when the grammar derives its tokens and the tree is
that of the derivation; no tokens are derived with two trees. -/
theorem ofLexemes_eq_ok_iff {input : List Lexeme} (ended : Ended input) :
    (∀ tree, ofLexemes input = .ok tree ↔ DerivesSelector (tokensOf input) tree) ∧
      ∀ tokens left right, DerivesSelector tokens left → DerivesSelector tokens right →
        left = right := by
  -- Uniqueness comes from the reader, which yields one tree for one input.
  refine ⟨fun tree => ⟨?_, ?_⟩, fun tokens left right => tree_unique⟩
  · exact derivesSelector_of_ofLexemes ended
  · exact ofLexemes_of_derivesSelector

end Expr

end

namespace Expr

/-- The tokens of `- 5 <> - a` are derived with one tree, in which the first minus is a sign. -/
theorem ofLexemes_minus :
    let input : List Lexeme := [⟨.mark .minus, 0⟩, ⟨.number "5", 2⟩, ⟨.mark .notEqual, 4⟩,
      ⟨.mark .minus, 7⟩, ⟨.identifier "a", 9⟩, ⟨.endOfInput, 10⟩]
    Ended input ∧
      ofLexemes input = .ok (.not (.compare .equal (.literal (.long "-5" (-5) rfl))
        (.negate (.reference ⟨"a", by decide, by decide⟩)))) := by
  intro input
  have ended : Ended input := ⟨input.take 5, 10, rfl, by decide⟩
  refine ⟨ended, ((ofLexemes_eq_ok_iff ended).1 _).2 ⟨tokensOf (input.take 5), rfl, ?_⟩⟩
  -- The minus belongs to the number on the left and is an operator on the right.
  have five : Derives .unary [.mark .minus, .number "5"] (.literal (.long "-5" (-5) rfl)) :=
    .signedNumber rfl
  have name : Derives .unary [.identifier "a"] (.reference ⟨"a", by decide, by decide⟩) :=
    .primary (.reference ⟨"a", by decide, by decide⟩)
  have negated := Derives.minus name (by simp [BeginsWithNumber])
  have equates := Derives.notEqual (five.loosen .sum)
    (negated.loosen .sum) (equates_iff.2 rfl)
  exact .condition equates

end Expr

end MessageSelector
