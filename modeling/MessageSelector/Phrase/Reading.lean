import MessageSelector.Phrase.Basic
import MessageSelector.Token.Cursor

/-! Reading selectors: each phrase is read in one pass over its tokens, with no step back. -/

namespace MessageSelector

variable [Regex.Engine]

namespace Phrase

mutual

/-- Reads the longest phrase of a rank at the front of the input. -/
def read (rank : Rank) (input : List Lexeme) : Except SyntaxError (Parsed Expr input.length) :=
  match rank with
  | .chain chain => do
    let first ← read chain.operand input
    -- The first operand may be all there is.
    let whole ← extend chain first.value first.rest
    return whole.widen first.shorter
  | .negation =>
    match input with
    | ⟨.keyword .not, _⟩ :: rest => do
      let operand ← read .negation rest
      return (operand.map .not).widen (by simp)
    | input => read .predicate input
  | .predicate => do
    let first ← read (.chain .sum) input
    let whole ← test first.value first.rest
    return whole.widen first.shorter
  | .unary =>
    match input with
    -- A plus leaves no node, however many of them there are.
    | ⟨.mark .plus, _⟩ :: rest => do
      let operand ← read .unary rest
      return operand.widen (by simp)
    -- The sign is a part of the number, so that the least integer can be written too.
    | ⟨.mark .minus, offset⟩ :: ⟨.number text, _⟩ :: rest => do
      return ⟨← number ("-" ++ text) offset, rest, Nat.lt_succ_of_lt (Nat.lt_succ_self _)⟩
    | ⟨.mark .minus, _⟩ :: rest => do
      let operand ← read .unary rest
      return (operand.map .negate).widen (by simp)
    | input => read .primary input
  | .primary =>
    match input with
    | ⟨.number text, offset⟩ :: rest => do
      return ⟨← number text offset, rest, by simp⟩
    | ⟨.string content, _⟩ :: rest => return ⟨.literal (.string content), rest, by simp⟩
    | ⟨.keyword .yes, offset⟩ :: rest => do
      return ⟨← constant .yes offset, rest, by simp⟩
    | ⟨.keyword .no, offset⟩ :: rest => do
      return ⟨← constant .no offset, rest, by simp⟩
    | ⟨.identifier name, offset⟩ :: rest => do
      return ⟨← reference name offset, rest, by simp⟩
    | ⟨.mark .openBracket, _⟩ :: rest => do
      let inner ← read (.chain .or) rest
      let closing ← expect (.mark .closeBracket) inner.rest
      return ⟨inner.value, closing.rest,
        Nat.lt_succ_of_lt (Nat.lt_trans closing.shorter inner.shorter)⟩
    -- Words that are no constants are told apart from everything else that is out of place.
    | ⟨.keyword word, offset⟩ :: _ => .error ⟨offset, .reservedOperand word⟩
    | input => unexpected .operand input
termination_by input.length * 10 + rank.height
decreasing_by
  · exact Nat.add_lt_add_left chain.height_operand_lt _
  all_goals simp only [List.length_cons, Rank.height]
  · have := first.shorter
    omega
  · omega
  · omega
  · omega
  · have := first.shorter
    omega
  all_goals omega

/-- Reads on after the first operands of a chain, as long as a token joins another one to them. -/
def extend (chain : Chain) (left : Expr) (input : List Lexeme) :
    Except SyntaxError (Parsed Expr (input.length + 1)) :=
  match input with
  | [] => return ⟨left, [], by simp⟩
  | lexeme :: rest =>
    match chain.join? lexeme.token with
    | none => return ⟨left, lexeme :: rest, by simp⟩
    | some join => do
      let right ← read chain.operand rest
      -- What is read so far becomes the left operand, so chains lean to the left.
      let whole ← extend chain (join left right.value) right.rest
      return whole.widen (Nat.le_succ_of_le (Nat.le_succ_of_le right.shorter))
termination_by input.length * 10 + 9
decreasing_by
  · have := chain.height_operand_lt
    cases chain <;> simp [Rank.height] at this ⊢ <;> omega
  · have := right.shorter
    simp only [List.length_cons]
    omega

/-- Reads on after the left side of a predicate: a test of it, if there is one. -/
def test (left : Expr) (input : List Lexeme) :
    Except SyntaxError (Parsed Expr (input.length + 1)) :=
  match input with
  | ⟨.keyword .is, _⟩ :: rest => do
    let tested ← nullTest left rest
    return tested.widen (Nat.le_add_right _ 2)
  | ⟨.keyword .not, _⟩ :: rest => do
    let tested ← wordedTest left rest
    return (tested.map .not).widen (Nat.le_add_right _ 2)
  -- Only one test can follow: a comparison is not compared again.
  | lexeme :: rest =>
    match comparison? lexeme.token with
    | some compare => do
      let right ← read (.chain .sum) rest
      return (right.map (compare left)).widen (Nat.le_add_right _ 2)
    | none =>
      if beginsWordedTest lexeme.token then do
        let tested ← wordedTest left (lexeme :: rest)
        return tested.widen (by simp)
      else return ⟨left, lexeme :: rest, by simp⟩
  | [] => return ⟨left, [], by simp⟩
termination_by input.length * 10 + 9
decreasing_by all_goals simp only [List.length_cons, Rank.height]; omega

/-- Reads a range, membership or pattern test, which is all that can come after NOT. -/
def wordedTest (left : Expr) (input : List Lexeme) :
    Except SyntaxError (Parsed Expr input.length) :=
  match input with
  | ⟨.keyword .between, _⟩ :: rest => do
    let lower ← read (.chain .sum) rest
    -- This AND belongs to the range, since sums take no AND of their own.
    let joint ← expect (.keyword .and) lower.rest
    let upper ← read (.chain .sum) joint.rest
    return ⟨.between left lower.value upper.value, upper.rest,
      Nat.lt_succ_of_lt (Nat.lt_trans (Nat.lt_trans upper.shorter joint.shorter) lower.shorter)⟩
  | ⟨.keyword .within, _⟩ :: rest => do
    let items ← stringList rest
    return (items.map fun items => .within left (.ofList items)).widen (by simp)
  | ⟨.keyword .like, offset⟩ :: rest => do
    let tested ← likeTest left offset rest
    return tested.widen (by simp)
  | input => unexpected .negatedTest input
termination_by input.length * 10 + 8
decreasing_by
  · simp only [List.length_cons, Rank.height]
    omega
  · have := lower.shorter
    have := joint.shorter
    simp only [List.length_cons, Rank.height]
    omega

end

end Phrase

namespace Expr

/-- Reads a whole selector from its tokens; nothing but the end of the input may follow it. -/
def ofLexemes (input : List Lexeme) : Except SyntaxError Expr := do
  let tree ← Phrase.read (.chain .or) input
  -- What was read is all there is, or else the token behind it is out of place.
  if (Phrase.upcoming tree.rest).token = .endOfInput then return tree.value
  else Phrase.unexpected (.token .endOfInput) tree.rest

/-- Reads a selector; a fault in one of its tokens is told before any other. -/
def ofText (text : String) : Except SyntaxError Expr := do
  ofLexemes (← tokenize text)

end Expr

end MessageSelector
