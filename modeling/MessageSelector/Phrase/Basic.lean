import MessageSelector.Expr.Like
import MessageSelector.SyntaxError

/-! The phrases of a selector: their ranks, the words that join them, and their simplest parts. -/

namespace MessageSelector

/-- Something read from the front of the input, with fewer than `bound` tokens left after it. -/
structure Parsed (α : Type) (bound : Nat) where
  value : α
  rest : List Lexeme
  -- Reading comes to an end since what is left gets shorter.
  shorter : rest.length < bound

namespace Parsed

/-- Changes what was read and leaves what has still to be read. -/
def map {α β : Type} {bound : Nat} (f : α → β) (parsed : Parsed α bound) : Parsed β bound :=
  ⟨f parsed.value, parsed.rest, parsed.shorter⟩

/-- What is shorter than a bound is shorter than every larger bound. -/
def widen {α : Type} {bound larger : Nat} (parsed : Parsed α bound) (le : bound ≤ larger) :
    Parsed α larger :=
  ⟨parsed.value, parsed.rest, Nat.lt_of_lt_of_le parsed.shorter le⟩

end Parsed

/-- The chains of operands that are joined from left to right. -/
inductive Chain where
  | or
  | and
  | sum
  | product
deriving DecidableEq, Repr

/-- The ranks of phrases, from the loosest to the tightest. -/
inductive Rank where
  | chain (chain : Chain)
  | negation
  | predicate
  | unary
  | primary
deriving DecidableEq, Repr

/-- The rank of the operands of a chain. -/
def Chain.operand : Chain → Rank
  -- A chain of one rank is made of phrases of the next tighter one.
  | or => .chain .and
  | and => .negation
  | sum => .chain .product
  | product => .unary

/-- The height of a rank above its tightest operands. -/
def Rank.height : Rank → Nat
  -- The heights put the ranks in order, for phrases that are read without a token in between.
  | chain .or => 8
  | chain .and => 7
  | negation => 6
  | predicate => 5
  | chain .sum => 4
  | chain .product => 3
  | unary => 2
  | primary => 1

/-- The operands of a chain have a lower rank than the chain. -/
theorem Chain.height_operand_lt (chain : Chain) :
    chain.operand.height < (Rank.chain chain).height := by
  -- The four chains are looked at one by one.
  cases chain <;> decide

variable [Regex.Engine]

/-- The tree that a token joins two operands of a chain to, if it joins operands of that chain. -/
def Chain.join? : Chain → Token → Option (Expr → Expr → Expr)
  -- A minus that is met here stands between two operands; a sign belongs to its operand.
  | or, .keyword .or => some (.connect .or)
  | and, .keyword .and => some (.connect .and)
  | sum, .mark .plus => some (.arithmetic .add)
  | sum, .mark .minus => some (.arithmetic .subtract)
  | product, .mark .star => some (.arithmetic .multiply)
  | product, .mark .slash => some (.arithmetic .divide)
  | _, _ => none

/-- The tree of the comparison that a token stands for, if it stands for one. -/
def comparison? : Token → Option (Expr → Expr → Expr)
  | .mark .equal => some .equality
  -- The negation is put around the comparison, as in the other tests with NOT.
  | .mark .notEqual => some fun left right => .not (.equality left right)
  | .mark .less => some (.compare .less)
  | .mark .lessEqual => some (.compare .lessEqual)
  | .mark .greater => some (.compare .greater)
  | .mark .greaterEqual => some (.compare .greaterEqual)
  | _ => none

namespace Phrase

/-- The token that comes next, which is the end of the input when there is none. -/
def upcoming : List Lexeme → Lexeme
  -- Ended inputs always have a token to come, so the first case only makes this total.
  | [] => ⟨.endOfInput, 0⟩
  | lexeme :: _ => lexeme

/-- The input does not go on as it has to. -/
def unexpected {α : Type} (wanted : Wanted) (input : List Lexeme) : Except SyntaxError α :=
  -- The token that is there instead is told together with what was wanted.
  .error ⟨(upcoming input).offset, .expected wanted (upcoming input).token⟩

/-- Reads one particular token. -/
def expect (token : Token) (input : List Lexeme) : Except SyntaxError (Parsed Unit input.length) :=
  -- The token is looked at before it is taken, so a fault takes nothing.
  match input with
  | lexeme :: rest =>
    if lexeme.token = token then .ok ⟨(), rest, by simp⟩
    else unexpected (.token token) (lexeme :: rest)
  | [] => unexpected (.token token) []

/-- Reads a string. -/
def expectString (input : List Lexeme) : Except SyntaxError (Parsed String input.length) :=
  -- Any other token, the end included, is told instead of the string.
  match input with
  | ⟨.string content, _⟩ :: rest => .ok ⟨content, rest, by simp⟩
  | input => unexpected .string input

/-- Reads on after a string of a list: a comma and another string, as often as there is a comma. -/
def moreStrings (input : List Lexeme) :
    Except SyntaxError (Parsed (List String) (input.length + 1)) :=
  match input with
  | ⟨.mark .comma, _⟩ :: rest => do
    let item ← expectString rest
    let more ← moreStrings item.rest
    return (more.map (item.value :: ·)).widen (by
      have := item.shorter
      simp only [List.length_cons]; omega)
  -- Without a comma the list is complete, whatever comes next.
  | input => .ok ⟨[], input, by simp⟩
termination_by input.length
decreasing_by
  have := item.shorter
  simp only [List.length_cons]; omega

/-- Reads a list of one or more strings in brackets. -/
def stringList (input : List Lexeme) : Except SyntaxError (Parsed (List String) input.length) := do
  let opening ← expect (.mark .openBracket) input
  let first ← expectString opening.rest
  let more ← moreStrings first.rest
  let closing ← expect (.mark .closeBracket) more.rest
  -- The proof puts together that each step left fewer tokens.
  return ⟨first.value :: more.value, closing.rest, by
    have := opening.shorter
    have := first.shorter
    have := more.shorter
    have := closing.shorter
    omega⟩

/-- Reads what follows IS: NULL, or NOT NULL. -/
def nullTest (left : Expr) (input : List Lexeme) :
    Except SyntaxError (Parsed Expr input.length) :=
  match input with
  -- The negation is put around the test, so that no test is of two kinds.
  | ⟨.keyword .not, _⟩ :: rest => do
    let null ← expect (.keyword .null) rest
    return (null.map fun _ => .not (.isNull left)).widen (by simp)
  | input => do
    let null ← expect (.keyword .null) input
    return null.map fun _ => .isNull left

/-- Reads an escape clause, if there is one. -/
def escapeClause (input : List Lexeme) :
    Except SyntaxError (Parsed (Option String) (input.length + 1)) :=
  match input with
  | ⟨.keyword .escape, _⟩ :: rest => do
    let escape ← expectString rest
    return (escape.map some).widen (by simp only [List.length_cons]; omega)
  -- The clause is optional, so nothing is wrong with another token.
  | input => .ok ⟨none, input, by simp⟩

/-- Reads what follows LIKE; a pattern or an escape that is refused is a fault at that word. -/
def likeTest (left : Expr) (offset : Nat) (input : List Lexeme) :
    Except SyntaxError (Parsed Expr input.length) := do
  let pattern ← expectString input
  let clause ← escapeClause pattern.rest
  -- The tree is built last, so a missing string is told before a refused pattern.
  match Expr.likeOf left (.literal (.string pattern.value))
      (clause.value.map fun escape => .literal (.string escape)) with
  | .ok tree => return ⟨tree, clause.rest, by
      have := pattern.shorter
      have := clause.shorter
      omega⟩
  | .error error => .error ⟨offset, .like error⟩

/-- The number that a text writes; one that is refused is a fault at the given place. -/
def number (text : String) (offset : Nat) : Except SyntaxError Expr :=
  -- A text that has the form of a number may still be out of range.
  match Literal.ofNumeral text with
  | .ok constant => .ok (.literal constant)
  | .error error => .error ⟨offset, .number error⟩

/-- The constant that a word stands for; one that is refused is a fault at the given place. -/
def constant (word : Keyword) (offset : Nat) : Except SyntaxError Expr :=
  -- The text of the word is read like that of any other literal.
  match Literal.ofBoolean word.text with
  | .ok constant => .ok (.literal constant)
  | .error error => .error ⟨offset, .boolean error⟩

/-- The identifier of a name; one that is refused is a fault at the given place. -/
def reference (name : String) (offset : Nat) : Except SyntaxError Expr :=
  -- A token may be a reserved word, which is no name.
  match Identifier.ofName name with
  | .ok identifier => .ok (.reference identifier)
  | .error error => .error ⟨offset, .identifier error⟩

/-- The words that begin a test which NOT can come before. -/
def beginsWordedTest : Token → Bool
  -- The test for NULL has its own place for NOT, and comparisons have none.
  | .keyword .between | .keyword .within | .keyword .like => true
  | _ => false

end Phrase

end MessageSelector
