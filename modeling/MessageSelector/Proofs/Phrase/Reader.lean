import MessageSelector.Phrase.Reading
import MessageSelector.Proofs.Phrase.Grammar

/-! Readers of phrases as programs over the tokens that are left, apart from the bounds on them. -/

namespace MessageSelector

/-- What is made of the front of an input, together with the rest of the input. -/
abbrev Reader (α : Type) := StateT (List Lexeme) (Except SyntaxError) α

namespace Reader

variable {α β : Type}

/-- The reader that forgets how short the rest is. -/
def ofParsed {size : List Lexeme → Nat}
    (parse : (input : List Lexeme) → Except SyntaxError (Parsed α (size input))) : Reader α :=
  -- The bound on the remaining input is needed for termination only, so it is dropped.
  fun input => (parse input).map fun parsed => (parsed.value, parsed.rest)

/-- What is left after something that was parsed is as short as its bound says. -/
theorem length_lt_of_ofParsed {size : List Lexeme → Nat}
    {parse : (input : List Lexeme) → Except SyntaxError (Parsed α (size input))}
    {input rest : List Lexeme} {value : α} (found : ofParsed parse input = .ok (value, rest)) :
    rest.length < size input := by
  unfold ofParsed at found
  -- What is read carries the proof that it leaves less than there was.
  cases parsed : parse input with
  | error error => simp [parsed, Except.map] at found
  | ok whole =>
    simp only [parsed, Except.map, Except.ok.injEq, Prod.mk.injEq] at found
    exact found.2 ▸ whole.shorter

/-- What follows a reader goes on with the rest that the reader leaves. -/
theorem bind_of_ok {first : Reader α} {next : α → Reader β} {input rest : List Lexeme} {value : α}
    (read : first input = .ok (value, rest)) : (first >>= next) input = next value rest := by
  -- The second reader starts where the first one stopped.
  simp [bind, StateT.bind, read, Except.bind]

/-- Nothing follows a reader that fails. -/
theorem bind_of_error {first : Reader α} {next : α → Reader β} {input : List Lexeme}
    {error : SyntaxError} (refused : first input = .error error) :
    (first >>= next) input = .error error := by
  -- The second reader is never reached.
  simp [bind, StateT.bind, refused, Except.bind]

/-- A result that does not depend on the input takes nothing from it. -/
theorem lift_of_ok {result : Except SyntaxError α} {value : α} (made : result = .ok value)
    (input : List Lexeme) : (result : Reader α) input = .ok (value, input) := by
  -- A computation without input leaves all of it.
  subst made
  rfl

/-- Changing what a reader makes of the input changes nothing else. -/
theorem map_of_ok {first : Reader α} {f : α → β} {input rest : List Lexeme} {value : α}
    (read : first input = .ok (value, rest)) : (f <$> first) input = .ok (f value, rest) := by
  -- The value is mapped, and the remaining input stays.
  simp [Functor.map, StateT.map, read, bind, Except.bind, pure, Except.pure]

/-- Changing what a reader makes of the input does not mend a failure. -/
theorem map_of_error {first : Reader α} {f : α → β} {input : List Lexeme} {error : SyntaxError}
    (refused : first input = .error error) : (f <$> first) input = .error error := by
  -- There is no value to be mapped.
  simp [Functor.map, StateT.map, refused, bind, Except.bind]

end Reader

namespace Phrase

attribute [local simp] moreStrings read extend test wordedTest

/-- Reads one particular token. -/
def expecting (token : Token) : Reader Unit :=
  .ofParsed (expect token)

/-- Reads a string. -/
def expectingString : Reader String :=
  .ofParsed expectString

/-- Reads on after a string of a list. -/
def listingMore : Reader (List String) :=
  .ofParsed moreStrings

/-- Reads a list of strings in brackets. -/
def listing : Reader (List String) :=
  .ofParsed stringList

/-- Reads an escape clause, if there is one. -/
def escaping : Reader (Option String) :=
  .ofParsed escapeClause

/-- A token is the one to come or it is not. -/
theorem upcoming_cases (token : Token) (inside : token ≠ .endOfInput) (input : List Lexeme) :
    (∃ offset rest, input = ⟨token, offset⟩ :: rest) ∨ (upcoming input).token ≠ token := by
  -- An input without tokens counts as one that is at its end.
  cases input with
  | nil => exact .inr (Ne.symm inside)
  | cons lexeme rest =>
    by_cases same : lexeme.token = token
    · exact .inl ⟨lexeme.offset, rest, by rw [← same]⟩
    · exact .inr same

/-- A token of a kind is the one to come or none of the kind is. -/
theorem upcoming_kind_cases {α : Type} (kind : α → Token)
    (inside : ∀ value, kind value ≠ .endOfInput) (input : List Lexeme) :
    (∃ value offset rest, input = ⟨kind value, offset⟩ :: rest) ∨
      ∀ value, (upcoming input).token ≠ kind value := by
  -- Whether there is such a value need not be decided, only told apart.
  by_cases next : ∃ value, (upcoming input).token = kind value
  · obtain ⟨value, next⟩ := next
    rcases upcoming_cases (kind value) (inside value) input with found | other
    · exact .inl ⟨value, found⟩
    · exact absurd next other
  · exact .inr fun value found => next ⟨value, found⟩

/-- A particular token is left out when it comes next. -/
theorem expecting_next (token : Token) (offset : Nat) (rest : List Lexeme) :
    expecting token (⟨token, offset⟩ :: rest) = .ok ((), rest) := by
  -- The token in front is the one expected, so it is taken.
  simp [expecting, Reader.ofParsed, expect, Except.map]

/-- Any other token in its place is told as the fault. -/
theorem expecting_other {token : Token} {input : List Lexeme}
    (other : (upcoming input).token ≠ token) :
    expecting token input = unexpected (.token token) input := by
  -- The fault names the token that is there, or the end where there is none.
  cases input with
  | nil => rfl
  | cons lexeme rest =>
    have differs : ¬lexeme.token = token := other
    simp [expecting, Reader.ofParsed, expect, differs, unexpected, Except.map]

/-- Where a token is left out it came next. -/
theorem eq_cons_of_expecting {token : Token} (inside : token ≠ .endOfInput)
    {input rest : List Lexeme} (read : expecting token input = .ok ((), rest)) :
    ∃ offset, input = ⟨token, offset⟩ :: rest := by
  -- With any other token to come the reading would have failed.
  rcases upcoming_cases token inside input with ⟨offset, later, rfl⟩ | other
  · rw [expecting_next] at read
    cases read
    exact ⟨offset, rfl⟩
  · rw [expecting_other other] at read
    cases read

/-- A string that comes next is taken for its content. -/
theorem expectingString_next (content : String) (offset : Nat) (rest : List Lexeme) :
    expectingString (⟨.string content, offset⟩ :: rest) = .ok (content, rest) :=
  -- The content is kept, and the offset does not matter.
  rfl

/-- Any other token in the place of a string is told as the fault. -/
theorem expectingString_other {input : List Lexeme}
    (other : ∀ content, (upcoming input).token ≠ .string content) :
    expectingString input = unexpected .string input := by
  unfold expectingString Reader.ofParsed expectString
  split
  -- The first branch needs a string in front, which is excluded.
  · exact absurd rfl (other _)
  · rfl

/-- Where a string is taken it came next. -/
theorem eq_cons_of_expectingString {input rest : List Lexeme} {content : String}
    (read : expectingString input = .ok (content, rest)) :
    ∃ offset, input = ⟨.string content, offset⟩ :: rest := by
  -- With no string to come the reading would have failed.
  rcases upcoming_kind_cases .string (by simp) input with ⟨found, offset, later, rfl⟩ | other
  · rw [expectingString_next] at read
    cases read
    exact ⟨offset, rfl⟩
  · rw [expectingString_other other] at read
    cases read

/-- A comma asks for another string of a list. -/
theorem listingMore_comma (offset : Nat) (rest : List Lexeme) :
    listingMore (⟨.mark .comma, offset⟩ :: rest) =
      (do
        let item ← expectingString
        (item :: ·) <$> listingMore : Reader (List String)) rest := by
  unfold listingMore expectingString Reader.ofParsed
  rw [moreStrings]
  simp only [Functor.map, StateT.map, bind, StateT.bind, Except.bind, Except.map]
  -- Both sides fail where no string follows, and else go on behind it.
  cases expectString rest with
  | error error => rfl
  | ok item =>
    dsimp only
    cases moreStrings item.rest <;> rfl

/-- Without a comma a list has no further strings. -/
theorem listingMore_other {input : List Lexeme} (other : (upcoming input).token ≠ .mark .comma) :
    listingMore input = .ok ([], input) := by
  unfold listingMore Reader.ofParsed
  rw [moreStrings]
  · rfl
  -- Only a comma in front would go on with the list.
  · intro offset rest same
    subst same
    exact other rfl

/-- A list is a bracket, a string, the strings after commas, and a bracket. -/
theorem listing_eq :
    listing = (do
      expecting (.mark .openBracket)
      let first ← expectingString
      let more ← listingMore
      (fun _ => first :: more) <$> expecting (.mark .closeBracket) : Reader (List String)) := by
  funext input
  unfold listing Reader.ofParsed stringList
  simp only [Functor.map, StateT.map, bind, StateT.bind, Except.bind, expecting, expectingString,
    listingMore, Reader.ofParsed, Except.map]
  -- The parts are read in the same order on both sides, and fail at the same ones.
  cases expect (.mark .openBracket) input with
  | error error => rfl
  | ok opening =>
    dsimp only
    cases expectString opening.rest with
    | error error => rfl
    | ok first =>
      dsimp only
      cases moreStrings first.rest with
      | error error => rfl
      | ok more =>
        dsimp only
        cases expect (.mark .closeBracket) more.rest <;> rfl

/-- The word ESCAPE asks for a string. -/
theorem escaping_escape (offset : Nat) (rest : List Lexeme) :
    escaping (⟨.keyword .escape, offset⟩ :: rest) = (some <$> expectingString) rest := by
  -- The word is taken, and the clause is the string behind it.
  unfold escaping expectingString Reader.ofParsed escapeClause
  simp only [Functor.map, StateT.map, bind, Except.bind, Except.map]
  cases expectString rest <;> rfl

/-- Without the word ESCAPE there is no escape clause. -/
theorem escaping_other {input : List Lexeme} (other : (upcoming input).token ≠ .keyword .escape) :
    escaping input = .ok (none, input) := by
  unfold escaping Reader.ofParsed escapeClause
  split
  -- The first branch needs the word in front, which is excluded.
  · exact absurd rfl other
  · rfl

variable [Regex.Engine]

/-- Reads a phrase of a rank. -/
def reading (rank : Rank) : Reader Expr :=
  .ofParsed (read rank)

/-- Reads on after the first operands of a chain. -/
def extending (chain : Chain) (left : Expr) : Reader Expr :=
  .ofParsed (extend chain left)

/-- Reads on after the left side of a predicate. -/
def testing (left : Expr) : Reader Expr :=
  .ofParsed (test left)

/-- Reads a range, membership or pattern test. -/
def testingWord (left : Expr) : Reader Expr :=
  .ofParsed (wordedTest left)

/-- Reads what follows IS. -/
def testingNull (left : Expr) : Reader Expr :=
  .ofParsed (nullTest left)

/-- Reads what follows LIKE. -/
def testingLike (left : Expr) (offset : Nat) : Reader Expr :=
  .ofParsed (likeTest left offset)

/-- What is left after a phrase is shorter than the input. -/
theorem length_lt_of_reading {rank : Rank} {input rest : List Lexeme} {tree : Expr}
    (found : reading rank input = .ok (tree, rest)) : rest.length < input.length :=
  -- The bound is part of the type of what the parser returns.
  Reader.length_lt_of_ofParsed found

/-- NOT before NULL negates the test. -/
theorem testingNull_not (left : Expr) (offset : Nat) (rest : List Lexeme) :
    testingNull left (⟨.keyword .not, offset⟩ :: rest) =
      ((fun _ => .not (.isNull left)) <$> expecting (.keyword .null) : Reader Expr) rest := by
  -- The word is taken, and the test behind it is negated.
  unfold testingNull expecting Reader.ofParsed nullTest
  simp only [Functor.map, StateT.map, bind, Except.bind, Except.map]
  cases expect (.keyword .null) rest <;> rfl

/-- Without NOT, NULL has to come next. -/
theorem testingNull_other (left : Expr) {input : List Lexeme}
    (other : (upcoming input).token ≠ .keyword .not) :
    testingNull left input =
      ((fun _ => .isNull left) <$> expecting (.keyword .null) : Reader Expr) input := by
  unfold testingNull expecting Reader.ofParsed nullTest
  split
  -- The first branch needs the word in front, which is excluded.
  · exact absurd rfl other
  · simp only [Functor.map, StateT.map, bind, Except.bind, Except.map]
    cases expect (.keyword .null) input <;> rfl

/-- A pattern test; one that is refused is a fault at the given place. -/
def patternTestAt (left : Expr) (offset : Nat) (pattern : String) (clause : Option String) :
    Except SyntaxError Expr :=
  -- An error is told at the word that began the test, not at the string it is about.
  match patternTest left pattern clause with
  | .ok tree => .ok tree
  | .error error => .error ⟨offset, .like error⟩

/-- A pattern test is a string and an escape clause that go with it. -/
theorem testingLike_eq (left : Expr) (offset : Nat) :
    testingLike left offset = (do
      let pattern ← expectingString
      let clause ← escaping
      patternTestAt left offset pattern clause : Reader Expr) := by
  funext input
  unfold testingLike expectingString escaping Reader.ofParsed likeTest patternTestAt patternTest
  simp only [bind, StateT.bind, Except.bind, Except.map, liftM, monadLift, MonadLift.monadLift,
    StateT.lift]
  -- Both sides read the pattern and the clause before they make the test.
  cases expectString input with
  | error error => rfl
  | ok pattern =>
    dsimp only
    cases escapeClause pattern.rest with
    | error error => rfl
    | ok clause =>
      dsimp only
      cases Expr.likeOf left (.literal (.string pattern.value))
        (clause.value.map fun escape => .literal (.string escape)) <;> rfl

/-- After a pattern an escape clause is read, and then the test is made. -/
theorem testingLike_string (left : Expr) (offset place : Nat) (pattern : String)
    (rest : List Lexeme) :
    testingLike left offset (⟨.string pattern, place⟩ :: rest) =
      (do patternTestAt left offset pattern (← escaping) : Reader Expr) rest := by
  -- The string in front is taken, and the clause comes next.
  rw [testingLike_eq]
  exact Reader.bind_of_ok (expectingString_next pattern place rest)

/-- After a pattern and the word ESCAPE a string is read, and then the test is made. -/
theorem testingLike_escape (left : Expr) (offset place start : Nat) (pattern : String)
    (rest : List Lexeme) :
    testingLike left offset (⟨.string pattern, place⟩ :: ⟨.keyword .escape, start⟩ :: rest) =
      (do patternTestAt left offset pattern (some (← expectingString)) : Reader Expr) rest := by
  rw [testingLike_string]
  -- The clause that is read is the string after the word.
  have clause := escaping_escape start rest
  cases found : expectingString rest with
  | ok read =>
    rw [Reader.map_of_ok found] at clause
    rw [Reader.bind_of_ok clause, Reader.bind_of_ok found]
  | error error =>
    rw [Reader.map_of_error found] at clause
    rw [Reader.bind_of_error clause, Reader.bind_of_error found]

/-- Without the word ESCAPE the test is made of the pattern alone. -/
theorem testingLike_bare (left : Expr) (offset place : Nat) (pattern : String)
    {rest : List Lexeme} (other : (upcoming rest).token ≠ .keyword .escape) :
    testingLike left offset (⟨.string pattern, place⟩ :: rest) =
      (patternTestAt left offset pattern none : Reader Expr) rest := by
  -- No clause follows, so the pattern is tested without an escape character.
  rw [testingLike_string]
  exact Reader.bind_of_ok (escaping_other other)

/-- Without a pattern there is no test. -/
theorem testingLike_other (left : Expr) (offset : Nat) {rest : List Lexeme}
    (other : ∀ pattern, (upcoming rest).token ≠ .string pattern) :
    testingLike left offset rest = unexpected .string rest := by
  -- Without a string, neither the clause nor the test is reached.
  rw [testingLike_eq]
  exact Reader.bind_of_error (expectingString_other other)

/-- A chain is its first operand and what follows that. -/
theorem reading_chain (chain : Chain) :
    reading (.chain chain) = reading chain.operand >>= extending chain := by
  funext input
  unfold reading extending Reader.ofParsed
  rw [read]
  simp only [bind, StateT.bind, Except.bind, Except.map]
  -- The remaining input of the first operand is where the loop begins.
  cases read chain.operand input with
  | error error => rfl
  | ok first =>
    dsimp only
    cases extend chain first.value first.rest <;> rfl

/-- The end of the input joins nothing. -/
theorem ne_endOfInput_of_join {chain : Chain} {token : Token} {join : Expr → Expr → Expr}
    (joins : chain.join? token = some join) : token ≠ .endOfInput := by
  -- No chain has the end among its joining tokens.
  rintro rfl
  cases chain <;> cases joins

/-- The end of the input compares nothing. -/
theorem ne_endOfInput_of_comparison {token : Token} {compare : Expr → Expr → Expr}
    (sign : comparison? token = some compare) : token ≠ .endOfInput := by
  -- The table of signs has no row for the end.
  rintro rfl
  cases sign

/-- A token that joins operands of a chain asks for another operand. -/
theorem extending_join {chain : Chain} {left : Expr} {lexeme : Lexeme} {rest : List Lexeme}
    {join : Expr → Expr → Expr} (joins : chain.join? lexeme.token = some join) :
    extending chain left (lexeme :: rest) =
      (do extending chain (join left (← reading chain.operand)) : Reader Expr) rest := by
  unfold reading extending Reader.ofParsed
  rw [extend, joins]
  simp only [bind, StateT.bind, Except.bind, Except.map]
  -- The right operand is joined to the left one, and the loop begins again behind it.
  cases read chain.operand rest with
  | error error => rfl
  | ok right =>
    dsimp only
    cases extend chain (join left right.value) right.rest <;> rfl

/-- Any other token ends the chain. -/
theorem extending_other {chain : Chain} {left : Expr} {input : List Lexeme}
    (ends : chain.join? (upcoming input).token = none) :
    extending chain left input = .ok (left, input) := by
  unfold extending Reader.ofParsed
  -- Without a joining token the loop ends where it is.
  cases input with
  | nil => rw [extend]; rfl
  | cons lexeme rest =>
    have ends : chain.join? lexeme.token = none := ends
    rw [extend, ends]
    rfl

/-- NOT before a condition negates it. -/
theorem reading_negation_not (offset : Nat) (rest : List Lexeme) :
    reading .negation (⟨.keyword .not, offset⟩ :: rest) =
      (Expr.not <$> reading .negation) rest := by
  -- The word is taken, and a whole negation follows it.
  unfold reading Reader.ofParsed
  rw [read]
  simp only [Functor.map, StateT.map, bind, Except.bind, Except.map]
  cases read .negation rest <;> rfl

/-- Without NOT a negation is a predicate. -/
theorem reading_negation_other {input : List Lexeme}
    (other : (upcoming input).token ≠ .keyword .not) :
    reading .negation input = reading .predicate input := by
  unfold reading Reader.ofParsed
  rw [read]
  -- Only the word in front would begin a negation.
  intro offset rest same
  subst same
  exact other rfl

/-- A predicate is its left side and what tests that. -/
theorem reading_predicate : reading .predicate = reading (.chain .sum) >>= testing := by
  funext input
  unfold reading testing Reader.ofParsed
  rw [read]
  simp only [bind, StateT.bind, Except.bind, Except.map]
  -- The remaining input of the sum is where the test begins.
  cases read (.chain .sum) input with
  | error error => rfl
  | ok first =>
    dsimp only
    cases test first.value first.rest <;> rfl

/-- A plus leaves nothing. -/
theorem reading_unary_plus (offset : Nat) (rest : List Lexeme) :
    reading .unary (⟨.mark .plus, offset⟩ :: rest) = reading .unary rest := by
  -- What is read behind the sign is returned as it is.
  unfold reading Reader.ofParsed
  rw [read]
  simp only [bind, Except.bind, Except.map]
  cases read .unary rest <;> rfl

/-- A minus next to a number is the sign of that number. -/
theorem reading_unary_number (offset place : Nat) (text : String) (rest : List Lexeme) :
    reading .unary (⟨.mark .minus, offset⟩ :: ⟨.number text, place⟩ :: rest) =
      (number ("-" ++ text) offset : Reader Expr) rest := by
  -- The minus becomes a part of the text of the number.
  unfold reading Reader.ofParsed
  rw [read]
  simp only [bind, Except.bind, Except.map, liftM, monadLift, MonadLift.monadLift, StateT.lift]
  cases number ("-" ++ text) offset <;> rfl

/-- A minus before anything else negates what follows it. -/
theorem reading_unary_minus (offset : Nat) {rest : List Lexeme}
    (other : ∀ text, (upcoming rest).token ≠ .number text) :
    reading .unary (⟨.mark .minus, offset⟩ :: rest) = (Expr.negate <$> reading .unary) rest := by
  unfold reading Reader.ofParsed
  rw [read]
  -- Not before a number, the minus is an operator of its own.
  · simp only [Functor.map, StateT.map, bind, Except.bind, Except.map]
    cases read .unary rest <;> rfl
  · intro text place more same
    subst same
    exact other text rfl

/-- Without a sign a unary phrase is a primary one. -/
theorem reading_unary_other {input : List Lexeme} (noPlus : (upcoming input).token ≠ .mark .plus)
    (noMinus : (upcoming input).token ≠ .mark .minus) :
    reading .unary input = reading .primary input := by
  unfold reading Reader.ofParsed
  rw [read]
  -- Each of the three branches before the last one needs a sign in front.
  · intro offset rest same
    subst same
    exact noPlus rfl
  · intro offset text place rest same
    subst same
    exact noMinus rfl
  · intro offset rest same
    subst same
    exact noMinus rfl

/-- The text of a number reads as the constant that it writes. -/
theorem number_eq_ok_iff {text : String} {offset : Nat} {tree : Expr} :
    number text offset = .ok tree ↔
      ∃ constant, Literal.ofNumeral text = .ok constant ∧ tree = .literal constant := by
  -- The node holds the literal, and there is no other way to make one.
  unfold number
  cases Literal.ofNumeral text with
  | ok constant => simp [eq_comm]
  | error cause => simp

/-- A name reads as the identifier that has it. -/
theorem reference_eq_ok_iff {name : String} {offset : Nat} {tree : Expr} :
    reference name offset = .ok tree ↔
      ∃ identifier : Identifier, identifier.name = name ∧ tree = .reference identifier := by
  constructor
  -- The identifier was made from the name, so it carries it.
  · intro made
    unfold reference at made
    split at made
    · rename_i identifier found
      cases made
      exact ⟨identifier, Identifier.name_of_ofName found, rfl⟩
    · cases made
  · intro named
    obtain ⟨identifier, rfl, rfl⟩ := named
    rw [reference, identifier.ofName_name]

/-- A number is a constant. -/
theorem reading_primary_number (text : String) (offset : Nat) (rest : List Lexeme) :
    reading .primary (⟨.number text, offset⟩ :: rest) =
      (number text offset : Reader Expr) rest := by
  -- The number is one token, and making its literal takes no further one.
  unfold reading Reader.ofParsed
  rw [read]
  simp only [bind, Except.bind, Except.map, liftM, monadLift, MonadLift.monadLift, StateT.lift]
  cases number text offset <;> rfl

/-- A string is a constant. -/
theorem reading_primary_string (content : String) (offset : Nat) (rest : List Lexeme) :
    reading .primary (⟨.string content, offset⟩ :: rest) =
      .ok (.literal (.string content), rest) := by
  -- A string is a literal as it stands.
  unfold reading Reader.ofParsed
  rw [read]
  rfl

/-- The word TRUE is never refused. -/
theorem constant_yes (offset : Nat) : constant .yes offset = .ok (.literal (.boolean true)) := by
  -- The word reads as the flag in any case of its letters, and so in capitals.
  rfl

/-- The word FALSE is never refused. -/
theorem constant_no (offset : Nat) : constant .no offset = .ok (.literal (.boolean false)) := by
  rfl

/-- TRUE is a constant. -/
theorem reading_primary_yes (offset : Nat) (rest : List Lexeme) :
    reading .primary (⟨.keyword .yes, offset⟩ :: rest) = .ok (.literal (.boolean true), rest) := by
  -- The keyword is read as a text, which is accepted.
  unfold reading Reader.ofParsed
  rw [read]
  simp only [constant_yes]
  rfl

/-- FALSE is a constant. -/
theorem reading_primary_no (offset : Nat) (rest : List Lexeme) :
    reading .primary (⟨.keyword .no, offset⟩ :: rest) = .ok (.literal (.boolean false), rest) := by
  -- The keyword is read as a text, which is accepted.
  unfold reading Reader.ofParsed
  rw [read]
  simp only [constant_no]
  rfl

/-- A name is a reference. -/
theorem reading_primary_identifier (name : String) (offset : Nat) (rest : List Lexeme) :
    reading .primary (⟨.identifier name, offset⟩ :: rest) =
      (reference name offset : Reader Expr) rest := by
  -- The name is one token, and making its node takes no further one.
  unfold reading Reader.ofParsed
  rw [read]
  simp only [bind, Except.bind, Except.map, liftM, monadLift, MonadLift.monadLift, StateT.lift]
  cases reference name offset <;> rfl

/-- A bracket holds a whole condition. -/
theorem reading_primary_bracket (offset : Nat) (rest : List Lexeme) :
    reading .primary (⟨.mark .openBracket, offset⟩ :: rest) =
      (do
        let inner ← reading (.chain .or)
        (fun _ => inner) <$> expecting (.mark .closeBracket) : Reader Expr) rest := by
  unfold reading expecting Reader.ofParsed
  rw [read]
  simp only [Functor.map, StateT.map, bind, StateT.bind, Except.bind, Except.map]
  -- The condition inside is read to its end before the bracket is expected.
  cases read (.chain .or) rest with
  | error error => rfl
  | ok inner =>
    dsimp only
    cases expect (.mark .closeBracket) inner.rest <;> rfl

/-- Any other keyword is no operand. -/
theorem reading_primary_keyword {word : Keyword} (offset : Nat) (rest : List Lexeme)
    (noYes : word ≠ .yes) (noNo : word ≠ .no) :
    reading .primary (⟨.keyword word, offset⟩ :: rest) =
      .error ⟨offset, .reservedOperand word⟩ := by
  unfold reading Reader.ofParsed
  rw [read]
  -- All keywords but the two constants are refused in the place of an operand.
  · rfl
  · exact noYes
  · exact noNo

/-- The token begins an operand, or is a keyword that is refused in its place. -/
def beginsOperand : Token → Bool
  -- Keywords are among them, because they are refused by a fault of their own.
  | .number _ | .string _ | .identifier _ | .keyword _ | .mark .openBracket => true
  | _ => false

/-- Nothing else begins an operand. -/
theorem reading_primary_other {input : List Lexeme}
    (other : beginsOperand (upcoming input).token = false) :
    reading .primary input = unexpected .operand input := by
  unfold reading Reader.ofParsed
  rw [read]
  · rfl
  -- A token that one of the earlier cases takes would begin an operand.
  all_goals
    intros
    subst_vars
    simp [upcoming, beginsOperand] at other

/-- IS begins a test for a missing value. -/
theorem testing_is (left : Expr) (offset : Nat) (rest : List Lexeme) :
    testing left (⟨.keyword .is, offset⟩ :: rest) = testingNull left rest := by
  -- The word is taken, and the rest decides which test it is.
  unfold testing testingNull Reader.ofParsed
  rw [test]
  simp only [bind, Except.bind, Except.map]
  cases nullTest left rest <;> rfl

/-- NOT begins the negation of a test with a word of its own. -/
theorem testing_not (left : Expr) (offset : Nat) (rest : List Lexeme) :
    testing left (⟨.keyword .not, offset⟩ :: rest) = (Expr.not <$> testingWord left) rest := by
  -- The word is taken, and the test behind it is negated.
  unfold testing testingWord Reader.ofParsed
  rw [test]
  simp only [Functor.map, StateT.map, bind, Except.bind, Except.map]
  cases wordedTest left rest <;> rfl

/-- A sign of comparison asks for a right side. -/
theorem testing_comparison {left : Expr} {lexeme : Lexeme} {rest : List Lexeme}
    {compare : Expr → Expr → Expr} (sign : comparison? lexeme.token = some compare) :
    testing left (lexeme :: rest) = (compare left <$> reading (.chain .sum)) rest := by
  unfold testing reading Reader.ofParsed
  rw [test, sign]
  · -- Only the right side is left to be read.
    simp only [Functor.map, StateT.map, bind, Except.bind, Except.map]
    cases read (.chain .sum) rest <;> rfl
  all_goals
    -- A keyword is no sign of comparison.
    intro offset same
    subst same
    simp [comparison?] at sign

/-- BETWEEN, IN and LIKE begin a test. -/
theorem testing_word {left : Expr} {input : List Lexeme}
    (word : beginsWordedTest (upcoming input).token = true) :
    testing left input = testingWord left input := by
  cases input with
  | nil => simp [upcoming, beginsWordedTest] at word
  | cons lexeme rest =>
    have word : beginsWordedTest lexeme.token = true := word
    -- A word is no sign, so the reading falls through to the tests with words.
    have noSign : comparison? lexeme.token = none := by
      revert word
      cases lexeme.token <;> simp [beginsWordedTest, comparison?]
    unfold testing testingWord Reader.ofParsed
    rw [test, noSign]
    · simp only [word, if_true, bind, Except.bind, Except.map]
      cases wordedTest left (lexeme :: rest) <;> rfl
    all_goals
      -- Neither IS nor NOT is one of the three words.
      intro offset same
      subst same
      simp [beginsWordedTest] at word

/-- The token begins a test of what comes before it. -/
def beginsTest (token : Token) : Bool :=
  -- The words and the signs of comparisons are looked at in the order of the parser.
  token == .keyword .is || token == .keyword .not || (comparison? token).isSome ||
    beginsWordedTest token

/-- Without a test a predicate is its left side. -/
theorem testing_other {left : Expr} {input : List Lexeme}
    (ends : beginsTest (upcoming input).token = false) :
    testing left input = .ok (left, input) := by
  unfold testing Reader.ofParsed
  cases input with
  | nil => rw [test]; rfl
  | cons lexeme rest =>
    have ends : beginsTest lexeme.token = false := ends
    -- None of the four ways to begin a test applies.
    simp only [beginsTest, Bool.or_eq_false_iff, beq_eq_false_iff_ne, Option.isSome_eq_false_iff,
      Option.isNone_iff_eq_none] at ends
    obtain ⟨⟨⟨noIs, noNot⟩, noSign⟩, noWord⟩ := ends
    rw [test, noSign]
    · simp only [noWord, Bool.false_eq_true, if_false]
      rfl
    · intro offset same
      subst same
      exact noIs rfl
    · intro offset same
      subst same
      exact noNot rfl

/-- A range test is two bounds with the word AND between them. -/
theorem testingWord_between (left : Expr) (offset : Nat) (rest : List Lexeme) :
    testingWord left (⟨.keyword .between, offset⟩ :: rest) =
      (do
        let lower ← reading (.chain .sum)
        expecting (.keyword .and)
        .between left lower <$> reading (.chain .sum) : Reader Expr) rest := by
  unfold testingWord reading expecting Reader.ofParsed
  rw [wordedTest]
  simp only [Functor.map, StateT.map, bind, StateT.bind, Except.bind, Except.map]
  -- The lower bound, the word AND and the upper bound are read in turn on both sides.
  cases read (.chain .sum) rest with
  | error error => rfl
  | ok lower =>
    dsimp only
    cases expect (.keyword .and) lower.rest with
    | error error => rfl
    | ok joint =>
      dsimp only
      cases read (.chain .sum) joint.rest <;> rfl

/-- A membership test is a list of strings. -/
theorem testingWord_within (left : Expr) (offset : Nat) (rest : List Lexeme) :
    testingWord left (⟨.keyword .within, offset⟩ :: rest) =
      ((fun items => .within left (.ofList items)) <$> listing : Reader Expr) rest := by
  -- The word is taken, and the list becomes a set.
  unfold testingWord listing Reader.ofParsed
  rw [wordedTest]
  simp only [Functor.map, StateT.map, bind, Except.bind, Except.map]
  cases stringList rest <;> rfl

/-- A pattern test is read at the place of its word. -/
theorem testingWord_like (left : Expr) (offset : Nat) (rest : List Lexeme) :
    testingWord left (⟨.keyword .like, offset⟩ :: rest) = testingLike left offset rest := by
  -- The word is taken, and its place is kept for the error.
  unfold testingWord testingLike Reader.ofParsed
  rw [wordedTest]
  simp only [bind, Except.bind, Except.map]
  cases likeTest left offset rest <;> rfl

/-- No other word begins such a test. -/
theorem testingWord_other {left : Expr} {input : List Lexeme}
    (other : beginsWordedTest (upcoming input).token = false) :
    testingWord left input = unexpected .negatedTest input := by
  unfold testingWord Reader.ofParsed
  rw [wordedTest]
  · rfl
  all_goals
    -- Each of the three words would begin a test.
    intro offset rest same
    subst same
    simp [upcoming, beginsWordedTest] at other

end Phrase

end MessageSelector
