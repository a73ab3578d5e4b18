import MessageSelector.Proofs.Phrase.Reader

/-! Reading by a place in the tokens: procedures that look at the token at the place, step over it
and call each other, and the runs of them. -/

namespace MessageSelector

/-- The token at a place; beyond the tokens there is an end at the offset of the last of them. -/
def tokenAt (lexemes : List Lexeme) (place : Nat) : Lexeme :=
  lexemes[place]?.getD ⟨.endOfInput, (lexemes.getLast?.map Lexeme.offset).getD 0⟩

/-- The place after a step, which does not lead beyond the last token. -/
def placeAfter (lexemes : List Lexeme) (place : Nat) : Nat :=
  if place < lexemes.length - 1 then place + 1 else place

variable {lexemes : List Lexeme} {place middle last : Nat} {trail more : List Nat}

/-- A step does not lead back. -/
theorem le_placeAfter (lexemes : List Lexeme) (place : Nat) :
    place ≤ placeAfter lexemes place := by
  -- A place is moved forward or not at all.
  unfold placeAfter
  split <;> omega

/-- A step does not lead out of the tokens. -/
theorem placeAfter_lt (inside : place < lexemes.length) :
    placeAfter lexemes place < lexemes.length := by
  -- The last place is never left, so an index stays inside the list.
  unfold placeAfter
  split <;> omega

/-- A trail that ascends can go on with another one that ascends from its end. -/
theorem ascending_append (first : (place :: (trail ++ [middle])).Pairwise (· ≤ ·))
    (second : (middle :: (more ++ [last])).Pairwise (· ≤ ·)) :
    (place :: (trail ++ more ++ [last])).Pairwise (· ≤ ·) := by
  -- Every place of the first trail is at most the middle one, which bounds the second from below.
  simp only [List.pairwise_cons, List.pairwise_append, List.mem_append, List.mem_singleton] at *
  grind

variable [Regex.Engine]

/-- The procedures that read a selector, by what they make of its tokens. -/
inductive Procedure : Type → Type where
  | phrase (rank : Rank) : Procedure Expr
  -- These go on from what has been read so far.
  | further (chain : Chain) (left : Expr) : Procedure Expr
  | test (left : Expr) : Procedure Expr
  | wordedTest (left : Expr) : Procedure Expr
  | strings : Procedure (List String)
  | moreStrings : Procedure (List String)

/-- What is done from one place on, up to a value or a fault. -/
inductive Program (α : Type) : Type 1 where
  -- A call carries its procedure unopened, so that programs may call each other.
  | done (value : α)
  | fail (error : SyntaxError)
  | look (next : Lexeme → Program α)
  | advance (next : Program α)
  | call {β : Type} (procedure : Procedure β) (next : β → Program α)

namespace Program

variable {α β : Type}

/-- Goes on with the value of a program, unless that fails. -/
def bind : Program α → (α → Program β) → Program β
  -- The program that comes second is put behind every way the first can end well.
  | done value, next => next value
  | fail error, _ => fail error
  | look more, next => look fun lexeme => (more lexeme).bind next
  | advance more, next => advance (more.bind next)
  | call procedure more, next => call procedure fun value => (more value).bind next

instance : Monad Program where
  pure := done
  bind := bind

/-- The token at the place. -/
def current : Program Lexeme :=
  look done

/-- A step over the token at the place. -/
def forward : Program Unit :=
  advance (done ())

/-- What a procedure makes of the tokens from the place on. -/
def perform (procedure : Procedure α) : Program α :=
  call procedure done

/-- A result that takes no tokens. -/
def ofResult : Except SyntaxError α → Program α
  -- A finished computation neither looks at the input nor moves on.
  | .ok value => done value
  | .error error => fail error

/-- The tokens do not go on as they have to. -/
def unexpected (wanted : Wanted) : Program α := do
  let lexeme ← current
  -- The error is told about the current token, which is not consumed.
  fail ⟨lexeme.offset, .expected wanted lexeme.token⟩

/-- Reads one particular token. -/
def expect (token : Token) : Program Unit := do
  let lexeme ← current
  -- The cursor moves only over the token it was asked for.
  if lexeme.token = token then forward else unexpected (.token token)

/-- Reads a string. -/
def expectString : Program String := do
  let lexeme ← current
  match lexeme.token with
  | .string content => do
    -- The content is kept and the cursor moves over the string.
    forward
    return content
  | _ => unexpected .string

/-- Reads what follows IS: NULL, or NOT NULL. -/
def nullTest (left : Expr) : Program Expr := do
  let lexeme ← current
  -- The negation is optional, and its keyword comes before the other one.
  if lexeme.token = .keyword .not then
    forward
    expect (.keyword .null)
    return .not (.isNull left)
  else
    expect (.keyword .null)
    return .isNull left

/-- Reads an escape clause, if there is one. -/
def escapeClause : Program (Option String) := do
  let lexeme ← current
  -- A clause that has begun must be completed by a string.
  if lexeme.token = .keyword .escape then
    forward
    let escape ← expectString
    return some escape
  else return none

/-- Reads what follows LIKE; a pattern or an escape that is refused is a fault at that word. -/
def likeTest (left : Expr) (offset : Nat) : Program Expr := do
  let pattern ← expectString
  let clause ← escapeClause
  -- Only here do the texts matter, and the fault is told at the word in front.
  ofResult (Phrase.patternTestAt left offset pattern clause)

end Program

namespace Procedure

open Program

/-- The program of a procedure. The loops of reading are procedures that call themselves last. -/
def body {α : Type} : Procedure α → Program α
  | phrase (.chain chain) => do
    let first ← perform (phrase chain.operand)
    perform (further chain first)
  | phrase .negation => do
    let lexeme ← current
    if lexeme.token = .keyword .not then
      forward
      let operand ← perform (phrase .negation)
      return .not operand
    else perform (phrase .predicate)
  | phrase .predicate => do
    let first ← perform (phrase (.chain .sum))
    perform (test first)
  | phrase .unary => do
    let lexeme ← current
    match lexeme.token with
    | .mark .plus => do
      forward
      perform (phrase .unary)
    | .mark .minus => do
      forward
      let second ← current
      match second.token with
      -- The sign is a part of the number, and the place of its fault.
      | .number text => do
        forward
        ofResult (Phrase.number ("-" ++ text) lexeme.offset)
      | _ => do
        let operand ← perform (phrase .unary)
        return .negate operand
    | _ => perform (phrase .primary)
  | phrase .primary => do
    let lexeme ← current
    match lexeme.token with
    | .number text => do
      forward
      ofResult (Phrase.number text lexeme.offset)
    | .string content => do
      forward
      return .literal (.string content)
    | .keyword .yes => do
      forward
      ofResult (Phrase.constant .yes lexeme.offset)
    | .keyword .no => do
      forward
      ofResult (Phrase.constant .no lexeme.offset)
    | .identifier name => do
      forward
      ofResult (Phrase.reference name lexeme.offset)
    | .mark .openBracket => do
      forward
      let inner ← perform (phrase (.chain .or))
      expect (.mark .closeBracket)
      return inner
    | .keyword word => fail ⟨lexeme.offset, .reservedOperand word⟩
    | _ => unexpected .operand
  | further chain left => do
    let lexeme ← current
    match chain.join? lexeme.token with
    | none => return left
    | some join => do
      forward
      let right ← perform (phrase chain.operand)
      perform (further chain (join left right))
  | test left => do
    let lexeme ← current
    if lexeme.token = .keyword .is then
      forward
      nullTest left
    else if lexeme.token = .keyword .not then
      forward
      let tested ← perform (wordedTest left)
      return .not tested
    else
      match comparison? lexeme.token with
      | some compare => do
        forward
        let right ← perform (phrase (.chain .sum))
        return compare left right
      | none =>
        if Phrase.beginsWordedTest lexeme.token then perform (wordedTest left) else return left
  | wordedTest left => do
    let lexeme ← current
    match lexeme.token with
    | .keyword .between => do
      forward
      let lower ← perform (phrase (.chain .sum))
      expect (.keyword .and)
      let upper ← perform (phrase (.chain .sum))
      return .between left lower upper
    | .keyword .within => do
      forward
      let items ← perform strings
      return .within left (.ofList items)
    | .keyword .like => do
      forward
      likeTest left lexeme.offset
    | _ => unexpected .negatedTest
  | strings => do
    expect (.mark .openBracket)
    let first ← expectString
    let more ← perform moreStrings
    expect (.mark .closeBracket)
    return first :: more
  | moreStrings => do
    let lexeme ← current
    if lexeme.token = .mark .comma then
      forward
      let item ← expectString
      let more ← perform moreStrings
      return item :: more
    else return []

/-- The reader of a procedure, which takes the tokens from the front of a list. -/
def reader {α : Type} : Procedure α → Reader α
  -- The loops and the tests read on from a left side, which they are given.
  | phrase rank => Phrase.reading rank
  | further chain left => Phrase.extending chain left
  | test left => Phrase.testing left
  | wordedTest left => Phrase.testingWord left
  | strings => Phrase.listing
  | moreStrings => Phrase.listingMore

end Procedure

/-- A program runs from one place to another with an outcome. The trail has each place at which it
looks at a token or takes a step, in turn, the calls included. -/
inductive Runs (lexemes : List Lexeme) :
    {α : Type} → Program α → Nat → List Nat → Except SyntaxError α → Nat → Prop where
  | done {α : Type} (value : α) (place : Nat) :
    Runs lexemes (.done value) place [] (.ok value) place
  | fail {α : Type} (error : SyntaxError) (place : Nat) :
    Runs lexemes (.fail error : Program α) place [] (.error error) place
  | look {α : Type} {next : Lexeme → Program α} {place last : Nat} {trail : List Nat}
    {outcome : Except SyntaxError α}
    (later : Runs lexemes (next (tokenAt lexemes place)) place trail outcome last) :
    Runs lexemes (.look next) place (place :: trail) outcome last
  | advance {α : Type} {next : Program α} {place last : Nat} {trail : List Nat}
    {outcome : Except SyntaxError α}
    (later : Runs lexemes next (placeAfter lexemes place) trail outcome last) :
    Runs lexemes (.advance next) place (place :: trail) outcome last
  | call {α β : Type} {procedure : Procedure β} {next : β → Program α} {place middle last : Nat}
    {trail more : List Nat} {value : β} {outcome : Except SyntaxError α}
    (inner : Runs lexemes procedure.body place trail (.ok value) middle)
    (later : Runs lexemes (next value) middle more outcome last) :
    Runs lexemes (.call procedure next) place (trail ++ more) outcome last
  -- A fault in a procedure ends the program that calls it.
  | callFails {α β : Type} {procedure : Procedure β} {next : β → Program α} {place last : Nat}
    {trail : List Nat} {error : SyntaxError}
    (inner : Runs lexemes procedure.body place trail (.error error) last) :
    Runs lexemes (.call procedure next) place trail (.error error) last

namespace Runs

variable {α β : Type} {program : Program α} {outcome : Except SyntaxError α}

/-- No step of a run leads back. -/
theorem ascending (run : Runs lexemes program place trail outcome last) :
    (place :: (trail ++ [last])).Pairwise (· ≤ ·) := by
  -- A called procedure ends where its caller goes on, so the two trails join there.
  induction run with
  | done value place => simp
  | fail error place => simp
  | look later ih => simpa using ih
  | @advance _ _ place _ _ _ later ih =>
    have step : (place :: ([place] ++ [placeAfter lexemes place])).Pairwise (· ≤ ·) := by
      simpa using le_placeAfter lexemes place
    exact ascending_append step ih
  | call inner later first second => exact ascending_append first second
  | callFails inner ih => exact ih

/-- A run that begins at a token stays at tokens. -/
theorem stays_inside (run : Runs lexemes program place trail outcome last)
    (inside : place < lexemes.length) :
    (∀ passed ∈ trail, passed < lexemes.length) ∧ last < lexemes.length := by
  -- The step at the last token stays there, which is all that is needed of a program.
  induction run with
  | done value place => exact ⟨by simp, inside⟩
  | fail error place => exact ⟨by simp, inside⟩
  | look later ih =>
    obtain ⟨passed, ends⟩ := ih inside
    exact ⟨List.forall_mem_cons.2 ⟨inside, passed⟩, ends⟩
  | advance later ih =>
    obtain ⟨passed, ends⟩ := ih (placeAfter_lt inside)
    exact ⟨List.forall_mem_cons.2 ⟨inside, passed⟩, ends⟩
  | call inner later first second =>
    -- What is called leaves the program at a token.
    obtain ⟨passed, between⟩ := first inside
    obtain ⟨after, ends⟩ := second between
    exact ⟨List.forall_mem_append.2 ⟨passed, after⟩, ends⟩
  | callFails inner ih => exact ih inside

/-- A program has one run from a place. -/
theorem unique (run : Runs lexemes program place trail outcome last) {trail' : List Nat}
    {outcome' : Except SyntaxError α} {last' : Nat}
    (other : Runs lexemes program place trail' outcome' last') :
    trail' = trail ∧ outcome' = outcome ∧ last' = last := by
  -- The program leaves one rule at each place, but for a call, where the outcome of the procedure
  -- decides between two of them.
  induction run generalizing trail' last' with
  | done value place =>
    cases other
    exact ⟨rfl, rfl, rfl⟩
  | fail error place =>
    cases other
    exact ⟨rfl, rfl, rfl⟩
  | look later ih =>
    cases other with
    | look otherLater =>
      obtain ⟨rfl, rfl, rfl⟩ := ih otherLater
      exact ⟨rfl, rfl, rfl⟩
  | advance later ih =>
    cases other with
    | advance otherLater =>
      obtain ⟨rfl, rfl, rfl⟩ := ih otherLater
      exact ⟨rfl, rfl, rfl⟩
  | call inner later first second =>
    cases other with
    | call otherInner otherLater =>
      obtain ⟨rfl, same, rfl⟩ := first otherInner
      cases same
      obtain ⟨rfl, rfl, rfl⟩ := second otherLater
      exact ⟨rfl, rfl, rfl⟩
    | callFails otherInner =>
      obtain ⟨-, same, -⟩ := first otherInner
      cases same
  | callFails inner ih =>
    cases other with
    | call otherInner otherLater =>
      obtain ⟨-, same, -⟩ := ih otherInner
      cases same
    | callFails otherInner =>
      obtain ⟨rfl, same, rfl⟩ := ih otherInner
      cases same
      exact ⟨rfl, rfl, rfl⟩

/-- A program runs on from where another one has ended with a value. -/
theorem bind {value : α} {next : α → Program β} {outcome : Except SyntaxError β}
    (run : Runs lexemes program place trail (.ok value) middle)
    (later : Runs lexemes (next value) middle more outcome last) :
    Runs lexemes (program >>= next) place (trail ++ more) outcome last := by
  -- The induction is on the first run, at the end of which the second one takes over.
  generalize made : Except.ok value = result at run
  induction run with
  | done first place =>
    cases made
    exact later
  | fail error place => cases made
  | look _ ih => exact .look (ih later made)
  | advance _ ih => exact .advance (ih later made)
  | call inner _ _ ih =>
    rw [List.append_assoc]
    exact .call inner (ih later made)
  | callFails _ _ => cases made

/-- No program runs on from where another one has failed. -/
theorem bind_of_error {error : SyntaxError} {next : α → Program β}
    (run : Runs lexemes program place trail (.error error) last) :
    Runs lexemes (program >>= next) place trail (.error error) last := by
  generalize made : Except.error error = result at run
  -- The run ends in the first program, so what would come second never begins.
  induction run with
  | done value place => cases made
  | fail told place =>
    cases made
    exact .fail error place
  | look _ ih => exact .look (ih made)
  | advance _ ih => exact .advance (ih made)
  | call inner _ _ ih => exact .call inner (ih made)
  | callFails inner _ =>
    cases made
    exact .callFails inner

end Runs

end MessageSelector
