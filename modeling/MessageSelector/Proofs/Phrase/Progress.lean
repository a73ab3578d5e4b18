import MessageSelector.Proofs.Phrase.Procedure
import MessageSelector.Proofs.Token.Lexed
import MessageSelector.Regex.Plain

/-! Progress of reading: the place stays at the tokens and moves on until there is an outcome. -/

namespace MessageSelector

variable {lexemes : List Lexeme} {place : Nat}

/-- The tokens from a place on begin with the token at the place. -/
theorem drop_eq_cons {token : Token} (inside : place < lexemes.length)
    (next : (tokenAt lexemes place).token = token) :
    lexemes.drop place =
      ⟨token, (tokenAt lexemes place).offset⟩ :: lexemes.drop (place + 1) := by
  subst next
  -- Inside the tokens the one that is found is not made up.
  rw [List.drop_eq_getElem_cons inside, tokenAt, List.getElem?_eq_getElem inside]
  rfl

/-- Fewer tokens are left from a later place on. -/
theorem lt_of_length_drop_lt {later : Nat}
    (shorter : (lexemes.drop later).length < (lexemes.drop place).length) : place < later := by
  -- The tokens that are left are counted by the length of the list less the place.
  simp only [List.length_drop] at shorter
  omega

/-- What comes next from a place on is the token at the place. -/
theorem upcoming_drop (inside : place < lexemes.length) :
    Phrase.upcoming (lexemes.drop place) = tokenAt lexemes place := by
  -- Inside of the list, the first remaining token is the one at the place.
  rw [drop_eq_cons inside rfl]
  rfl

/-- A token that is not the end is not the last one. -/
theorem Ended.succ_lt_length (ended : Ended lexemes) (inside : place < lexemes.length)
    (other : (tokenAt lexemes place).token ≠ .endOfInput) : place + 1 < lexemes.length := by
  obtain ⟨body, offset, rfl, -⟩ := ended
  -- Only the end has no token behind it.
  have bound : place ≠ body.length := by
    intro same
    subst same
    exact other (by simp [tokenAt])
  simp only [List.length_append, List.length_singleton] at inside ⊢
  omega

/-- A step over a token that is not the end leads to the next one. -/
theorem Ended.placeAfter_eq (ended : Ended lexemes) (inside : place < lexemes.length)
    (other : (tokenAt lexemes place).token ≠ .endOfInput) :
    placeAfter lexemes place = place + 1 := by
  -- Only the end of the input is the last token, so there is one more behind any other.
  have within := ended.succ_lt_length inside other
  exact if_pos (by omega)

section

variable [Regex.Engine]

/-- From a place a program runs to the result of a reader: to a value that leaves the same tokens,
or to the same fault. -/
def Program.Yields {α : Type} (lexemes : List Lexeme) (program : Program α) (place : Nat)
    (result : Except SyntaxError (α × List Lexeme)) : Prop :=
  -- The reader yields the tokens that remain, and the program the place where they begin.
  ∃ trail outcome last, Runs lexemes program place trail outcome last ∧
    result = outcome.map fun value => (value, lexemes.drop last)

namespace Program.Yields

variable {α β : Type} {program : Program α}

/-- A value leaves the tokens from the place on. -/
theorem done (value : α) :
    (pure value : Program α).Yields lexemes place (.ok (value, lexemes.drop place)) :=
  -- A finished program visits no place.
  ⟨[], .ok value, place, .done value place, rfl⟩

/-- A fault is the result of both. -/
theorem fail (error : SyntaxError) :
    (Program.fail error : Program α).Yields lexemes place (.error error) :=
  -- A failing program visits no place.
  ⟨[], .error error, place, .fail error place, rfl⟩

/-- A result that takes no tokens is the same for both. -/
theorem ofResult (result : Except SyntaxError α) :
    (Program.ofResult result).Yields lexemes place ((result : Reader α) (lexemes.drop place)) := by
  -- Both ends are programs of their own.
  cases result with
  | ok value => exact .done value
  | error error => exact .fail error

/-- What is the same result can be yielded in its place. -/
theorem of_eq {result other : Except SyntaxError (α × List Lexeme)} (same : result = other)
    (yields : program.Yields lexemes place other) : program.Yields lexemes place result :=
  -- The result is replaced by an equal one.
  same ▸ yields

/-- A look at the token at the place leaves it there. -/
theorem current {next : Lexeme → Program β} {result : Except SyntaxError (β × List Lexeme)}
    (yields : (next (tokenAt lexemes place)).Yields lexemes place result) :
    (Program.current >>= next).Yields lexemes place result := by
  -- Looking at the token adds the place to the trail.
  obtain ⟨trail, outcome, last, run, same⟩ := yields
  exact ⟨place :: trail, outcome, last, .look run, same⟩

/-- A step over a token that is not the end goes on from the next token. -/
theorem forward (ended : Ended lexemes) (inside : place < lexemes.length)
    (other : (tokenAt lexemes place).token ≠ .endOfInput) {next : Unit → Program α}
    {result : Except SyntaxError (α × List Lexeme)}
    (yields : (next ()).Yields lexemes (place + 1) result) :
    (Program.forward >>= next).Yields lexemes place result := by
  obtain ⟨trail, outcome, last, run, same⟩ := yields
  -- The token is not the last, so the next place is one further.
  rw [← ended.placeAfter_eq inside other] at run
  exact ⟨place :: trail, outcome, last, .advance run, same⟩

/-- Two programs in turn yield what two readers in turn make of the tokens. -/
theorem bind (inside : place < lexemes.length) {reader : Reader α} {nextReader : α → Reader β}
    {next : α → Program β} (first : program.Yields lexemes place (reader (lexemes.drop place)))
    (follows : ∀ value middle, place ≤ middle → middle < lexemes.length →
      reader (lexemes.drop place) = .ok (value, lexemes.drop middle) →
      (next value).Yields lexemes middle (nextReader value (lexemes.drop middle))) :
    (program >>= next).Yields lexemes place ((reader >>= nextReader) (lexemes.drop place)) := by
  obtain ⟨trail, outcome, middle, run, read⟩ := first
  cases outcome with
  | ok value =>
    -- The second program starts from where the first one ends, which is a token again.
    have forward : place ≤ middle := List.rel_of_pairwise_cons run.ascending (by simp)
    obtain ⟨more, result, last, later, same⟩ :=
      follows value middle forward (run.stays_inside inside).2 read
    exact ⟨trail ++ more, result, last, run.bind later, by rw [Reader.bind_of_ok read, same]⟩
  | error error =>
    exact ⟨trail, .error error, middle, run.bind_of_error, Reader.bind_of_error read⟩

/-- Changing the value of a program changes nothing else. -/
theorem map {reader : Reader α} {f : α → β}
    (yields : program.Yields lexemes place (reader (lexemes.drop place))) :
    (program >>= fun value => pure (f value)).Yields lexemes place
      ((f <$> reader) (lexemes.drop place)) := by
  obtain ⟨trail, outcome, last, run, read⟩ := yields
  -- A value is mapped after the run, and an error is passed through.
  cases outcome with
  | ok value =>
    exact ⟨trail ++ [], .ok (f value), last, run.bind (.done (f value) last),
      Reader.map_of_ok read⟩
  | error error => exact ⟨trail, .error error, last, run.bind_of_error, Reader.map_of_error read⟩

/-- Where a reader takes a token and goes on, a program steps over the token and goes on. -/
theorem step (ended : Ended lexemes) (inside : place < lexemes.length) {token : Token}
    (next : (tokenAt lexemes place).token = token) (other : token ≠ .endOfInput)
    {reader : Reader α} {rest : Unit → Program α} {result : Except SyntaxError (α × List Lexeme)}
    (taken : reader (⟨token, (tokenAt lexemes place).offset⟩ :: lexemes.drop (place + 1)) = result)
    (yields : place + 1 < lexemes.length → (rest ()).Yields lexemes (place + 1) result) :
    (Program.forward >>= rest).Yields lexemes place (reader (lexemes.drop place)) := by
  have some : (tokenAt lexemes place).token ≠ .endOfInput := by rwa [next]
  -- The reader takes the same token off the list that the program moves over.
  rw [drop_eq_cons inside next, taken]
  exact forward ended inside some (yields (ended.succ_lt_length inside some))

end Program.Yields

/-- From a place a procedure yields what its reader makes of the tokens from there. -/
def Procedure.Answers {α : Type} (lexemes : List Lexeme) (procedure : Procedure α) (place : Nat) :
    Prop :=
  -- The program and the reader start from the same place.
  procedure.body.Yields lexemes place (procedure.reader (lexemes.drop place))

/-- All procedures answer at the tokens from a place on. -/
def AnswersFrom (lexemes : List Lexeme) (start : Nat) : Prop :=
  -- This is the induction hypothesis for procedures called further to the right.
  ∀ {α : Type} (procedure : Procedure α) (place : Nat), start ≤ place → place < lexemes.length →
    procedure.Answers lexemes place

namespace Program

variable {α : Type}

/-- A call yields what the procedure answers. -/
theorem perform_yields {procedure : Procedure α} (answers : procedure.Answers lexemes place) :
    (perform procedure).Yields lexemes place (procedure.reader (lexemes.drop place)) := by
  obtain ⟨trail, outcome, last, run, read⟩ := answers
  -- A call runs the body and hands its outcome on.
  cases outcome with
  | ok value => exact ⟨trail ++ [], .ok value, last, .call run (.done value last), read⟩
  | error error => exact ⟨trail, .error error, last, .callFails run, read⟩

/-- A token that is out of place is told by both. -/
theorem unexpected_yields (inside : place < lexemes.length) (wanted : Wanted) :
    (unexpected wanted : Program α).Yields lexemes place
      (Phrase.unexpected wanted (lexemes.drop place)) := by
  -- Both tell the fault about the token at the place.
  rw [Phrase.unexpected, upcoming_drop inside]
  exact .current (.fail _)

/-- A token that is expected is stepped over, or told to be wanted. -/
theorem expect_yields (ended : Ended lexemes) (inside : place < lexemes.length) {token : Token}
    (other : token ≠ .endOfInput) :
    (expect token).Yields lexemes place (Phrase.expecting token (lexemes.drop place)) := by
  refine .current ?_
  by_cases next : (tokenAt lexemes place).token = token
  · rw [if_pos next, drop_eq_cons inside next, Phrase.expecting_next]
    -- Nothing is left to be done after the step.
    show (forward >>= pure).Yields lexemes place _
    exact .forward ended inside (by rwa [next]) (.done ())
  · rw [if_neg next, Phrase.expecting_other (by rwa [upcoming_drop inside])]
    exact unexpected_yields inside _

/-- A string is stepped over, or told to be wanted. -/
theorem expectString_yields (ended : Ended lexemes) (inside : place < lexemes.length) :
    expectString.Yields lexemes place (Phrase.expectingString (lexemes.drop place)) := by
  refine .current ?_
  -- The string is there and passed, or both tell the same fault.
  split
  · rename_i content next
    rw [drop_eq_cons inside next, Phrase.expectingString_next]
    exact .forward ended inside (by simp [next]) (.done content)
  · rename_i other
    rw [Phrase.expectingString_other (by rwa [upcoming_drop inside])]
    exact unexpected_yields inside _

/-- A test for a missing value yields what is read after IS. -/
theorem nullTest_yields (ended : Ended lexemes) (inside : place < lexemes.length) (left : Expr) :
    (nullTest left).Yields lexemes place (Phrase.testingNull left (lexemes.drop place)) := by
  refine .current ?_
  -- Both look for the optional word first.
  by_cases not : (tokenAt lexemes place).token = .keyword .not
  · rw [if_pos not]
    exact .step ended inside not (by simp) (Phrase.testingNull_not left _ _) fun within =>
      .map (expect_yields ended within (by simp))
  · rw [if_neg not, Phrase.testingNull_other left (by rwa [upcoming_drop inside])]
    exact .map (expect_yields ended inside (by simp))

/-- An escape clause yields what is read of it. -/
theorem escapeClause_yields (ended : Ended lexemes) (inside : place < lexemes.length) :
    escapeClause.Yields lexemes place (Phrase.escaping (lexemes.drop place)) := by
  refine .current ?_
  -- Both look for the word first, and without it there is no clause.
  by_cases escape : (tokenAt lexemes place).token = .keyword .escape
  · rw [if_pos escape]
    exact .step ended inside escape (by simp) (Phrase.escaping_escape _ _) fun within =>
      .map (expectString_yields ended within)
  · rw [if_neg escape, Phrase.escaping_other (by rwa [upcoming_drop inside])]
    exact .done none

/-- A pattern test yields what is read after LIKE. -/
theorem likeTest_yields (ended : Ended lexemes) (inside : place < lexemes.length) (left : Expr)
    (offset : Nat) :
    (likeTest left offset).Yields lexemes place
      (Phrase.testingLike left offset (lexemes.drop place)) := by
  rw [Phrase.testingLike_eq]
  -- The string, the clause and the test follow one another in both.
  refine .bind inside (expectString_yields ended inside) fun pattern _ _ within _ => ?_
  refine .bind within (escapeClause_yields ended within) fun clause _ _ _ _ => ?_
  exact .ofResult _

end Program

namespace Procedure

open Program

section

variable (ended : Ended lexemes) (inside : place < lexemes.length)
  (behind : AnswersFrom lexemes (place + 1))

include inside behind

/-- A phrase is answered with what goes on after it, where the phrase is answered. -/
theorem goOn_yields {rank : Rank} (first : (phrase rank).Answers lexemes place)
    (next : Expr → Procedure Expr) :
    (perform (phrase rank) >>= fun tree => perform (next tree)).Yields lexemes place
      ((Phrase.reading rank >>= fun tree => (next tree).reader) (lexemes.drop place)) := by
  refine .bind inside (perform_yields first) fun tree later _ within found => ?_
  -- The phrase has taken a token at least.
  have forward := lt_of_length_drop_lt (Phrase.length_lt_of_reading found)
  exact perform_yields (behind (next tree) later forward within)

/-- A chain is answered where its first operand is. -/
theorem chain_answers (chain : Chain) (operand : (phrase chain.operand).Answers lexemes place) :
    (phrase (.chain chain)).Answers lexemes place := by
  -- The first operand is read from the same place, and the loop goes on behind it.
  refine .of_eq (congrFun (Phrase.reading_chain chain) _) ?_
  exact goOn_yields inside behind operand (further chain)

/-- A predicate is answered where its left side is. -/
theorem predicate_answers (sum : (phrase (.chain .sum)).Answers lexemes place) :
    (phrase .predicate).Answers lexemes place := by
  -- The sum is read from the same place, and the test goes on behind it.
  refine .of_eq (congrFun Phrase.reading_predicate _) ?_
  exact goOn_yields inside behind sum test

include ended

/-- Further operands of a chain are answered, as long as a token joins another one to them. -/
theorem further_answers (chain : Chain) (left : Expr) :
    (further chain left).Answers lexemes place := by
  refine .current ?_
  cases joins : chain.join? (tokenAt lexemes place).token with
  | none => exact .of_eq (Phrase.extending_other (by rwa [upcoming_drop inside])) (.done left)
  | some join =>
    -- A joining token is never the end of the input.
    have other : (tokenAt lexemes place).token ≠ .endOfInput := by
      intro last
      rw [last] at joins
      cases chain <;> cases joins
    refine .step ended inside rfl other (Phrase.extending_join joins) fun within => ?_
    refine .bind within (perform_yields (behind (phrase chain.operand) _ (Nat.le_refl _) within))
      fun right later forward within _ => ?_
    exact perform_yields (behind (further chain (join left right)) later forward within)

/-- A negation is answered where a predicate is. -/
theorem negation_answers (predicate : (phrase .predicate).Answers lexemes place) :
    (phrase .negation).Answers lexemes place := by
  refine .current ?_
  -- Behind the word the same procedure is called again, further to the right.
  by_cases not : (tokenAt lexemes place).token = .keyword .not
  · rw [if_pos not]
    exact .step ended inside not (by simp) (Phrase.reading_negation_not _ _) fun within =>
      .map (perform_yields (behind (phrase .negation) _ (Nat.le_refl _) within))
  · rw [if_neg not]
    exact .of_eq (Phrase.reading_negation_other (by rwa [upcoming_drop inside]))
      (perform_yields predicate)

/-- A unary phrase is answered where a primary one is. -/
theorem unary_answers (primary : (phrase .primary).Answers lexemes place) :
    (phrase .unary).Answers lexemes place := by
  refine .current ?_
  split
  · rename_i plus
    exact .step ended inside plus (by simp) (Phrase.reading_unary_plus _ _) fun within =>
      perform_yields (behind (phrase .unary) _ (Nat.le_refl _) within)
  · rename_i minus
    have other : (tokenAt lexemes place).token ≠ .endOfInput := by simp [minus]
    have within := ended.succ_lt_length inside other
    -- The token behind the sign decides, so the reader's two cases are told apart after a step.
    refine .forward ended inside other (.current ?_)
    split
    · rename_i text number
      have signed : (phrase .unary).reader (lexemes.drop place) =
          (Phrase.number ("-" ++ text) (tokenAt lexemes place).offset : Reader Expr)
            (lexemes.drop (place + 1 + 1)) := by
        rw [drop_eq_cons inside minus, drop_eq_cons within number]
        exact Phrase.reading_unary_number _ _ text _
      rw [signed]
      exact .forward ended within (by simp [number]) (.ofResult _)
    · rename_i noNumber
      have negated : (phrase .unary).reader (lexemes.drop place) =
          (Expr.negate <$> Phrase.reading .unary) (lexemes.drop (place + 1)) := by
        rw [drop_eq_cons inside minus]
        exact Phrase.reading_unary_minus _ (by rwa [upcoming_drop within])
      rw [negated]
      exact .map (perform_yields (behind (phrase .unary) _ (Nat.le_refl _) within))
  · rename_i noPlus noMinus
    rw [← upcoming_drop inside] at noPlus noMinus
    exact .of_eq (Phrase.reading_unary_other noPlus noMinus) (perform_yields primary)

/-- A primary phrase is answered. -/
theorem primary_answers : (phrase .primary).Answers lexemes place := by
  refine .current ?_
  split
  · rename_i text number
    exact .step ended inside number (by simp) (Phrase.reading_primary_number text _ _) fun _ =>
      .ofResult _
  · rename_i content string
    exact .step ended inside string (by simp) (Phrase.reading_primary_string content _ _) fun _ =>
      .done _
  · rename_i yes
    exact .step ended inside yes (by simp) (Phrase.reading_primary_yes _ _) fun _ => .done _
  · rename_i no
    exact .step ended inside no (by simp) (Phrase.reading_primary_no _ _) fun _ => .done _
  · rename_i name identifier
    exact .step ended inside identifier (by simp) (Phrase.reading_primary_identifier name _ _)
      fun _ => .ofResult _
  · rename_i bracket
    refine .step ended inside bracket (by simp) (Phrase.reading_primary_bracket _ _)
      fun within => ?_
    refine .bind within (perform_yields (behind (phrase (.chain .or)) _ (Nat.le_refl _) within))
      fun inner later _ within _ => ?_
    exact .map (expect_yields ended within (by simp))
  · rename_i word noYes noNo keyword
    -- A word that is no constant is refused where it stands, without a step over it.
    have refused : (phrase .primary).reader (lexemes.drop place) =
        .error ⟨(tokenAt lexemes place).offset, .reservedOperand word⟩ := by
      rw [drop_eq_cons inside keyword]
      exact Phrase.reading_primary_keyword _ _ noYes noNo
    rw [refused]
    exact .fail _
  · rename_i other
    have noOperand : Phrase.beginsOperand (tokenAt lexemes place).token = false := by
      unfold Phrase.beginsOperand
      split <;> simp_all
    exact .of_eq (Phrase.reading_primary_other (by rwa [upcoming_drop inside]))
      (unexpected_yields inside _)

/-- Further strings of a list are answered, as long as a comma asks for another one. -/
theorem moreStrings_answers : moreStrings.Answers lexemes place := by
  refine .current ?_
  -- A comma announces one more string, and the procedure is called again behind it.
  by_cases comma : (tokenAt lexemes place).token = .mark .comma
  · rw [if_pos comma]
    refine .step ended inside comma (by simp) (Phrase.listingMore_comma _ _) fun within => ?_
    refine .bind within (expectString_yields ended within) fun item later forward within _ => ?_
    exact .map (perform_yields (behind moreStrings later forward within))
  · rw [if_neg comma]
    exact .of_eq (Phrase.listingMore_other (by rwa [upcoming_drop inside])) (.done [])

/-- A list of strings is answered. -/
theorem strings_answers : strings.Answers lexemes place := by
  refine .of_eq (congrFun Phrase.listing_eq _) ?_
  -- The brackets and the strings between them are read in turn.
  refine .bind inside (expect_yields ended inside (by simp)) fun _ second _ within opening => ?_
  have opened : place < second := lt_of_length_drop_lt (Reader.length_lt_of_ofParsed opening)
  refine .bind within (expectString_yields ended within) fun first third onward within _ => ?_
  refine .bind within (perform_yields (behind moreStrings third (by omega) within))
    fun more last _ within _ => ?_
  exact .map (expect_yields ended within (by simp))

/-- A range, membership or pattern test is answered. -/
theorem wordedTest_answers (left : Expr) : (wordedTest left).Answers lexemes place := by
  -- The operands of the test are sums further to the right.
  have sum (later : Nat) (forward : place < later) (within : later < lexemes.length) :=
    perform_yields (behind (phrase (.chain .sum)) later forward within)
  refine .current ?_
  split
  · rename_i between
    refine .step ended inside between (by simp) (Phrase.testingWord_between left _ _)
      fun within => ?_
    refine .bind within (sum _ (Nat.le_refl _) within) fun lower second _ within _ => ?_
    refine .bind within (expect_yields ended within (by simp)) fun _ third _ within _ => ?_
    exact .map (sum third (by omega) within)
  · rename_i member
    exact .step ended inside member (by simp) (Phrase.testingWord_within left _ _) fun within =>
      .map (perform_yields (behind strings _ (Nat.le_refl _) within))
  · rename_i like
    exact .step ended inside like (by simp) (Phrase.testingWord_like left _ _) fun within =>
      likeTest_yields ended within left _
  · rename_i noBetween noWithin noLike
    -- Without one of the three words, both tell the same fault.
    have other : Phrase.beginsWordedTest (tokenAt lexemes place).token = false := by
      unfold Phrase.beginsWordedTest
      split <;> simp_all
    exact .of_eq (Phrase.testingWord_other (by rwa [upcoming_drop inside]))
      (unexpected_yields inside _)

/-- What tests the left side of a predicate is answered where a test with a word of its own is. -/
theorem test_answers (left : Expr) (worded : (wordedTest left).Answers lexemes place) :
    (test left).Answers lexemes place := by
  -- The ways to begin a test are tried in the order of the program.
  refine .current ?_
  by_cases is : (tokenAt lexemes place).token = .keyword .is
  · rw [if_pos is]
    exact .step ended inside is (by simp) (Phrase.testing_is left _ _) fun within =>
      nullTest_yields ended within left
  rw [if_neg is]
  by_cases not : (tokenAt lexemes place).token = .keyword .not
  · rw [if_pos not]
    exact .step ended inside not (by simp) (Phrase.testing_not left _ _) fun within =>
      .map (perform_yields (behind (wordedTest left) _ (Nat.le_refl _) within))
  rw [if_neg not]
  cases sign : comparison? (tokenAt lexemes place).token with
  | some compare =>
    have other : (tokenAt lexemes place).token ≠ .endOfInput := by
      intro last
      rw [last] at sign
      cases sign
    exact .step ended inside rfl other (Phrase.testing_comparison sign) fun within =>
      .map (perform_yields (behind (phrase (.chain .sum)) _ (Nat.le_refl _) within))
  | none =>
    dsimp only
    by_cases word : Phrase.beginsWordedTest (tokenAt lexemes place).token = true
    · rw [if_pos word]
      exact .of_eq (Phrase.testing_word (by rwa [upcoming_drop inside])) (perform_yields worded)
    · rw [if_neg word]
      have ends : Phrase.beginsTest (tokenAt lexemes place).token = false := by
        simp [Phrase.beginsTest, is, not, sign, word]
      exact .of_eq (Phrase.testing_other (by rwa [upcoming_drop inside])) (.done left)

/-- Every procedure answers at a place if all of them answer behind it. -/
theorem answers_of_behind {α : Type} (procedure : Procedure α) :
    procedure.Answers lexemes place := by
  -- At the same place each rank calls the next tighter one only.
  have unary := unary_answers ended inside behind (primary_answers ended inside behind)
  have product := chain_answers inside behind .product unary
  have sum := chain_answers inside behind .sum product
  have predicate := predicate_answers inside behind sum
  have negation := negation_answers ended inside behind predicate
  have conjunction := chain_answers inside behind .and negation
  cases procedure with
  | phrase rank =>
    match rank with
    | .chain .or => exact chain_answers inside behind .or conjunction
    | .chain .and => exact conjunction
    | .chain .sum => exact sum
    | .chain .product => exact product
    | .negation => exact negation
    | .predicate => exact predicate
    | .unary => exact unary
    | .primary => exact primary_answers ended inside behind
  | further chain left => exact further_answers ended inside behind chain left
  | test left =>
    exact test_answers ended inside behind left (wordedTest_answers ended inside behind left)
  | wordedTest left => exact wordedTest_answers ended inside behind left
  | strings => exact strings_answers ended inside behind
  | moreStrings => exact moreStrings_answers ended inside behind

end

/-- Every procedure answers at every token of an ended input. -/
theorem answers (ended : Ended lexemes) {α : Type} (procedure : Procedure α) (place : Nat)
    (inside : place < lexemes.length) : procedure.Answers lexemes place :=
  -- The induction is on the number of tokens that are left.
  answers_of_behind ended inside
    (fun other later _ within => answers ended other later within) procedure
termination_by lexemes.length - place

/-- What the procedure makes is made of one token at least. -/
def takesSome {α : Type} : Procedure α → Bool
  -- The loops may end at once, since their first operand was read before them.
  | phrase _ | wordedTest _ | strings => true
  | further _ _ | test _ | moreStrings => false

/-- What is made of one token at least leaves less than there was. -/
theorem length_lt_of_takesSome {α : Type} {procedure : Procedure α} {input rest : List Lexeme}
    {value : α} (takes : procedure.takesSome = true)
    (found : procedure.reader input = .ok (value, rest)) : rest.length < input.length := by
  -- The procedures that take something carry the bound in the type of their result.
  cases procedure with
  | phrase rank => exact Reader.length_lt_of_ofParsed found
  | wordedTest left => exact Reader.length_lt_of_ofParsed found
  | strings => exact Reader.length_lt_of_ofParsed found
  | further chain left => cases takes
  | test left => cases takes
  | moreStrings => cases takes

/-- At each token of a text each procedure has one run, which ends. Its places never go back and are
all at tokens, of which the last is the end of the text, so each token that is looked at is one of
them. A phrase or a list of strings takes a token at least. The outcome is what is read of the
tokens from the first place on, and a value leaves those from the last place on. -/
theorem runs_forward {text : String} {lexemes : List Lexeme} (read : tokenize text = .ok lexemes)
    {α : Type} (procedure : Procedure α) {start : Nat} (inside : start < lexemes.length) :
    (∃ offset, lexemes.getLast? = some ⟨.endOfInput, offset⟩) ∧
      ∃ trail outcome last, Runs lexemes procedure.body start trail outcome last ∧
        (∀ trail' outcome' last', Runs lexemes procedure.body start trail' outcome' last' →
          trail' = trail ∧ outcome' = outcome ∧ last' = last) ∧
        (start :: (trail ++ [last])).Pairwise (· ≤ ·) ∧
        (∀ place ∈ trail, lexemes[place]? = some (tokenAt lexemes place)) ∧
        last < lexemes.length ∧
        (procedure.takesSome = true → ∀ value, outcome = .ok value → start < last) ∧
        procedure.reader (lexemes.drop start) =
          outcome.map fun value => (value, lexemes.drop last) := by
  have ended : Ended lexemes := (Cursor.lexemes_eq_ok_iff.1 read).ended
  -- The reader tells which run there is; what its places are follows from the run itself.
  obtain ⟨trail, outcome, last, run, same⟩ := answers ended procedure start inside
  obtain ⟨passed, within⟩ := run.stays_inside inside
  refine ⟨?finish, trail, outcome, last, run, ?one, run.ascending, ?tokens, within, ?progress, same⟩
  case finish =>
    obtain ⟨body, offset, rfl, -⟩ := ended
    exact ⟨offset, by simp⟩
  case one =>
    intro trail' outcome' last' other
    exact run.unique other
  case tokens =>
    intro place held
    rw [tokenAt, List.getElem?_eq_getElem (passed place held)]
    rfl
  case progress =>
    intro takes value made
    subst made
    exact lt_of_length_drop_lt (length_lt_of_takesSome takes same)

end Procedure

end

namespace Procedure

open Program

/-- A list of strings that is left open is read up to the end of the text, where a bracket is
missed. -/
theorem runs_forward_open :
    let lexemes : List Lexeme := [⟨.mark .openBracket, 0⟩, ⟨.string "x", 1⟩, ⟨.endOfInput, 4⟩]
    tokenize "('x'" = .ok lexemes ∧ 0 < lexemes.length ∧
      Runs lexemes strings.body 0 [0, 0, 1, 1, 2, 2, 2]
        (.error ⟨4, .expected (.token (.mark .closeBracket)) .endOfInput⟩) 2 ∧
      (∀ place ∈ [0, 0, 1, 1, 2, 2, 2], lexemes[place]? = some (tokenAt lexemes place)) ∧
      2 < lexemes.length := by
  intro lexemes
  have read : tokenize "('x'" = .ok lexemes :=
    Cursor.lexemes_eq_ok_iff.2 (.token rfl rfl (.token rfl rfl (.done rfl)))
  have inside : 0 < lexemes.length := by decide
  have noComma : Runs lexemes moreStrings.body 2 [2] (.ok []) 2 := .look (.done [] 2)
  have missed : Runs lexemes (expect (.mark .closeBracket) >>= fun _ => pure ["x"]) 2 [2, 2]
      (.error ⟨4, .expected (.token (.mark .closeBracket)) .endOfInput⟩) 2 :=
    .look (.look (.fail _ 2))
  have run : Runs lexemes strings.body 0 [0, 0, 1, 1, 2, 2, 2] _ 2 :=
    .look (.advance (.look (.advance (.call noComma missed))))
  obtain ⟨-, trail, outcome, last, -, one, -, tokens, within, -, -⟩ :=
    runs_forward read strings inside
  -- The run of the theorem is this one, since there is no other.
  obtain ⟨rfl, rfl, rfl⟩ := one _ _ _ run
  exact ⟨read, inside, run, tokens, within⟩

end Procedure

end MessageSelector
