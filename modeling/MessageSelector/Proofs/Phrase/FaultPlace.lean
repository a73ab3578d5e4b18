import MessageSelector.Proofs.Phrase.Acceptance
import MessageSelector.Proofs.Token.Steps
import MessageSelector.Regex.Plain
import MessageSelector.Selector

/-! Places of faults: each fault is told at the token that it is about. -/

namespace MessageSelector

/-- What is left of an input behind some of its tokens, of which its end is none. -/
def Remains (rest input : List Lexeme) : Prop :=
  ∃ taken, input = taken ++ rest ∧ .endOfInput ∉ tokensOf taken

namespace Remains

variable {input rest place : List Lexeme}

/-- Without a token being taken all of an input is left. -/
theorem refl (input : List Lexeme) : Remains input input :=
  ⟨[], rfl, by simp⟩

/-- What is left of the rest of an input is left of the input. -/
theorem trans (later : Remains place rest) (first : Remains rest input) : Remains place input := by
  -- What was taken first and what was taken later are taken together.
  obtain ⟨more, rfl, inside⟩ := later
  obtain ⟨taken, rfl, before⟩ := first
  exact ⟨taken ++ more, by simp, by simp [before, inside]⟩

/-- Any token but the end can be taken. -/
theorem cons {lexeme : Lexeme} (inside : lexeme.token ≠ .endOfInput)
    (remains : Remains place rest) : Remains place (lexeme :: rest) := by
  -- One more token in front is taken, and it is not the last one.
  obtain ⟨taken, rfl, before⟩ := remains
  exact ⟨lexeme :: taken, rfl, by simp [inside.symm, before]⟩

/-- The end of an input is left of it in any case. -/
theorem ne_nil (remains : Remains rest input) (ended : Ended input) : rest ≠ [] := by
  -- The last token has not been taken, so it is among those that remain.
  obtain ⟨taken, rfl, before⟩ := remains
  exact ended.ne_nil before

end Remains

/-- A fault in a token is told inside the text. -/
theorem offset_le_of_tokenize {text : String} {error : SyntaxError}
    (failed : tokenize text = .error error) : error.offset ≤ text.length := by
  obtain ⟨layout, reaches | ⟨c, rest, fault, stops⟩⟩ := exists_layout text.toList
  · have read : tokenize text = .ok layout.lexemes := Layout.lexemes_of_reaches reaches
    rw [read] at failed
    cases failed
  · have told : tokenize text = .error ⟨layout.text.length, fault⟩ := stops.lexemes_eq
    rw [told] at failed
    cases failed
    -- The character of the fault stands right behind what is laid out.
    have length := congrArg List.length stops.text_eq
    rw [String.length_toList, List.length_append] at length
    exact length ▸ Nat.le_add_right _ _

/-- A name in a text is never refused. -/
theorem Lexed.exists_ofName {cursor : Cursor} {lexemes : List Lexeme}
    (lexed : Lexed cursor lexemes) {name : String} (held : .identifier name ∈ tokensOf lexemes) :
    ∃ identifier, Identifier.ofName name = .ok identifier := by
  -- The scanner reserves the same words as identifiers do.
  obtain ⟨identifier, rfl⟩ := lexed.exists_identifier held
  exact ⟨identifier, identifier.ofName_name⟩

section

variable [Regex.Engine]

/-- The fault is about what the input goes on with, and is told at the place of that. -/
inductive SyntaxError.Concerns : SyntaxError → List Lexeme → Prop where
  | expected (wanted : Wanted) (input : List Lexeme) :
    Concerns
      ⟨(Phrase.upcoming input).offset, .expected wanted (Phrase.upcoming input).token⟩ input
  | reservedOperand (word : Keyword) (offset : Nat) (rest : List Lexeme) :
    Concerns ⟨offset, .reservedOperand word⟩ (⟨.keyword word, offset⟩ :: rest)
  | identifier {name : String} {cause : IdentifierError}
    (refused : Identifier.ofName name = .error cause) (offset : Nat) (rest : List Lexeme) :
    Concerns ⟨offset, .identifier cause⟩ (⟨.identifier name, offset⟩ :: rest)
  | number {text : String} {cause : LiteralError} (refused : Literal.ofNumeral text = .error cause)
    (offset : Nat) (rest : List Lexeme) :
    Concerns ⟨offset, .number cause⟩ (⟨.number text, offset⟩ :: rest)
  -- The sign is a part of the number that is refused.
  | signedNumber {text : String} {cause : LiteralError}
    (refused : Literal.ofNumeral ("-" ++ text) = .error cause) (offset place : Nat)
    (rest : List Lexeme) :
    Concerns ⟨offset, .number cause⟩ (⟨.mark .minus, offset⟩ :: ⟨.number text, place⟩ :: rest)
  | like {operand : Expr} {pattern : String} {clause : Option String} {cause : LikeError}
    (refused : patternTest operand pattern clause = .error cause) (offset place : Nat)
    {words : List Lexeme} (escape : tokensOf words = escapeWords clause) (rest : List Lexeme) :
    Concerns ⟨offset, .like cause⟩
      (⟨.keyword .like, offset⟩ :: ⟨.string pattern, place⟩ :: (words ++ rest))

/-- No fault is that of a constant, as the words for the constants are always accepted. -/
theorem SyntaxError.Concerns.fault_ne_boolean {error : SyntaxError} {input : List Lexeme}
    (concerns : error.Concerns input) (cause : LiteralError) : error.fault ≠ .boolean cause := by
  -- A fault is about something else in each of the cases.
  cases concerns <;> nofun

/-- A fault is told at the first token of what it is about. -/
theorem SyntaxError.Concerns.offset_eq {error : SyntaxError} {input : List Lexeme}
    (concerns : error.Concerns input) : error.offset = (Phrase.upcoming input).offset := by
  -- Each of the faults is told at the token in front.
  cases concerns <;> rfl

namespace Reader

variable {α β : Type}

/-- The reader takes no end of an input, and its faults are about something that is left of it. -/
structure Locates (reader : Reader α) (input : List Lexeme) : Prop where
  -- Both fields are about the rest of the input, so they compose along the reader.
  remains : ∀ {value rest}, reader input = .ok (value, rest) → Remains rest input
  concerns : ∀ {error}, reader input = .error error →
    ∃ place, Remains place input ∧ error.Concerns place

namespace Locates

variable {reader : Reader β} {first : Reader α} {next : α → Reader β} {input rest : List Lexeme}

/-- A reader that takes some tokens tells no fault. -/
theorem of_ok {value : β} (read : reader input = .ok (value, rest)) (left : Remains rest input) :
    reader.Locates input where
  remains found := by
    rw [read] at found
    cases found
    exact left
  -- A reader that succeeds tells no error.
  concerns refused := by
    rw [read] at refused
    cases refused

/-- A reader that tells a fault takes nothing. -/
theorem of_error {error : SyntaxError} (refused : reader input = .error error)
    (left : Remains rest input) (about : error.Concerns rest) : reader.Locates input where
  -- A reader that fails leaves no remaining input.
  remains read := by
    rw [refused] at read
    cases read
  concerns found := by
    rw [refused] at found
    cases found
    exact ⟨rest, left, about⟩

/-- A reader that wants another token tells so of the token to come. -/
theorem of_unexpected {wanted : Wanted} (refused : reader input = Phrase.unexpected wanted input) :
    reader.Locates input :=
  -- The unexpected token is the one in front, and nothing was taken.
  .of_error refused (.refl input) (.expected wanted input)

/-- A reader that takes tokens and goes on as another one does locates what that one locates. -/
theorem of_eq {other : Reader β} (same : reader input = other rest) (left : Remains rest input)
    (locates : other.Locates rest) : reader.Locates input where
  remains read := (locates.remains (same ▸ read)).trans left
  concerns refused := by
    -- The place lies in what remains, and so in the whole input.
    obtain ⟨place, later, about⟩ := locates.concerns (same ▸ refused)
    exact ⟨place, later.trans left, about⟩

/-- A token that is not the end can be taken before the others. -/
theorem of_cons {other : Reader β} {lexeme : Lexeme} (same : reader (lexeme :: rest) = other rest)
    (inside : lexeme.token ≠ .endOfInput) (locates : other.Locates rest) :
    reader.Locates (lexeme :: rest) :=
  -- One reader takes a single token before the other one begins.
  .of_eq same (.cons inside (.refl rest)) locates

/-- Something made of tokens that are taken is refused where they begin. -/
theorem of_lift {result : Except SyntaxError β} (same : reader input = (result : Reader β) rest)
    (left : Remains rest input) (about : ∀ {error}, result = .error error → error.Concerns input) :
    reader.Locates input := by
  -- Nothing is taken, so an error can only be about the input as it is.
  cases made : result with
  | ok value =>
    subst made
    exact .of_ok same left
  | error error =>
    refine .of_error ?_ (.refl input) (about made)
    subst made
    exact same

/-- Changing what is made of tokens changes nothing about their places. -/
theorem map {f : α → β} (locates : first.Locates input) : (f <$> first).Locates input := by
  -- A map changes neither the remaining input nor the error.
  cases read : first input with
  | ok found => exact .of_ok (map_of_ok read) (locates.remains read)
  | error error =>
    obtain ⟨place, left, about⟩ := locates.concerns read
    exact .of_error (map_of_error read) left about

/-- Of two readers in turn each locates its own faults. -/
theorem bind (locates : first.Locates input)
    (follows : ∀ value rest, first input = .ok (value, rest) → (next value).Locates rest) :
    (first >>= next).Locates input := by
  cases read : first input with
  | ok found =>
    -- The second reader starts from what the first one leaves, which is left of the input.
    obtain ⟨value, rest⟩ := found
    exact .of_eq (bind_of_ok read) (locates.remains read) (follows value rest read)
  | error error =>
    obtain ⟨place, left, about⟩ := locates.concerns read
    exact .of_error (bind_of_error read) left about

end Locates

end Reader

namespace Phrase

/-- A token that is expected is taken, or told to be wanted. -/
theorem expecting_locates {token : Token} (inside : token ≠ .endOfInput) (input : List Lexeme) :
    (expecting token).Locates input := by
  -- Either the token is there and taken, or the fault is about the one in its place.
  rcases upcoming_cases token inside input with ⟨offset, rest, rfl⟩ | other
  · exact .of_ok (expecting_next token offset rest) (.cons inside (.refl rest))
  · exact .of_unexpected (expecting_other other)

/-- A string is taken, or told to be wanted. -/
theorem expectingString_locates (input : List Lexeme) : expectingString.Locates input := by
  -- Either a string is there and taken, or the fault is about the token in its place.
  rcases upcoming_kind_cases .string (by simp) input with ⟨content, offset, rest, rfl⟩ | other
  · exact .of_ok (expectingString_next content offset rest) (.cons (by simp) (.refl rest))
  · exact .of_unexpected (expectingString_other other)

/-- The further strings of a list are taken up to a fault after one of the commas. -/
theorem listingMore_locates (input : List Lexeme) : listingMore.Locates input := by
  rcases upcoming_cases (.mark .comma) (by simp) input with ⟨offset, rest, rfl⟩ | other
  · -- The induction is on what is left behind a comma and a string.
    refine .of_cons (listingMore_comma offset rest) (by simp) ?_
    refine .bind (expectingString_locates rest) fun item left found => ?_
    obtain ⟨place, rfl⟩ := eq_cons_of_expectingString found
    exact .map (listingMore_locates left)
  · exact .of_ok (listingMore_other other) (.refl input)
termination_by input.length
decreasing_by
  subst_vars
  simp only [List.length_cons]
  omega

/-- A list of strings is taken up to a fault in it. -/
theorem listing_locates (input : List Lexeme) : listing.Locates input := by
  rw [listing_eq]
  -- The brackets and the strings between them are read in turn.
  refine .bind (expecting_locates (by simp) input) fun _ rest _ => ?_
  refine .bind (expectingString_locates rest) fun first rest _ => ?_
  refine .bind (listingMore_locates rest) fun more rest _ => ?_
  exact .map (expecting_locates (by simp) rest)

/-- A test for a missing value is taken up to a fault in it. -/
theorem testingNull_locates (left : Expr) (input : List Lexeme) :
    (testingNull left).Locates input := by
  -- With or without the word in between, the second keyword is expected.
  rcases upcoming_cases (.keyword .not) (by simp) input with ⟨offset, rest, rfl⟩ | other
  · exact .of_cons (testingNull_not left offset rest) (by simp)
      (.map (expecting_locates (by simp) rest))
  · exact .of_eq (testingNull_other left other) (.refl input)
      (.map (expecting_locates (by simp) input))

/-- A number is refused at the place that it is given. -/
theorem number_refused {text : String} {offset : Nat} {error : SyntaxError}
    (refused : number text offset = .error error) :
    ∃ cause, Literal.ofNumeral text = .error cause ∧ error = ⟨offset, .number cause⟩ := by
  unfold number at refused
  -- The only error is that of the literal, told at the place of the number.
  cases made : Literal.ofNumeral text with
  | ok constant => simp [made] at refused
  | error cause => exact ⟨cause, rfl, by simpa [made] using refused.symm⟩

/-- A name is refused where it stands. -/
theorem reference_concerns {name : String} {offset : Nat} {error : SyntaxError}
    (refused : reference name offset = .error error) (rest : List Lexeme) :
    error.Concerns (⟨.identifier name, offset⟩ :: rest) := by
  unfold reference at refused
  -- The only error is that of the identifier, told at its own place.
  cases made : Identifier.ofName name with
  | ok identifier => simp [made] at refused
  | error cause =>
    simp only [made, Except.error.injEq] at refused
    exact refused ▸ .identifier made offset rest

/-- A pattern test is refused at its word. -/
theorem patternTestAt_concerns {left : Expr} {offset : Nat} {pattern : String}
    {clause : Option String} {error : SyntaxError}
    (refused : patternTestAt left offset pattern clause = .error error) (place : Nat)
    (words : List Lexeme) (escape : tokensOf words = escapeWords clause) (rest : List Lexeme) :
    error.Concerns (⟨.keyword .like, offset⟩ :: ⟨.string pattern, place⟩ :: (words ++ rest)) := by
  unfold patternTestAt at refused
  -- Of the two outcomes only the error is left, and it carries the place of the word.
  cases made : patternTest left pattern clause with
  | ok tree => simp [made] at refused
  | error cause =>
    simp only [made, Except.error.injEq] at refused
    exact refused ▸ .like made offset place escape rest

/-- A pattern test is taken up to a fault in it, or is refused as a whole. -/
theorem like_locates (left : Expr) (offset : Nat) (rest : List Lexeme) :
    (testingWord left).Locates (⟨.keyword .like, offset⟩ :: rest) := by
  have goesOn := testingWord_like left offset rest
  rcases upcoming_kind_cases .string (by simp) rest with ⟨pattern, place, more, rfl⟩ | other
  · have remains {last : List Lexeme} (later : Remains last more) :
        Remains last (⟨.keyword .like, offset⟩ :: ⟨.string pattern, place⟩ :: more) :=
      .cons (by simp) (.cons (by simp) later)
    -- Only what stands where the clause asks for a string can be told before the pattern is.
    rcases upcoming_cases (.keyword .escape) (by simp) more with ⟨start, later, rfl⟩ | noClause
    · rw [testingLike_escape] at goesOn
      rcases upcoming_kind_cases .string (by simp) later with ⟨escape, behind, last, rfl⟩ | other
      · rw [Reader.bind_of_ok (expectingString_next escape behind last)] at goesOn
        exact .of_lift goesOn (remains (.cons (by simp) (.cons (by simp) (.refl last))))
          fun refused => patternTestAt_concerns refused place
            [⟨.keyword .escape, start⟩, ⟨.string escape, behind⟩] rfl last
      · rw [Reader.bind_of_error (expectingString_other other)] at goesOn
        exact .of_error goesOn (remains (.cons (by simp) (.refl later))) (.expected .string later)
    · rw [testingLike_bare left offset place pattern noClause] at goesOn
      exact .of_lift goesOn (remains (.refl more))
        fun refused => patternTestAt_concerns refused place [] rfl more
  · rw [testingLike_other left offset other] at goesOn
    exact .of_error goesOn (.cons (by simp) (.refl rest)) (.expected .string rest)

/-- After BETWEEN the bounds and the word AND are taken up to a fault in them. -/
theorem between_locates (left : Expr) (offset : Nat) {rest : List Lexeme}
    (sum : ∀ later, later.length ≤ rest.length → (reading (.chain .sum)).Locates later) :
    (testingWord left).Locates (⟨.keyword .between, offset⟩ :: rest) := by
  refine .of_cons (testingWord_between left offset rest) (by simp) ?_
  refine .bind (sum rest (Nat.le_refl _)) fun lower more found => ?_
  refine .bind (expecting_locates (by simp) more) fun _ last joint => .map (sum last ?_)
  -- The lower bound and the word AND leave less than there was.
  have first := length_lt_of_reading found
  obtain ⟨place, rfl⟩ := eq_cons_of_expecting (by simp) joint
  simp only [List.length_cons] at first
  omega

/-- Tests with a word of their own are taken up to a fault in them. -/
theorem testingWord_locates (left : Expr) {input : List Lexeme}
    (sum : ∀ rest, rest.length < input.length → (reading (.chain .sum)).Locates rest) :
    (testingWord left).Locates input := by
  rcases upcoming_cases (.keyword .between) (by simp) input with ⟨offset, rest, rfl⟩ | noBetween
  · exact between_locates left offset fun later shorter =>
      sum later (Nat.lt_of_le_of_lt shorter (by simp))
  · rcases upcoming_cases (.keyword .within) (by simp) input with ⟨offset, rest, rfl⟩ | noWithin
    · exact .of_cons (testingWord_within left offset rest) (by simp) (.map (listing_locates rest))
    · rcases upcoming_cases (.keyword .like) (by simp) input with ⟨offset, rest, rfl⟩ | noLike
      · exact like_locates left offset rest
      · -- With none of the words the test is missing.
        refine .of_unexpected (testingWord_other ?_)
        cases token : (upcoming input).token with
        | keyword word => cases word <;> simp_all [beginsWordedTest]
        | _ => rfl

/-- What tests the left side of a predicate is taken up to a fault in it. -/
theorem testing_locates (left : Expr) {input : List Lexeme}
    (sum : ∀ rest, rest.length < input.length → (reading (.chain .sum)).Locates rest) :
    (testing left).Locates input := by
  by_cases tests : beginsTest (upcoming input).token = true
  · rcases input with _ | ⟨⟨token, offset⟩, rest⟩
    · simp [upcoming, beginsTest, comparison?, beginsWordedTest] at tests
    · -- Which test it is shows in the first token, or behind NOT in the second one.
      by_cases is : token = .keyword .is
      · subst is
        exact .of_cons (testing_is left offset rest) (by simp) (testingNull_locates left rest)
      · by_cases not : token = .keyword .not
        · subst not
          refine .of_cons (testing_not left offset rest) (by simp)
            (.map (testingWord_locates left fun later shorter => sum later ?_))
          simp only [List.length_cons]
          omega
        · cases sign : comparison? token with
          | some compare =>
            exact .of_cons (testing_comparison sign) (ne_endOfInput_of_comparison sign)
              (.map (sum rest (by simp)))
          | none =>
            have word : beginsWordedTest token = true := by
              simpa [upcoming, beginsTest, is, not, sign] using tests
            exact .of_eq (testing_word word) (.refl _) (testingWord_locates left sum)
  · -- Without a test nothing is taken.
    exact .of_ok (testing_other (by simpa using tests)) (.refl input)

/-- What follows the operands of a chain is taken up to a fault in it. -/
theorem extending_locates {chain : Chain} {input : List Lexeme}
    (operand : ∀ rest, rest.length < input.length → (reading chain.operand).Locates rest)
    (left : Expr) : (extending chain left).Locates input := by
  cases joins : chain.join? (upcoming input).token with
  | none => exact .of_ok (extending_other joins) (.refl input)
  | some join =>
    cases input with
    | nil => cases chain <;> cases joins
    | cons lexeme rest =>
      have joins : chain.join? lexeme.token = some join := joins
      -- The next operand is taken, and the induction is on what is left behind it.
      refine .of_cons (extending_join joins) (ne_endOfInput_of_join joins) ?_
      refine .bind (operand rest (by simp)) fun right more found => ?_
      have shorter := length_lt_of_reading found
      exact extending_locates (fun later _ => operand later (by simp; omega)) (join left right)
termination_by input.length
decreasing_by
  subst_vars
  simp only [List.length_cons]
  omega

/-- A number, a name or a constant is taken or refused where it stands, and brackets are taken up to
a fault in them. -/
theorem primary_locates {input : List Lexeme}
    (inner : ∀ rest, rest.length < input.length → (reading (.chain .or)).Locates rest) :
    (reading .primary).Locates input := by
  by_cases begins : beginsOperand (upcoming input).token = true
  · rcases input with _ | ⟨⟨token, offset⟩, rest⟩
    · simp [upcoming, beginsOperand] at begins
    · have behind (inside : token ≠ .endOfInput) : Remains rest (⟨token, offset⟩ :: rest) :=
        .cons inside (.refl rest)
      cases token with
      | number text =>
        refine .of_lift (reading_primary_number text offset rest) (behind (by simp)) ?_
        intro error refused
        obtain ⟨cause, made, rfl⟩ := number_refused refused
        exact .number made offset rest
      | string content =>
        exact .of_ok (reading_primary_string content offset rest) (behind (by simp))
      | identifier name =>
        exact .of_lift (reading_primary_identifier name offset rest) (behind (by simp))
          fun refused => reference_concerns refused rest
      | keyword word =>
        -- The constants are the only operands among the words.
        by_cases yes : word = .yes
        · subst yes
          exact .of_ok (reading_primary_yes offset rest) (behind (by simp))
        · by_cases no : word = .no
          · subst no
            exact .of_ok (reading_primary_no offset rest) (behind (by simp))
          · exact .of_error (reading_primary_keyword offset rest yes no) (.refl _)
              (.reservedOperand word offset rest)
      | mark sign =>
        -- Of all marks only a bracket begins an operand.
        obtain rfl : sign = .openBracket := by
          cases sign <;> simp_all [upcoming, beginsOperand]
        refine .of_cons (reading_primary_bracket offset rest) (by simp) ?_
        refine .bind (inner rest (by simp)) ?_
        intro tree more _
        exact .map (expecting_locates (by simp) more)
      | endOfInput => simp [upcoming, beginsOperand] at begins
  · exact .of_unexpected (reading_primary_other (by simpa using begins))

/-- A signed number is refused at its sign, and else the operand of a sign is taken up to a
fault. -/
theorem unary_locates {input : List Lexeme}
    (shorter : ∀ rest, rest.length < input.length → (reading .unary).Locates rest)
    (primary : (reading .primary).Locates input) : (reading .unary).Locates input := by
  rcases upcoming_cases (.mark .plus) (by simp) input with ⟨offset, rest, rfl⟩ | noPlus
  · exact .of_cons (reading_unary_plus offset rest) (by simp) (shorter rest (by simp))
  · rcases upcoming_cases (.mark .minus) (by simp) input with ⟨offset, rest, rfl⟩ | noMinus
    · rcases upcoming_kind_cases .number (by simp) rest with ⟨text, place, more, rfl⟩ | other
      · -- A number right behind the sign is read together with it, as what is told at the sign.
        refine .of_lift (reading_unary_number offset place text more)
          (.cons (by simp) (.cons (by simp) (.refl more))) ?_
        intro error refused
        obtain ⟨cause, made, rfl⟩ := number_refused refused
        exact .signedNumber made offset place more
      · exact .of_cons (reading_unary_minus offset other) (by simp) (.map (shorter rest (by simp)))
    · exact .of_eq (reading_unary_other noPlus noMinus) (.refl input) primary

/-- Phrases of every rank are taken up to a fault in them. -/
theorem reading_locates (rank : Rank) (input : List Lexeme) : (reading rank).Locates input := by
  -- Ranks call tighter ranks on the same input, and looser ones only on shorter inputs.
  match rank with
  | .chain chain =>
    rw [reading_chain]
    refine .bind (reading_locates chain.operand input) fun first rest found => ?_
    have shorter := length_lt_of_reading found
    exact extending_locates (fun later _ => reading_locates chain.operand later) first
  | .negation =>
    rcases upcoming_cases (.keyword .not) (by simp) input with ⟨offset, rest, rfl⟩ | other
    · exact .of_cons (reading_negation_not offset rest) (by simp)
        (.map (reading_locates .negation rest))
    · exact .of_eq (reading_negation_other other) (.refl input) (reading_locates .predicate input)
  | .predicate =>
    rw [reading_predicate]
    refine .bind (reading_locates (.chain .sum) input) fun first rest found => ?_
    have shorter := length_lt_of_reading found
    exact testing_locates first fun later _ => reading_locates (.chain .sum) later
  | .unary =>
    exact unary_locates (fun rest _ => reading_locates .unary rest) (reading_locates .primary input)
  | .primary => exact primary_locates fun rest _ => reading_locates (.chain .or) rest
termination_by input.length * 10 + rank.height
decreasing_by
  all_goals subst_vars
  · exact Nat.add_lt_add_left chain.height_operand_lt _
  · cases chain <;> simp [Rank.height, Chain.operand] <;> omega
  all_goals simp [Rank.height]
  all_goals omega

/-- A whole selector is taken up to a fault in it. -/
theorem selecting_locates (input : List Lexeme) : selecting.Locates input := by
  refine .bind (reading_locates (.chain .or) input) fun tree rest _ => ?_
  -- The end is looked at and left where it is.
  by_cases last : (upcoming rest).token = .endOfInput
  · have read : ending tree rest = .ok (tree, rest) := by rw [ending, if_pos last]
    exact .of_ok read (.refl rest)
  · have refused : ending tree rest = unexpected (.token .endOfInput) rest := by
      rw [ending, if_neg last]
    exact .of_unexpected refused

end Phrase

/-- A fault in tokens that are ended is about one of them and those that follow it. -/
theorem exists_concerns_of_ofLexemes {lexemes : List Lexeme} {error : SyntaxError}
    (ended : Ended lexemes) (refused : Expr.ofLexemes lexemes = .error error) :
    ∃ before lexeme after, lexemes = before ++ lexeme :: after ∧ lexeme.offset = error.offset ∧
      error.Concerns (lexeme :: after) := by
  obtain ⟨place, left, about⟩ :=
    (Phrase.selecting_locates lexemes).concerns (Expr.selecting_of_error refused)
  -- The end of the tokens is never taken, so what the fault is about begins with a token.
  have some := left.ne_nil ended
  obtain ⟨before, rfl, -⟩ := left
  cases place with
  | nil => exact absurd rfl some
  | cons lexeme after => exact ⟨before, lexeme, after, rfl, about.offset_eq.symm, about⟩

/-- No fault about the tokens of a text is that of a name. -/
theorem Lexed.fault_ne_identifier {cursor : Cursor} {before input : List Lexeme}
    {error : SyntaxError} (lexed : Lexed cursor (before ++ input)) (about : error.Concerns input)
    (cause : IdentifierError) : error.fault ≠ .identifier cause := by
  intro told
  cases about with
  | @identifier name _ refused offset rest =>
    -- The name that would be refused stands in the text, where all names are accepted.
    have held : .identifier name ∈ tokensOf (before ++ ⟨.identifier name, offset⟩ :: rest) := by
      simp
    obtain ⟨identifier, accepted⟩ := lexed.exists_ofName held
    rw [accepted] at refused
    cases refused
  | _ => cases told

end

namespace Selector

section

variable [Regex.Engine]

/-- A text with a fault in its tokens is refused with that fault. Any other text is a selector, or
it is refused at one of its tokens, which the fault is about: a number that is refused or the sign
of it, the word LIKE of a pattern test that is refused, or a token that is out of place. The names
in a text are never refused, and neither are TRUE and FALSE. -/
theorem ofText_outcome (text : String) :
    match tokenize text with
    | .error error => ofText text = .error error ∧ error.offset ≤ text.length
    | .ok lexemes =>
      ((∃ selector, ofText text = .ok selector) ∨
        ∃ error before lexeme after, ofText text = .error error ∧
          lexemes = before ++ lexeme :: after ∧ lexeme.offset = error.offset ∧
          error.offset ≤ text.length ∧ error.Concerns (lexeme :: after) ∧
          (∀ cause, error.fault ≠ .identifier cause) ∧
          ∀ cause, error.fault ≠ .boolean cause) ∧
      (∀ name, .identifier name ∈ tokensOf lexemes →
        ∃ identifier, Identifier.ofName name = .ok identifier) ∧
      Literal.ofBoolean Keyword.yes.text = .ok (.boolean true) ∧
      Literal.ofBoolean Keyword.no.text = .ok (.boolean false) := by
  cases read : tokenize text with
  | error error =>
    -- A text with an unreadable token is refused before any token is parsed.
    refine ⟨?_, offset_le_of_tokenize read⟩
    rw [ofText, Expr.ofText, read]
    rfl
  | ok lexemes =>
    have lexed := Cursor.lexemes_eq_ok_iff.1 read
    have same : ofText text = (Expr.ofLexemes lexemes).map fun tree => { text, tree } := by
      rw [ofText, Expr.ofText, read]
      rfl
    -- The names were scanned as words, which are identifiers unless they are reserved.
    refine ⟨?_, fun name held => lexed.exists_ofName held, rfl, rfl⟩
    cases made : Expr.ofLexemes lexemes with
    | ok tree => exact .inl ⟨⟨text, tree⟩, by rw [same, made]; rfl⟩
    | error error =>
      -- The fault is about a token of the text, and tokens lie inside of it.
      obtain ⟨before, lexeme, after, rfl, place, about⟩ :=
        exists_concerns_of_ofLexemes lexed.ended made
      have inside := lexed.offset_le_length lexeme (by simp)
      have refused : ofText text = .error error := by
        rw [same, made]
        rfl
      have bounded : error.offset ≤ text.length := by
        rw [← place, ← String.length_toList]
        simpa [Cursor.start] using inside
      exact .inr ⟨error, before, lexeme, after, refused, rfl, place, bounded, about,
        lexed.fault_ne_identifier about, about.fault_ne_boolean⟩

end

/-- A sign out of place does not come to light in `= #`, and a fraction with the suffix of a long
integer is refused at its sign. -/
theorem ofText_outcome_number :
    ofText "= #" = .error ⟨2, .unexpectedCharacter '#'⟩ ∧
      (∃ identifier, Identifier.ofName "a" = .ok identifier) ∧
      ∃ error before lexeme after, ofText "a>-1.5L" = .error error ∧
        [⟨.identifier "a", 0⟩, ⟨.mark .greater, 1⟩, ⟨.mark .minus, 2⟩,
          ⟨.number "1.5L", 3⟩, ⟨.endOfInput, 7⟩] = before ++ lexeme :: after ∧
        lexeme.offset = error.offset ∧ error.Concerns (lexeme :: after) := by
  -- The sign in front would be a fault of its own, but the scanner's error comes first.
  have failed : tokenize "= #" = .error ⟨2, .unexpectedCharacter '#'⟩ := by
    rw [tokenize, Cursor.lexemes_of_scan rfl rfl, Cursor.lexemes_of_error rfl rfl]
    rfl
  have read : tokenize "a>-1.5L" =
      .ok [⟨.identifier "a", 0⟩, ⟨.mark .greater, 1⟩, ⟨.mark .minus, 2⟩,
        ⟨.number "1.5L", 3⟩, ⟨.endOfInput, 7⟩] :=
    Cursor.lexemes_eq_ok_iff.2
      (.token rfl rfl (.token rfl rfl (.token rfl rfl (.token rfl rfl (.done rfl)))))
  have first := ofText_outcome "= #"
  have second := ofText_outcome "a>-1.5L"
  rw [failed] at first
  rw [read] at second
  obtain ⟨⟨selector, accepted⟩ | found, names, -, -⟩ := second
  · have refused : (ofText "a>-1.5L").toOption = none := by decide +kernel
    rw [accepted] at refused
    cases refused
  · obtain ⟨error, before, lexeme, after, told, same, place, -, about, -⟩ := found
    exact ⟨first.1, names "a" (by simp), error, before, lexeme, after, told, same, place, about⟩

end Selector

end MessageSelector
