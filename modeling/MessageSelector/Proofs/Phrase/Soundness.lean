import MessageSelector.Proofs.Phrase.Lookahead

/-! Every reader keeps to the phrases that the grammar derives, and to the trees of those. -/

namespace MessageSelector

namespace Phrase

open Reader (KeepsTo)

variable [Regex.Engine]

/-- Expecting a token keeps to that token. -/
theorem expecting_keepsTo {token : Token} (inside : token ≠ .endOfInput) (input : List Lexeme) :
    (expecting token).KeepsTo (fun tokens _ => tokens = [token]) input := by
  -- Either the token is there, or it would have been the completion.
  rcases upcoming_cases token inside input with ⟨offset, rest, rfl⟩ | other
  · exact .of_token inside rfl fun later => expecting_next token offset later
  · refine .of_unexpected (.token token) ⟨[token], (), rfl⟩ fun later same => ?_
    exact expecting_other (upcoming_congr same ▸ other)

/-- Expecting a string keeps to strings. -/
theorem expectingString_keepsTo (input : List Lexeme) :
    expectingString.KeepsTo (fun tokens content => tokens = [.string content]) input := by
  -- Where no string is there, the empty one would have been the completion.
  rcases upcoming_kind_cases .string (by simp) input with ⟨content, offset, rest, rfl⟩ | other
  · exact .of_token (by simp) rfl fun later => expectingString_next content offset later
  · refine .of_unexpected .string ⟨[.string ""], "", rfl⟩ fun later same => ?_
    exact expectingString_other (upcoming_congr same ▸ other)

/-- The further strings of a list each come after a comma. -/
theorem listingMore_keepsTo (input : List Lexeme) :
    listingMore.KeepsTo (fun tokens items => tokens = commaStrings items) input := by
  rcases upcoming_cases (.mark .comma) (by simp) input with ⟨offset, rest, rfl⟩ | other
  · -- One comma and string are read, and the induction is on what is left after them.
    refine .after_token (by simp) ?_ fun later _ => listingMore_comma offset later
    refine .bind (expectingString_keepsTo rest) (Q := fun item tokens items =>
      ∃ more, tokens = commaStrings more ∧ items = item :: more) (fun item left found => ?_) ?_ ?_
    · obtain ⟨place, rfl⟩ := eq_cons_of_expectingString found
      refine .map (listingMore_keepsTo left) fun tokens items same => ⟨items, same, rfl⟩
    · intro tokens item more items single after
      obtain ⟨others, rfl, rfl⟩ := after
      simp [single, commaStrings]
    · exact fun item => ⟨[], [item], [], rfl, rfl⟩
  · -- Without a comma the list has no more strings, and that is no fault.
    have nothing : [] = commaStrings [] := rfl
    exact .of_ok nothing fun later same => listingMore_other (upcoming_congr same ▸ other)
termination_by input.length
decreasing_by
  subst_vars
  simp only [List.length_cons]
  omega

/-- A list keeps to strings in brackets, of which there is at least one. -/
theorem listing_keepsTo (input : List Lexeme) :
    listing.KeepsTo (fun tokens items => ∃ first more, items = first :: more ∧
      tokens = .mark .openBracket :: .string first ::
        (commaStrings more ++ [.mark .closeBracket])) input := by
  rw [listing_eq]
  -- The parts are put together from the last one on, each with the completion that it leaves open.
  refine .bind (expecting_keepsTo (by simp) input) (Q := fun _ tokens items =>
    ∃ first more, items = first :: more ∧
      tokens = .string first :: (commaStrings more ++ [.mark .closeBracket]))
    (fun _ rest _ => ?_) ?_ fun _ => ⟨_, _, "", [], rfl, rfl⟩
  · -- After the bracket at least one string has to come.
    refine .bind (expectingString_keepsTo rest) (Q := fun first tokens items =>
      ∃ more, items = first :: more ∧ tokens = commaStrings more ++ [.mark .closeBracket])
      (fun first rest _ => ?_) ?_ fun first => ⟨_, _, [], rfl, rfl⟩
    · refine .bind (listingMore_keepsTo rest) (Q := fun more tokens items =>
        items = first :: more ∧ tokens = [.mark .closeBracket])
        (fun more rest _ => ?_) ?_ fun more => ⟨_, _, rfl, rfl⟩
      · -- After the strings only the closing bracket is left open.
        exact .map (expecting_keepsTo (by simp) rest) fun tokens _ same => ⟨rfl, same⟩
      · intro tokens more closing items listed last
        exact ⟨more, last.1, by rw [listed, last.2]⟩
    · intro tokens first after items single listed
      obtain ⟨more, made, same⟩ := listed
      exact ⟨first, more, made, by rw [single, same]; rfl⟩
  · intro tokens _ after items opening listed
    obtain ⟨first, more, made, same⟩ := listed
    exact ⟨first, more, made, by rw [opening, same]; rfl⟩

/-- A test for a missing value keeps to NULL with or without NOT. -/
theorem testingNull_keepsTo (left : Expr) (input : List Lexeme) :
    (testingNull left).KeepsTo (fun tokens tree => ∃ negated,
      tokens = notWord negated ++ [.keyword .null] ∧ tree = negatedIf negated (.isNull left))
      input := by
  -- The word NOT decides which of the two tests is read; NULL completes both.
  rcases upcoming_cases (.keyword .not) (by simp) input with ⟨offset, rest, rfl⟩ | other
  · refine .after_token (by simp) (.map (expecting_keepsTo (by simp) rest) ?_)
      fun later _ => testingNull_not left offset later
    intro tokens _ null
    exact ⟨true, by rw [null]; rfl, rfl⟩
  · refine .congr (.map (expecting_keepsTo (by simp) input) ?_)
      fun later same => testingNull_other left (upcoming_congr same ▸ other)
    intro tokens _ null
    exact ⟨false, null, rfl⟩

/-- A pattern test that is refused is no fault of grammar. -/
theorem isGrammatical_of_patternTestAt {left : Expr} {offset : Nat} {pattern : String}
    {clause : Option String} {error : SyntaxError}
    (refused : patternTestAt left offset pattern clause = .error error) :
    error.fault.isGrammatical = false := by
  -- Such a fault tells what is wrong with the pattern, and no token is out of place.
  unfold patternTestAt at refused
  cases made : patternTest left pattern clause with
  | ok tree => simp [made] at refused
  | error cause =>
    simp only [made, Except.error.injEq] at refused
    rw [← refused]
    rfl

/-- A pattern test that is made is the one of its pattern and its escape clause. -/
theorem patternTest_of_patternTestAt {left tree : Expr} {offset : Nat} {pattern : String}
    {clause : Option String} (made : patternTestAt left offset pattern clause = .ok tree) :
    patternTest left pattern clause = .ok tree := by
  unfold patternTestAt at made
  -- The place is needed for the error only.
  cases tested : patternTest left pattern clause with
  | ok test => simpa [tested] using made
  | error cause => simp [tested] at made

/-- A pattern test of tokens that are taken is the test of these tokens, or is refused for its
pattern. -/
theorem patternTestAt_keepsTo (left : Expr) (offset : Nat) (pattern : String)
    (clause : Option String) (input : List Lexeme) :
    KeepsTo (patternTestAt left offset pattern clause : Reader Expr) (fun tokens tree =>
      tokens = [] ∧ patternTest left pattern clause = .ok tree) input := by
  -- The test takes no tokens, and its error is about the pattern, not the grammar.
  refine .of_lift (fun tree made => ⟨rfl, patternTest_of_patternTestAt made⟩) ?_
  exact fun error refused => isGrammatical_of_patternTestAt refused

/-- The tokens after LIKE make the test that the tree is, of what the tree `left` stands for. -/
def PatternTests (left : Expr) (tokens : List Token) (tree : Expr) : Prop :=
  -- The clause is part of the tokens when there is one.
  ∃ pattern clause, tokens = .string pattern :: escapeWords clause ∧
    patternTest left pattern clause = .ok tree

/-- After the word ESCAPE a string has to come, and some string can if the pattern fits. -/
theorem testingEscape_keepsTo (left : Expr) (offset place start : Nat) (pattern : String)
    (rest : List Lexeme) :
    (testingLike left offset).KeepsTo (PatternTests left)
      (⟨.string pattern, place⟩ :: ⟨.keyword .escape, start⟩ :: rest) := by
  let front : List Lexeme := [⟨.string pattern, place⟩, ⟨.keyword .escape, start⟩]
  suffices keeps : (testingLike left offset).KeepsTo (PatternTests left) (front ++ rest) from keeps
  rcases upcoming_kind_cases .string (by simp) rest with ⟨escape, behind, last, rfl⟩ | other
  · -- The string is taken along with the tokens before it.
    rw [List.append_cons]
    refine .after_tokens (by simp [front])
      ((patternTestAt_keepsTo left offset pattern (some escape) last).mono ?_) fun later _ => ?_
    · rintro tokens tree ⟨rfl, made⟩
      exact ⟨pattern, some escape, rfl, made⟩
    · rw [List.append_assoc]
      exact (testingLike_escape left offset place start pattern _).trans
        (Reader.bind_of_ok (expectingString_next escape behind later))
  · refine .refuses ⟨(upcoming rest).offset, .expected .string (upcoming rest).token⟩
      (by simp [front]) (fun _ => ⟨rfl, fun fit => ?_⟩) fun later same => ?_
    · -- A completion must be accepted as well, so the escape is chosen to suit the pattern.
      obtain ⟨c, visible, isFound, compiles⟩ := fit.escaped [] pattern rfl
      obtain ⟨tree, made⟩ := exists_patternTest_of_compile compiles (by simp [visible]) left
      exact ⟨[.string (String.singleton c)], tree, pattern, some _, rfl, made⟩
    · have refused := expectingString_other (upcoming_congr same ▸ other)
      rw [← upcoming_congr same]
      exact (testingLike_escape left offset place start pattern later).trans
        (Reader.bind_of_error refused)

/-- A pattern test of a string keeps to it and an escape clause that the constructor accepts. -/
theorem testingLike_keepsTo (left : Expr) (offset place : Nat) (pattern : String)
    (rest : List Lexeme) :
    (testingLike left offset).KeepsTo (PatternTests left) (⟨.string pattern, place⟩ :: rest) := by
  -- The word ESCAPE asks for one more string, and without it the test is made at once.
  rcases upcoming_cases (.keyword .escape) (by simp) rest with ⟨start, more, rfl⟩ | noClause
  · exact testingEscape_keepsTo left offset place start pattern more
  · refine .after_token (by simp) ((patternTestAt_keepsTo left offset pattern none rest).mono ?_)
      fun later same => testingLike_bare left offset place pattern (upcoming_congr same ▸ noClause)
    rintro tokens tree ⟨rfl, made⟩
    exact ⟨pattern, none, rfl, made⟩

/-- The tokens make a phrase of one rank that stands for `left` into one of another for a tree. -/
def Prolongs (start goal : Rank) (left : Expr) (tokens : List Token) (tree : Expr) : Prop :=
  ∀ lefts, Derives start lefts left → Derives goal (lefts ++ tokens) tree

/-- The tokens after a sum that stands for `left`, and after NOT or not, test it. -/
def Tests (left : Expr) (tokens : List Token) (tree : Expr) : Prop :=
  -- The operand in front may be any sum that has the tree as its meaning.
  ∀ lefts negated, Derives (.chain .sum) lefts left →
    Derives .predicate (lefts ++ (notWord negated ++ tokens)) (negatedIf negated tree)

/-- No token at all keeps a phrase of a rank and makes it one of a looser rank. -/
theorem Prolongs.nil {start goal : Rank} {left : Expr}
    (loosen : ∀ lefts, Derives start lefts left → Derives goal lefts left) :
    Prolongs start goal left [] left := by
  -- Nothing is added, so the operand alone has to be a phrase of the higher rank.
  intro lefts derived
  rw [List.append_nil]
  exact loosen lefts derived

/-- A literal number keeps to its token. -/
theorem number_keepsTo (text : String) (offset : Nat) (input : List Lexeme) :
    KeepsTo (number text offset : Reader Expr) (fun tokens tree => tokens = [] ∧
      ∃ constant, Literal.ofNumeral text = .ok constant ∧ tree = .literal constant) input := by
  refine .of_lift (fun tree made => ⟨rfl, number_eq_ok_iff.1 made⟩) fun error refused => ?_
  -- A number out of range is refused for its value, in a place where numbers can stand.
  unfold number at refused
  split at refused <;> cases refused
  rfl

/-- A name that is no reserved word keeps to its token. -/
theorem reference_keepsTo (name : String) (offset : Nat) (input : List Lexeme) :
    KeepsTo (reference name offset : Reader Expr) (fun tokens tree => tokens = [] ∧
      ∃ identifier : Identifier, identifier.name = name ∧ tree = .reference identifier) input := by
  refine .of_lift (fun tree made => ⟨rfl, reference_eq_ok_iff.1 made⟩) fun error refused => ?_
  -- A reserved name is refused for itself, in a place where names can stand.
  unfold reference at refused
  split at refused <;> cases refused
  rfl

/-- A minus is the sign of a number or negates the unary phrase after it. -/
theorem minus_keepsTo (offset : Nat) {rest : List Lexeme}
    (operand : (reading .unary).KeepsTo (Derives .unary) rest) :
    (reading .unary).KeepsTo (Derives .unary) (⟨.mark .minus, offset⟩ :: rest) := by
  suffices keeps : KeepsTo (fun later => reading .unary (⟨.mark .minus, offset⟩ :: later))
      (fun tokens tree => Derives .unary (.mark .minus :: tokens) tree) rest from
    .after_token (by simp) keeps fun later _ => rfl
  -- What comes after the minus decides whether it is a sign of a number.
  rcases upcoming_kind_cases .number (by simp) rest with ⟨text, place, more, rfl⟩ | other
  · refine .after_token (by simp) ((number_keepsTo ("-" ++ text) offset more).mono ?_)
      fun later _ => reading_unary_number offset place text later
    intro tokens tree found
    obtain ⟨rfl, constant, made, rfl⟩ := found
    exact .signedNumber made
  · have negated : (reading .unary).KeepsTo (fun tokens tree =>
        Derives .unary (.mark .minus :: tokens) (.negate tree)) rest := by
      refine operand.mono_head (fun tree derived => derived.ne_nil rfl)
        ⟨_, _, .minus (.primary .yes) (by simp [BeginsWithNumber])⟩
        fun tokens tree derived head => .minus derived ?_
      -- What the operand begins with is the token to come, which is no number.
      intro number
      obtain ⟨text, more, rfl⟩ := number
      cases rest with
      | nil => simp at head
      | cons lexeme left => exact other text (by simpa [upcoming] using head.symm)
    exact .congr (.map negated fun _ _ derived => derived) fun later same =>
      reading_unary_minus offset (upcoming_congr same ▸ other)

/-- Unary phrases are read as such when those on shorter inputs are. -/
theorem unary_keepsTo {input : List Lexeme}
    (shorter : ∀ rest, rest.length < input.length → (reading .unary).KeepsTo (Derives .unary) rest)
    (primary : (reading .primary).KeepsTo (Derives .primary) input) :
    (reading .unary).KeepsTo (Derives .unary) input := by
  rcases upcoming_cases (.mark .plus) (by simp) input with ⟨offset, rest, rfl⟩ | noPlus
  · exact .after_token (by simp) ((shorter rest (by simp)).mono fun _ _ operand => .plus operand)
      fun later _ => reading_unary_plus offset later
  · rcases upcoming_cases (.mark .minus) (by simp) input with ⟨offset, rest, rfl⟩ | noMinus
    · exact minus_keepsTo offset (shorter rest (by simp))
    · -- Without a sign nothing is taken before the primary phrase.
      exact .congr (primary.mono fun _ _ derived => .primary derived)
        fun later same => reading_unary_other (upcoming_congr same ▸ noPlus)
          (upcoming_congr same ▸ noMinus)

/-- Of all keywords only the constants are operands. -/
theorem keyword_keepsTo (word : Keyword) (offset : Nat) (rest : List Lexeme) :
    (reading .primary).KeepsTo (Derives .primary) (⟨.keyword word, offset⟩ :: rest) := by
  by_cases yes : word = .yes
  · subst yes
    exact .of_token (by simp) .yes fun later => reading_primary_yes offset later
  · by_cases no : word = .no
    · subst no
      exact .of_token (by simp) .no fun later => reading_primary_no offset later
    · -- Any other keyword is refused where TRUE could have stood.
      refine .of_refusal ⟨offset, .reservedOperand word⟩ ⟨_, _, .yes⟩ rfl fun later same => ?_
      obtain ⟨more, rfl⟩ : ∃ more, later = ⟨.keyword word, offset⟩ :: more := by
        cases later <;> simp_all
      exact reading_primary_keyword offset more yes no

/-- A bracket is an operand when the condition in it is one that keeps to the grammar. -/
theorem brackets_keepsTo (offset : Nat) {rest : List Lexeme}
    (inner : (reading (.chain .or)).KeepsTo (Derives (.chain .or)) rest) :
    (reading .primary).KeepsTo (Derives .primary) (⟨.mark .openBracket, offset⟩ :: rest) := by
  -- The closing bracket completes whatever stands behind the opening one.
  refine .after_token (by simp) (.bind inner (Q := fun inner tokens tree =>
    tokens = [.mark .closeBracket] ∧ tree = inner) (fun inner left _ =>
      .map (expecting_keepsTo (by simp) left) fun _ _ same => ⟨same, rfl⟩) ?_
        fun inner => ⟨_, _, rfl, rfl⟩) fun later _ => reading_primary_bracket offset later
  intro tokens inner last tree derived closing
  obtain ⟨rfl, rfl⟩ := closing
  exact .brackets derived

/-- Primary phrases are read as such when conditions on shorter inputs are. -/
theorem primary_keepsTo {input : List Lexeme}
    (inner : ∀ rest, rest.length < input.length →
      (reading (.chain .or)).KeepsTo (Derives (.chain .or)) rest) :
    (reading .primary).KeepsTo (Derives .primary) input := by
  -- There is one case for each kind of token that can begin an operand.
  by_cases begins : beginsOperand (upcoming input).token = true
  · rcases input with _ | ⟨⟨token, offset⟩, rest⟩
    · simp [upcoming, beginsOperand] at begins
    · cases token with
      | number text =>
        refine .after_token (by simp) ((number_keepsTo text offset rest).mono ?_)
          fun later _ => reading_primary_number text offset later
        intro tokens tree found
        obtain ⟨rfl, constant, made, rfl⟩ := found
        exact .number made
      | string content =>
        exact .of_token (by simp) (.string content) fun later =>
          reading_primary_string content offset later
      | identifier name =>
        refine .after_token (by simp) ((reference_keepsTo name offset rest).mono ?_)
          fun later _ => reading_primary_identifier name offset later
        intro tokens tree found
        obtain ⟨rfl, identifier, rfl, rfl⟩ := found
        exact .reference identifier
      | keyword word => exact keyword_keepsTo word offset rest
      | mark sign =>
        -- Of all marks only a bracket begins an operand.
        obtain rfl : sign = .openBracket := by
          cases sign <;> simp_all [upcoming, beginsOperand]
        exact brackets_keepsTo offset (inner rest (by simp))
      | endOfInput => simp [upcoming, beginsOperand] at begins
  · -- Anything else is refused where TRUE could have stood.
    refine .of_unexpected .operand ⟨_, _, .yes⟩ fun later same => reading_primary_other ?_
    rw [upcoming_congr same]
    simpa using begins

/-- After BETWEEN come two bounds with the word AND between them. -/
theorem between_keepsTo (left : Expr) (offset : Nat) {rest : List Lexeme}
    (sum : ∀ later, later.length ≤ rest.length →
      (reading (.chain .sum)).KeepsTo (Derives (.chain .sum)) later) :
    (testingWord left).KeepsTo (Tests left) (⟨.keyword .between, offset⟩ :: rest) := by
  -- Where a bound is missing, TRUE could be that bound.
  have bound : Derives (.chain .sum) [.keyword .yes] (.literal (.boolean true)) :=
    .product (.unary (.primary .yes))
  refine .after_token (by simp) (.bind (sum rest (Nat.le_refl _)) (Q := fun lower tokens tree =>
    ∃ uppers upper, Derives (.chain .sum) uppers upper ∧ tokens = .keyword .and :: uppers ∧
      tree = .between left lower upper) (fun lower more found => ?_) ?_ fun lower => ?_)
      fun later _ => testingWord_between left offset later
  · refine .bind (expecting_keepsTo (by simp) more) (Q := fun _ tokens tree =>
      ∃ upper, Derives (.chain .sum) tokens upper ∧ tree = .between left lower upper)
      (fun _ last joint => ?_) ?_ fun _ => ⟨_, _, _, bound, rfl⟩
    · -- The lower bound and the word AND leave less than there was.
      have first := length_lt_of_reading found
      obtain ⟨place, rfl⟩ := eq_cons_of_expecting (by simp) joint
      refine .map (sum last ?_) fun tokens upper derived => ⟨upper, derived, rfl⟩
      simp only [List.length_cons] at first
      omega
    · intro tokens _ uppers tree word found
      obtain ⟨upper, derived, rfl⟩ := found
      exact ⟨uppers, upper, derived, by rw [word]; rfl, rfl⟩
  · intro lowers lower tokens tree derivedLower found lefts negated derived
    obtain ⟨uppers, upper, derivedUpper, rfl, rfl⟩ := found
    simpa using Derives.between negated derived derivedLower derivedUpper
  · exact ⟨_, _, _, _, bound, rfl, rfl⟩

/-- After the word LIKE a string has to come, and some string can if any pattern fits. -/
theorem like_keepsTo (left : Expr) (offset : Nat) (rest : List Lexeme) :
    (testingWord left).KeepsTo (Tests left) (⟨.keyword .like, offset⟩ :: rest) := by
  have meant : ∀ tokens tree, PatternTests left tokens tree →
      Tests left (.keyword .like :: tokens) tree := by
    intro tokens tree found lefts negated derived
    obtain ⟨pattern, clause, rfl, made⟩ := found
    exact .like negated pattern clause derived made
  rcases upcoming_kind_cases .string (by simp) rest with ⟨pattern, place, more, rfl⟩ | other
  · exact .after_token (by simp) ((testingLike_keepsTo left offset place pattern more).mono meant)
      fun later _ => testingWord_like left offset later
  · let front : List Lexeme := [⟨.keyword .like, offset⟩]
    suffices refuses : (testingWord left).KeepsTo (Tests left) (front ++ rest) from refuses
    refine .refuses ⟨(upcoming rest).offset, .expected .string (upcoming rest).token⟩
      (by simp [front]) (fun _ => ⟨rfl, fun fit => ?_⟩) fun later same => ?_
    · -- A completion must be accepted as well, so the string is a pattern that fits.
      obtain ⟨pattern, isFound, compiles⟩ := fit.started [] rfl
      obtain ⟨tree, made⟩ := exists_patternTest_of_compile compiles rfl left
      exact ⟨[.string pattern], tree, meant [.string pattern] tree ⟨pattern, none, rfl, made⟩⟩
    · rw [← upcoming_congr same]
      exact (testingWord_like left offset later).trans
        (testingLike_other left offset (upcoming_congr same ▸ other))

/-- Tests with a word of their own are read as such when sums on shorter inputs are. -/
theorem testingWord_keepsTo (left : Expr) {input : List Lexeme}
    (sum : ∀ rest, rest.length < input.length →
      (reading (.chain .sum)).KeepsTo (Derives (.chain .sum)) rest) :
    (testingWord left).KeepsTo (Tests left) input := by
  -- The first word tells which of the three tests it is.
  rcases upcoming_cases (.keyword .between) (by simp) input with ⟨offset, rest, rfl⟩ | noBetween
  · exact between_keepsTo left offset fun later shorter =>
      sum later (Nat.lt_of_le_of_lt shorter (by simp))
  · rcases upcoming_cases (.keyword .within) (by simp) input with ⟨offset, rest, rfl⟩ | noWithin
    · refine .after_token (by simp) (.map (listing_keepsTo rest) ?_)
        fun later _ => testingWord_within left offset later
      intro tokens items found lefts negated derived
      obtain ⟨first, more, rfl, rfl⟩ := found
      exact .within negated first more derived
    · rcases upcoming_cases (.keyword .like) (by simp) input with ⟨offset, rest, rfl⟩ | noLike
      · exact like_keepsTo left offset rest
      · -- With none of the words, the shortest membership test is a completion.
        refine .of_unexpected .negatedTest
          ⟨_, _, fun lefts negated derived => .within negated "" [] derived⟩ fun later same => ?_
        rw [← upcoming_congr same] at noBetween noWithin noLike
        refine testingWord_other ?_
        cases token : (upcoming later).token with
        | keyword word => cases word <;> simp_all [beginsWordedTest]
        | _ => rfl

/-- What tests the left side of a predicate is read as such when sums on shorter inputs are. -/
theorem testing_keepsTo (left : Expr) {input : List Lexeme}
    (sum : ∀ rest, rest.length < input.length →
      (reading (.chain .sum)).KeepsTo (Derives (.chain .sum)) rest) :
    (testing left).KeepsTo (Prolongs (.chain .sum) .predicate left) input := by
  -- A test is told by its first token; without one the left side is the whole predicate.
  by_cases tests : beginsTest (upcoming input).token = true
  · rcases input with _ | ⟨⟨token, offset⟩, rest⟩
    · simp [upcoming, beginsTest, comparison?, beginsWordedTest] at tests
    · by_cases is : token = .keyword .is
      · subst is
        refine .after_token (by simp) ((testingNull_keepsTo left rest).mono ?_)
          fun later _ => testing_is left offset later
        intro tokens tree found lefts derived
        obtain ⟨negated, rfl, rfl⟩ := found
        exact .isNull negated derived
      · by_cases not : token = .keyword .not
        · subst not
          refine .after_token (by simp) (.map (testingWord_keepsTo left fun later shorter => ?_) ?_)
            fun later _ => testing_not left offset later
          · exact sum later (by simp only [List.length_cons]; omega)
          · exact fun tokens tree tests lefts derived => tests lefts true derived
        · cases sign : comparison? token with
          | some compare =>
            refine .after_token (ne_endOfInput_of_comparison sign) (.map (sum rest (by simp)) ?_)
              fun later _ => testing_comparison sign
            exact fun tokens right derivedRight lefts derived =>
              derived.comparison sign derivedRight
          | none =>
            have word : beginsWordedTest token = true := by
              simpa [upcoming, beginsTest, is, not, sign] using tests
            refine .congr ((testingWord_keepsTo left sum).mono ?_) fun later same => ?_
            · exact fun tokens tree tests lefts derived => tests lefts false derived
            · exact testing_word (upcoming_congr same ▸ word)
  · refine .of_ok (.nil fun _ derived => .sum derived) fun later same => testing_other ?_
    rw [upcoming_congr same]
    simpa using tests

/-- What follows the operands of a chain is read as such when operands on shorter inputs are. -/
theorem extending_keepsTo {chain : Chain} {input : List Lexeme}
    (operand : ∀ rest, rest.length < input.length →
      (reading chain.operand).KeepsTo (Derives chain.operand) rest) (left : Expr) :
    (extending chain left).KeepsTo (Prolongs (.chain chain) (.chain chain) left) input := by
  -- Each token that joins takes one more operand, and the induction is on what is left then.
  cases ends : chain.join? (upcoming input).token with
  | none =>
    exact .of_ok (.nil fun _ derived => derived) fun later same =>
      extending_other (by rw [upcoming_congr same, ends])
  | some join =>
    cases input with
    | nil => cases chain <;> cases ends
    | cons lexeme rest =>
      have ends : chain.join? lexeme.token = some join := ends
      refine .after_token (ne_endOfInput_of_join ends) (.bind (operand rest (by simp))
        (Q := fun right => Prolongs (.chain chain) (.chain chain) (join left right))
        (fun right more found => ?_) ?_ fun right => ⟨_, _, .nil fun _ derived => derived⟩)
        fun later _ => extending_join ends
      · have shorter := length_lt_of_reading found
        exact extending_keepsTo (fun later _ => operand later (by simp; omega)) (join left right)
      · intro rights right more tree derivedRight prolongs lefts derived
        simpa using prolongs _ (derived.join ends derivedRight)
termination_by input.length
decreasing_by
  subst_vars
  simp only [List.length_cons]
  omega

/-- Reading a phrase of a rank keeps to the phrases of that rank and to their trees. -/
theorem reading_keepsTo (rank : Rank) (input : List Lexeme) :
    (reading rank).KeepsTo (Derives rank) input := by
  -- Ranks call tighter ranks on the same input, and looser ones only on shorter inputs.
  match rank with
  | .chain chain =>
    rw [reading_chain]
    refine .bind (reading_keepsTo chain.operand input)
      (Q := Prolongs (.chain chain) (.chain chain)) (fun first rest found => ?_)
      (fun tokens first more tree operand prolongs => prolongs tokens operand.operand)
      fun first => ⟨_, _, .nil fun _ derived => derived⟩
    have shorter := length_lt_of_reading found
    exact extending_keepsTo (fun later _ => reading_keepsTo chain.operand later) first
  | .negation =>
    rcases upcoming_cases (.keyword .not) (by simp) input with ⟨offset, rest, rfl⟩ | other
    · exact .after_token (by simp)
        (.map (reading_keepsTo .negation rest) fun _ _ operand => .not operand)
        fun later _ => reading_negation_not offset later
    · exact .congr ((reading_keepsTo .predicate input).mono fun _ _ derived => .predicate derived)
        fun later same => reading_negation_other (upcoming_congr same ▸ other)
  | .predicate =>
    rw [reading_predicate]
    refine .bind (reading_keepsTo (.chain .sum) input)
      (Q := Prolongs (.chain .sum) .predicate) (fun first rest found => ?_)
      (fun tokens first more tree sum prolongs => prolongs tokens sum)
      fun first => ⟨_, _, .nil fun _ derived => .sum derived⟩
    have shorter := length_lt_of_reading found
    exact testing_keepsTo first fun later _ => reading_keepsTo (.chain .sum) later
  | .unary =>
    exact unary_keepsTo (fun rest _ => reading_keepsTo .unary rest) (reading_keepsTo .primary input)
  | .primary => exact primary_keepsTo fun rest _ => reading_keepsTo (.chain .or) rest
termination_by input.length * 10 + rank.height
decreasing_by
  all_goals subst_vars
  · exact Nat.add_lt_add_left chain.height_operand_lt _
  · cases chain <;> simp [Rank.height, Chain.operand] <;> omega
  all_goals simp [Rank.height]
  all_goals omega

end Phrase

end MessageSelector
