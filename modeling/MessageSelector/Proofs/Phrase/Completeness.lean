import MessageSelector.Proofs.Phrase.Soundness

/-! Readers accept all of the grammar: each phrase that it derives is read as the tree of it. -/

namespace MessageSelector

namespace Phrase

/-- The further strings of a list are read up to where no comma follows. -/
theorem listingMore_commaStrings (items : List String) {placed rest : List Lexeme}
    (same : tokensOf placed = commaStrings items) (ends : (upcoming rest).token ≠ .mark .comma) :
    listingMore (placed ++ rest) = .ok (items, rest) := by
  -- Each item brings a comma and a string, and the others are left for the induction.
  induction items generalizing placed with
  | nil =>
    obtain rfl : placed = [] := List.map_eq_nil_iff.1 same
    exact listingMore_other ends
  | cons item more ih =>
    obtain ⟨offset, tail, rfl, sameTail⟩ := eq_cons_of_tokensOf same
    obtain ⟨place, left, rfl, sameLeft⟩ := eq_cons_of_tokensOf sameTail
    rw [List.cons_append, List.cons_append, listingMore_comma,
      Reader.bind_of_ok (expectingString_next _ _ _)]
    exact Reader.map_of_ok (ih sameLeft)

/-- A list of strings is read from its brackets. -/
theorem listing_brackets (first : String) (more : List String) {placed : List Lexeme}
    (rest : List Lexeme)
    (same : tokensOf placed =
      .mark .openBracket :: .string first :: (commaStrings more ++ [.mark .closeBracket])) :
    listing (placed ++ rest) = .ok (first :: more, rest) := by
  obtain ⟨offset, inner, rfl, sameInner⟩ := eq_cons_of_tokensOf same
  obtain ⟨place, tail, rfl, sameTail⟩ := eq_cons_of_tokensOf sameInner
  -- The strings stand between the first one and the closing bracket.
  obtain ⟨strings, last, closing, rfl, sameStrings, sameClosing⟩ :=
    eq_append_cons_of_tokensOf sameTail
  obtain rfl : closing = [] := List.map_eq_nil_iff.1 sameClosing
  rw [listing_eq, List.cons_append, List.cons_append, List.append_assoc,
    Reader.bind_of_ok (expecting_next _ _ _), Reader.bind_of_ok (expectingString_next _ _ _),
    Reader.bind_of_ok (listingMore_commaStrings more sameStrings (by simp [upcoming]))]
  exact Reader.map_of_ok (expecting_next _ _ _)

/-- The tokens of a phrase decide what comes next where it stands. -/
theorem upcoming_append {placed : List Lexeme} {tokens : List Token}
    (same : tokensOf placed = tokens) (nonempty : tokens ≠ []) (rest : List Lexeme) :
    tokens.head? = some (upcoming (placed ++ rest)).token := by
  subst same
  -- Placed tokens are never empty, so the next token is the first of them.
  cases placed with
  | nil => exact absurd rfl nonempty
  | cons lexeme more => rfl

variable [Regex.Engine]

/-- The token goes on with a phrase of the rank that could end before it. -/
def goesOn : Rank → Token → Bool
  | .chain chain, token => (chain.join? token).isSome || goesOn chain.operand token
  | .negation, token => goesOn .predicate token
  -- A pattern test without an escape clause would go on with one.
  | .predicate, token =>
    beginsTest token || token == .keyword .escape || goesOn (.chain .sum) token
  | .unary, _ => false
  | .primary, _ => false
termination_by rank => rank.height
decreasing_by
  · exact chain.height_operand_lt
  all_goals simp [Rank.height]

/-- What ends a chain joins no operands of it and ends its last operand. -/
theorem goesOn_chain {chain : Chain} {token : Token} :
    goesOn (.chain chain) token = false ↔
      chain.join? token = none ∧ goesOn chain.operand token = false := by
  -- The two ways to go on are a disjunction, so both of them have to fail.
  rw [goesOn, Bool.or_eq_false_iff, Option.isSome_eq_false_iff, Option.isNone_iff_eq_none]

/-- What ends a predicate begins no test and no escape clause, and ends a sum. -/
theorem goesOn_predicate {token : Token} :
    goesOn .predicate token = false ↔
      beginsTest token = false ∧ token ≠ .keyword .escape ∧ goesOn (.chain .sum) token = false := by
  -- The three ways to go on are a disjunction, so each of them has to fail.
  rw [goesOn.eq_3]
  simp [and_assoc]

/-- A token that joins the operands of a chain ends each of them. -/
theorem goesOn_operand_of_join {chain : Chain} {token : Token} {node : Expr → Expr → Expr}
    (joins : chain.join? token = some node) : goesOn chain.operand token = false := by
  -- Each of the six tokens joins operands of its own chain and of no tighter one.
  unfold Chain.join? at joins
  split at joins <;> cases joins <;>
    simp [goesOn, Chain.operand, Chain.join?, beginsTest, comparison?, beginsWordedTest]

/-- A token that begins a test ends the sum before it. -/
theorem goesOn_sum_of_beginsTest {token : Token} (tests : beginsTest token = true) :
    goesOn (.chain .sum) token = false := by
  -- Sums go on with the four signs of arithmetic only, and none of those begins a test.
  rw [goesOn_chain, Chain.operand, goesOn_chain, Chain.operand, goesOn]
  cases token with
  | mark sign => cases sign <;> simp_all [beginsTest, comparison?, beginsWordedTest, Chain.join?]
  | _ => simp [Chain.join?]

/-- The tokens are read as the tree wherever they stand, when what follows ends the phrase.

For a chain it is enough that its last operand is ended; the chain is then read on from there. -/
def ReadsAs (rank : Rank) (tokens : List Token) (tree : Expr) : Prop :=
  -- A chain may go on behind the tokens, so it is read up to the loop over its further operands.
  ∀ placed rest, tokensOf placed = tokens →
    match rank with
    | .chain chain => goesOn chain.operand (upcoming rest).token = false →
        reading (.chain chain) (placed ++ rest) = extending chain tree rest
    | rank => goesOn rank (upcoming rest).token = false →
        reading rank (placed ++ rest) = .ok (tree, rest)

namespace ReadsAs

/-- Where a phrase is ended it is read as a whole. -/
theorem whole {rank : Rank} {tokens : List Token} {tree : Expr} (reads : ReadsAs rank tokens tree)
    {placed rest : List Lexeme} (same : tokensOf placed = tokens)
    (ends : goesOn rank (upcoming rest).token = false) :
    reading rank (placed ++ rest) = .ok (tree, rest) := by
  -- A chain that no token joins to is at its end after the last operand.
  cases rank with
  | chain chain =>
    obtain ⟨noJoin, ends⟩ := goesOn_chain.1 ends
    rw [reads placed rest same ends, extending_other noJoin]
  | _ => exact reads placed rest same ends

/-- A single operand is read as a chain. -/
theorem operand {chain : Chain} {tokens : List Token} {tree : Expr}
    (reads : ReadsAs chain.operand tokens tree) : ReadsAs (.chain chain) tokens tree := by
  -- The operand is the first of a chain, which is read on after it.
  intro placed rest same ends
  rw [reading_chain, Reader.bind_of_ok (reads.whole same ends)]

/-- A chain is read on with each operand that is joined to it. -/
theorem join {chain : Chain} {token : Token} {node : Expr → Expr → Expr}
    {lefts rights : List Token} {left right : Expr} (joins : chain.join? token = some node)
    (first : ReadsAs (.chain chain) lefts left) (second : ReadsAs chain.operand rights right) :
    ReadsAs (.chain chain) (lefts ++ token :: rights) (node left right) := by
  -- The chain so far is read on at the token that joins, and so takes the next operand.
  intro placed rest same ends
  obtain ⟨one, offset, two, rfl, sameLefts, sameRights⟩ := eq_append_cons_of_tokensOf same
  rw [List.append_assoc, List.cons_append,
    first one (⟨token, offset⟩ :: (two ++ rest)) sameLefts (goesOn_operand_of_join joins),
    extending_join joins, Reader.bind_of_ok (second.whole sameRights ends)]

/-- A predicate is read as a sum and a test of it. -/
theorem test {tokens words : List Token} {left tree : Expr}
    (sum : ReadsAs (.chain .sum) tokens left) (begins : words.head?.any beginsTest = true)
    (tests : ∀ placed rest, tokensOf placed = words →
      goesOn .predicate (upcoming rest).token = false →
        testing left (placed ++ rest) = .ok (tree, rest)) :
    ReadsAs .predicate (tokens ++ words) tree := by
  intro placed rest same ends
  -- The sum before the test ends where the test begins.
  cases words with
  | nil => cases begins
  | cons word more =>
    obtain ⟨one, offset, two, rfl, sameTokens, sameWords⟩ := eq_append_cons_of_tokensOf same
    have begins : beginsTest word = true := begins
    have ended : goesOn (.chain .sum) (upcoming (⟨word, offset⟩ :: (two ++ rest))).token = false :=
      goesOn_sum_of_beginsTest begins
    rw [List.append_assoc, List.cons_append, reading_predicate,
      Reader.bind_of_ok (sum.whole sameTokens ended)]
    exact tests (⟨word, offset⟩ :: two) rest (by simp [sameWords]) ends

/-- A test with a word of its own is read with NOT before it or without. -/
theorem testWord {tokens words : List Token} {left tree : Expr} (negated : Bool)
    (sum : ReadsAs (.chain .sum) tokens left) (begins : words.head?.any beginsWordedTest = true)
    (tests : ∀ placed rest, tokensOf placed = words →
      goesOn .predicate (upcoming rest).token = false →
        testingWord left (placed ++ rest) = .ok (tree, rest)) :
    ReadsAs .predicate (tokens ++ (notWord negated ++ words)) (negatedIf negated tree) := by
  -- With NOT the test is negated, and without NOT the word itself begins it.
  cases negated with
  | true =>
    refine sum.test rfl fun placed rest same ends => ?_
    obtain ⟨offset, more, rfl, sameWords⟩ := eq_cons_of_tokensOf same
    rw [List.cons_append, testing_not]
    exact Reader.map_of_ok (tests more rest sameWords ends)
  | false =>
    cases words with
    | nil => cases begins
    | cons word later =>
      have begins : beginsWordedTest word = true := begins
      refine sum.test (by simp [notWord, beginsTest, begins]) fun placed rest same ends => ?_
      obtain ⟨offset, more, rfl, sameWords⟩ := eq_cons_of_tokensOf same
      rw [testing_word (by simpa [upcoming] using begins)]
      exact tests _ rest (by simp [sameWords]) ends

/-- A comparison is read as a sum, a sign and a sum. -/
theorem comparison {token : Token} {node : Expr → Expr → Expr} {lefts rights : List Token}
    {left right : Expr} (sign : comparison? token = some node)
    (first : ReadsAs (.chain .sum) lefts left) (second : ReadsAs (.chain .sum) rights right) :
    ReadsAs .predicate (lefts ++ token :: rights) (node left right) := by
  -- The right side is a sum, which ends where the predicate does.
  refine first.test (by simp [beginsTest, sign]) fun placed rest same ends => ?_
  obtain ⟨offset, more, rfl, sameRights⟩ := eq_cons_of_tokensOf same
  rw [List.cons_append, testing_comparison sign]
  exact Reader.map_of_ok (second.whole sameRights (goesOn_predicate.1 ends).2.2)

/-- A range test is read with the word AND between its bounds. -/
theorem between {values lowers uppers : List Token} {value lower upper : Expr} (negated : Bool)
    (first : ReadsAs (.chain .sum) values value) (second : ReadsAs (.chain .sum) lowers lower)
    (third : ReadsAs (.chain .sum) uppers upper) :
    ReadsAs .predicate
      (values ++ (notWord negated ++ .keyword .between :: lowers ++ .keyword .and :: uppers))
      (negatedIf negated (.between value lower upper)) := by
  rw [List.append_assoc, List.cons_append]
  refine first.testWord negated rfl fun placed rest same ends => ?_
  obtain ⟨offset, more, rfl, sameBounds⟩ := eq_cons_of_tokensOf same
  obtain ⟨one, place, two, rfl, sameLowers, sameUppers⟩ := eq_append_cons_of_tokensOf sameBounds
  -- The word AND joins no sums, so the lower bound ends before it.
  have ended : goesOn (.chain .sum) (upcoming (⟨.keyword .and, place⟩ :: (two ++ rest))).token =
      false := by
    simp [upcoming, goesOn, Chain.operand, Chain.join?]
  rw [List.cons_append, List.append_assoc, List.cons_append, testingWord_between,
    Reader.bind_of_ok (second.whole sameLowers ended), Reader.bind_of_ok (expecting_next _ _ _)]
  exact Reader.map_of_ok (third.whole sameUppers (goesOn_predicate.1 ends).2.2)

end ReadsAs

/-- A pattern test is read from its string and its escape clause. -/
theorem testingLike_words {left tree : Expr} {pattern : String} {clause : Option String}
    (offset : Nat) (made : patternTest left pattern clause = .ok tree)
    {placed rest : List Lexeme} (same : tokensOf placed = .string pattern :: escapeWords clause)
    (ends : (upcoming rest).token ≠ .keyword .escape) :
    testingLike left offset (placed ++ rest) = .ok (tree, rest) := by
  have test : patternTestAt left offset pattern clause = .ok tree := by
    rw [patternTestAt, made]
  obtain ⟨place, tail, rfl, sameTail⟩ := eq_cons_of_tokensOf same
  rw [List.cons_append]
  -- Without a clause the word ESCAPE must not follow, and with one it is read as a string.
  cases clause with
  | none =>
    obtain rfl : tail = [] := List.map_eq_nil_iff.1 sameTail
    rw [List.nil_append, testingLike_bare left offset place pattern ends]
    exact Reader.lift_of_ok test rest
  | some escape =>
    obtain ⟨word, string, rfl, sameString⟩ := eq_cons_of_tokensOf sameTail
    obtain ⟨last, rfl⟩ := eq_singleton_of_tokensOf sameString
    rw [List.cons_append, List.cons_append, List.nil_append, testingLike_escape,
      Reader.bind_of_ok (expectingString_next escape last rest)]
    exact Reader.lift_of_ok test rest

/-- No phrase as tight as a predicate begins with NOT. -/
theorem head_ne_not {rank : Rank} {tokens : List Token} {tree : Expr}
    (derived : Derives rank tokens tree) (tight : rank.height ≤ Rank.predicate.height) :
    tokens.head? ≠ some (.keyword .not) := by
  -- What stands in front decides, so long as it is not empty.
  have atHead {lefts : List Token} (more : List Token) (nonempty : lefts ≠ [])
      (other : lefts.head? ≠ some (.keyword .not)) :
      (lefts ++ more).head? ≠ some (.keyword .not) := by
    cases lefts with
    | nil => exact absurd rfl nonempty
    | cons token rest => exact other
  -- Every such phrase begins with a primary one, a sign or a bracket.
  induction derived with
  | conjunction | or | negation | and | not | predicate => simp [Rank.height] at tight
  | equal left right made ihLeft ihRight => exact atHead _ left.ne_nil (ihLeft (by decide))
  | notEqual left right made ihLeft ihRight => exact atHead _ left.ne_nil (ihLeft (by decide))
  | order left sign right ihLeft ihRight => exact atHead _ left.ne_nil (ihLeft (by decide))
  | between negated value lower upper ihValue => exact atHead _ value.ne_nil (ihValue (by decide))
  | within negated first more operand ih => exact atHead _ operand.ne_nil (ih (by decide))
  | like negated pattern clause operand made ih => exact atHead _ operand.ne_nil (ih (by decide))
  | isNull negated operand ih => exact atHead _ operand.ne_nil (ih (by decide))
  | add left right ihLeft ihRight => exact atHead _ left.ne_nil (ihLeft (by decide))
  | subtract left right ihLeft ihRight => exact atHead _ left.ne_nil (ihLeft (by decide))
  | multiply left right ihLeft ihRight => exact atHead _ left.ne_nil (ihLeft (by decide))
  | divide left right ihLeft ihRight => exact atHead _ left.ne_nil (ihLeft (by decide))
  | sum derived ih => exact ih (by decide)
  | product derived ih => exact ih (by decide)
  | unary derived ih => exact ih (by decide)
  | primary derived ih => exact ih (by decide)
  | _ => simp

/-- No primary phrase begins with a sign. -/
theorem head_ne_sign {tokens : List Token} {tree : Expr} (derived : Derives .primary tokens tree) :
    tokens.head? ≠ some (.mark .plus) ∧ tokens.head? ≠ some (.mark .minus) := by
  -- The rules for a primary are gone through by their first token.
  cases derived <;> simp

namespace ReadsAs

/-- A test for a missing value is read with NOT before NULL or without. -/
theorem isNull {tokens : List Token} {operand : Expr} (negated : Bool)
    (sum : ReadsAs (.chain .sum) tokens operand) :
    ReadsAs .predicate (tokens ++ .keyword .is :: (notWord negated ++ [.keyword .null]))
      (negatedIf negated (.isNull operand)) := by
  refine sum.test rfl fun placed rest same ends => ?_
  obtain ⟨offset, words, rfl, sameWords⟩ := eq_cons_of_tokensOf same
  rw [List.cons_append, testing_is]
  -- NOT stands before NULL here, and not before the test.
  cases negated with
  | true =>
    obtain ⟨place, null, rfl, sameNull⟩ := eq_cons_of_tokensOf sameWords
    obtain ⟨last, rfl⟩ := eq_singleton_of_tokensOf sameNull
    rw [List.cons_append, testingNull_not]
    exact Reader.map_of_ok (expecting_next _ _ _)
  | false =>
    obtain ⟨last, rfl⟩ := eq_singleton_of_tokensOf sameWords
    have noNot : (upcoming ([⟨.keyword .null, last⟩] ++ rest)).token ≠ .keyword .not := by
      simp [upcoming]
    rw [testingNull_other operand noNot]
    exact Reader.map_of_ok (expecting_next _ _ _)

/-- A phrase that does not begin with NOT is read as a negation of itself. -/
theorem predicate {tokens : List Token} {tree : Expr} (derived : Derives .predicate tokens tree)
    (reads : ReadsAs .predicate tokens tree) : ReadsAs .negation tokens tree := by
  intro placed rest same ends
  -- The reader asks for NOT first, which the phrase does not begin with.
  have head := upcoming_append same derived.ne_nil rest
  have noNot := head_ne_not derived (by decide)
  rw [reading_negation_other fun next => noNot (head.trans (congrArg some next))]
  exact reads.whole same (by rwa [goesOn] at ends)

/-- A minus before anything but a number negates it. -/
theorem minus {tokens : List Token} {tree : Expr} (derived : Derives .unary tokens tree)
    (noNumber : ¬BeginsWithNumber tokens) (reads : ReadsAs .unary tokens tree) :
    ReadsAs .unary (.mark .minus :: tokens) (.negate tree) := by
  intro placed rest same ends
  obtain ⟨offset, more, rfl, sameMore⟩ := eq_cons_of_tokensOf same
  have head := upcoming_append sameMore derived.ne_nil rest
  -- A number after the minus would be the first token of the operand.
  have other : ∀ text, (upcoming (more ++ rest)).token ≠ .number text := by
    intro text next
    obtain ⟨later, starts⟩ := List.head?_eq_some_iff.1 (head.trans (congrArg some next))
    exact noNumber ⟨text, later, starts⟩
  rw [List.cons_append, reading_unary_minus _ other]
  exact Reader.map_of_ok (reads.whole sameMore ends)

/-- A primary phrase is read where a sign could stand. -/
theorem primary {tokens : List Token} {tree : Expr} (derived : Derives .primary tokens tree)
    (reads : ReadsAs .primary tokens tree) : ReadsAs .unary tokens tree := by
  intro placed rest same ends
  -- The reader asks for a sign first, which the phrase does not begin with.
  have head := upcoming_append same derived.ne_nil rest
  obtain ⟨noPlus, noMinus⟩ := head_ne_sign derived
  rw [reading_unary_other (fun next => noPlus (head.trans (congrArg some next)))
    fun next => noMinus (head.trans (congrArg some next))]
  exact reads.whole same (by rw [goesOn])

/-- A primary phrase of one token is read wherever that token stands. -/
theorem single {token : Token} {tree : Expr}
    (reads : ∀ offset rest, reading .primary (⟨token, offset⟩ :: rest) = .ok (tree, rest)) :
    ReadsAs .primary [token] tree := by
  -- One token is placed as one lexeme, whose offset does not matter.
  intro placed rest same ends
  obtain ⟨offset, rfl⟩ := eq_singleton_of_tokensOf same
  exact reads offset rest

/-- A condition is read from its brackets. -/
theorem brackets {tokens : List Token} {tree : Expr} (reads : ReadsAs (.chain .or) tokens tree) :
    ReadsAs .primary (.mark .openBracket :: (tokens ++ [.mark .closeBracket])) tree := by
  intro placed rest same ends
  obtain ⟨offset, tail, rfl, sameTail⟩ := eq_cons_of_tokensOf same
  obtain ⟨inner, place, nothing, rfl, sameInner, empty⟩ := eq_append_cons_of_tokensOf sameTail
  obtain rfl : nothing = [] := List.map_eq_nil_iff.1 empty
  -- The closing bracket goes on with no phrase, so the condition ends before it.
  have ended : goesOn (.chain .or) (upcoming (⟨.mark .closeBracket, place⟩ :: rest)).token =
      false := by
    simp [upcoming, goesOn, Chain.operand, Chain.join?, beginsTest, comparison?, beginsWordedTest]
  rw [List.cons_append, List.append_assoc, List.cons_append, List.nil_append,
    reading_primary_bracket, Reader.bind_of_ok (reads.whole sameInner ended)]
  exact Reader.map_of_ok (expecting_next _ _ _)

end ReadsAs

/-- Every phrase of the grammar is read as the tree it stands for. -/
theorem readsAs_of_derives {rank : Rank} {tokens : List Token} {tree : Expr}
    (derived : Derives rank tokens tree) : ReadsAs rank tokens tree := by
  -- The readers follow the grammar, so there is one case for each of its productions.
  induction derived with
  | conjunction _ ih => exact .operand ih
  | negation _ ih => exact .operand ih
  | product _ ih => exact .operand ih
  | unary _ ih => exact .operand ih
  | or _ _ ihLeft ihRight =>
    -- The six operators of chains differ only in the token and in the node that it makes.
    have joins : Chain.join? .or (.keyword .or) = some (.connect .or) := rfl
    exact .join joins ihLeft ihRight
  | and _ _ ihLeft ihRight =>
    have joins : Chain.join? .and (.keyword .and) = some (.connect .and) := rfl
    exact .join joins ihLeft ihRight
  | add _ _ ihLeft ihRight =>
    have joins : Chain.join? .sum (.mark .plus) = some (.arithmetic .add) := rfl
    exact .join joins ihLeft ihRight
  | subtract _ _ ihLeft ihRight =>
    have joins : Chain.join? .sum (.mark .minus) = some (.arithmetic .subtract) := rfl
    exact .join joins ihLeft ihRight
  | multiply _ _ ihLeft ihRight =>
    have joins : Chain.join? .product (.mark .star) = some (.arithmetic .multiply) := rfl
    exact .join joins ihLeft ihRight
  | divide _ _ ihLeft ihRight =>
    have joins : Chain.join? .product (.mark .slash) = some (.arithmetic .divide) := rfl
    exact .join joins ihLeft ihRight
  | not _ ih =>
    intro placed rest same ends
    obtain ⟨offset, more, rfl, sameMore⟩ := eq_cons_of_tokensOf same
    rw [List.cons_append, reading_negation_not]
    exact Reader.map_of_ok (ih.whole sameMore ends)
  | predicate derived ih => exact .predicate derived ih
  | equal _ _ made ihLeft ihRight =>
    -- The tree of an equality is the one that the reader makes.
    obtain rfl := equates_iff.1 made
    have sign : comparison? (.mark .equal) = some .equality := rfl
    exact .comparison sign ihLeft ihRight
  | notEqual _ _ made ihLeft ihRight =>
    obtain rfl := equates_iff.1 made
    have sign : comparison? (.mark .notEqual) =
        some fun left right => .not (.equality left right) := rfl
    exact .comparison sign ihLeft ihRight
  | @order _ _ _ _ mark op _ ordered _ ihLeft ihRight =>
    have sign : comparison? (.mark mark) = some (.compare op) := by cases ordered <;> rfl
    exact .comparison sign ihLeft ihRight
  | between negated _ _ _ ihValue ihLower ihUpper => exact .between negated ihValue ihLower ihUpper
  | within negated first more _ ih =>
    refine ih.testWord negated rfl fun placed rest same ends => ?_
    obtain ⟨offset, list, rfl, sameList⟩ := eq_cons_of_tokensOf same
    rw [List.cons_append, testingWord_within]
    exact Reader.map_of_ok (listing_brackets first more rest sameList)
  | like negated pattern clause _ made ih =>
    refine ih.testWord negated rfl fun placed rest same ends => ?_
    obtain ⟨offset, words, rfl, sameWords⟩ := eq_cons_of_tokensOf same
    rw [List.cons_append, testingWord_like]
    exact testingLike_words offset made sameWords (goesOn_predicate.1 ends).2.1
  | isNull negated _ ih => exact ih.isNull negated
  | sum _ ih =>
    intro placed rest same ends
    -- What ends the predicate begins no test, so the sum is all of it.
    obtain ⟨noTest, -, ended⟩ := goesOn_predicate.1 ends
    rw [reading_predicate, Reader.bind_of_ok (ih.whole same ended), testing_other noTest]
  | plus _ ih =>
    intro placed rest same ends
    obtain ⟨offset, more, rfl, sameMore⟩ := eq_cons_of_tokensOf same
    rw [List.cons_append, reading_unary_plus]
    exact ih.whole sameMore ends
  | minus derived noNumber ih => exact .minus derived noNumber ih
  | signedNumber made =>
    -- The minus is taken together with the number.
    intro placed rest same ends
    obtain ⟨offset, more, rfl, sameMore⟩ := eq_cons_of_tokensOf same
    obtain ⟨place, rfl⟩ := eq_singleton_of_tokensOf sameMore
    exact (reading_unary_number offset place _ rest).trans
      (Reader.lift_of_ok (number_eq_ok_iff.2 ⟨_, made, rfl⟩) rest)
  | primary derived ih => exact .primary derived ih
  | number made =>
    refine .single fun offset rest => ?_
    rw [reading_primary_number]
    exact Reader.lift_of_ok (number_eq_ok_iff.2 ⟨_, made, rfl⟩) rest
  | string content => exact .single (reading_primary_string content)
  | yes => exact .single reading_primary_yes
  | no => exact .single reading_primary_no
  | reference identifier =>
    refine .single fun offset rest => ?_
    rw [reading_primary_identifier]
    exact Reader.lift_of_ok (reference_eq_ok_iff.2 ⟨identifier, rfl, rfl⟩) rest
  | brackets _ ih => exact ih.brackets

end Phrase

end MessageSelector
