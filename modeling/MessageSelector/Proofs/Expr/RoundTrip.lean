import MessageSelector.Proofs.Distinct
import MessageSelector.Proofs.Expr.Canonical
import MessageSelector.Proofs.Phrase.Acceptance
import MessageSelector.Proofs.Token.Rendering
import MessageSelector.Regex.Plain

/-! Canonical trees are exactly those that read back from how they are written. -/

namespace MessageSelector

namespace Expr

/-- The members of a set are read in their order, with commas between them. -/
theorem renders_writtenMembers (first : String) (more : List String) :
    Renders (writtenMembers (first :: more)).toList (.string first :: commaStrings more) := by
  -- The first member has no comma before it, and each of the others has one.
  induction more generalizing first with
  | nil => simpa [writtenMembers, commaStrings] using Renders.quoted first
  | cons second more ih =>
    have renders := (Renders.quoted first).listed (ih second)
    simpa [writtenMembers, commaStrings] using renders

section

variable [Regex.Engine]

/-- The text is read as tokens that make up a unary phrase for the tree. -/
def Reads (tree : Expr) (text : List Char) : Prop :=
  ∃ tokens, Renders text tokens ∧ Derives .unary tokens tree

namespace Reads

/-- A phrase between brackets can stand wherever an operand can. -/
theorem bracketed {tree : Expr} {text : List Char} {tokens : List Token}
    (renders : Renders text tokens) (derived : Derives (.chain .or) tokens tree) :
    tree.Reads ('(' :: (text ++ [')'])) :=
  -- The rule for brackets belongs to the tightest rank.
  ⟨_, renders.bracketed, .primary (.brackets derived)⟩

/-- An operator between two operands is read from the blanks around it. -/
theorem operator {left right tree : Expr} {lefts rights signs : List Char} {token : Token}
    (first : left.Reads lefts) (sign : Renders signs [token]) (second : right.Reads rights)
    (joined : ∀ tokens others, Derives .unary tokens left → Derives .unary others right →
      Derives (.chain .or) (tokens ++ token :: others) tree) :
    tree.Reads ('(' :: (lefts ++ ' ' :: (signs ++ ' ' :: rights) ++ [')'])) := by
  obtain ⟨tokens, rendersLeft, derivedLeft⟩ := first
  obtain ⟨others, rendersRight, derivedRight⟩ := second
  -- Blanks stand on both sides of the sign, so no token runs into the next.
  have renders := rendersLeft.spaced (sign.spaced rendersRight)
  exact bracketed renders (joined tokens others derivedLeft derivedRight)

/-- A number is read from its text, in which a minus is a token of its own. -/
theorem number {numeral : Numeral} {text : String} {constant : Literal}
    (writes : numeral.Writes text) (made : Literal.ofNumeral text = .ok constant) :
    (literal constant).Reads text.toList := by
  -- The digits are one token, whether a minus stands before them or not.
  have spells := Spells.number numeral
  have digits : Renders numeral.text [.number (String.ofList numeral.text)] :=
    .single spells
  rcases writes with bare | minus
  · have same : text = String.ofList numeral.text := by rw [← bare, String.ofList_toList]
    rw [bare]
    exact ⟨_, digits, .primary (.number (same ▸ made))⟩
  · -- The sign and the number are read as one literal.
    have same : text = "-" ++ String.ofList numeral.text := by
      rw [← String.toList_inj, minus]
      simp
    rw [minus]
    exact ⟨_, digits.minus, .signedNumber (same ▸ made)⟩

/-- A canonical literal is read from its text. -/
theorem literal {constant : Literal} (canonical : constant.Canonical) :
    (Expr.literal constant).Reads constant.text.toList := by
  -- Each kind of literal is written as one token, but for the sign of a number.
  cases constant with
  | boolean flag =>
    cases flag with
    | true => exact ⟨_, .keyword .yes, .primary .yes⟩
    | false => exact ⟨_, .keyword .no, .primary .no⟩
  | string content => exact ⟨_, .quoted content, .primary (.string content)⟩
  | long text value reads =>
    obtain ⟨numeral, long, writes⟩ := canonical
    exact number writes (Literal.ofNumeral_of_isLong long writes reads)
  | double text value reads =>
    obtain ⟨numeral, double, writes⟩ := canonical
    exact number writes (Literal.ofNumeral_of_isDouble double writes reads)

/-- An arithmetic node is read from its operands and its sign. -/
theorem arithmetic {left right : Expr} {lefts rights : List Char} (op : Arithmetic)
    (first : left.Reads lefts) (second : right.Reads rights) :
    (Expr.arithmetic op left right).Reads
      ('(' :: (lefts ++ ' ' :: (op.text.toList ++ ' ' :: rights) ++ [')'])) := by
  -- The left operand opens a chain, and the right one is joined to it.
  cases op with
  | add =>
    refine first.operator (.mark .plus) second fun tokens others derived derivedRight => ?_
    have whole := Derives.add (derived.loosen .sum) (.unary derivedRight)
    exact .condition (.sum whole)
  | subtract =>
    refine first.operator (.mark .minus) second fun tokens others derived derivedRight => ?_
    have whole := Derives.subtract (derived.loosen .sum) (.unary derivedRight)
    exact .condition (.sum whole)
  | multiply =>
    refine first.operator (.mark .star) second fun tokens others derived derivedRight => ?_
    have whole := Derives.multiply (.unary derived) derivedRight
    exact .condition (.sum (.product whole))
  | divide =>
    refine first.operator (.mark .slash) second fun tokens others derived derivedRight => ?_
    have whole := Derives.divide (.unary derived) derivedRight
    exact .condition (.sum (.product whole))

/-- An equality is read in the family that its operands call for. -/
theorem equality {left right tree : Expr} {lefts rights : List Char}
    (equates : Equates left right tree) (first : left.Reads lefts) (second : right.Reads rights) :
    tree.Reads ('(' :: (lefts ++ ' ' :: ('=' :: ' ' :: rights) ++ [')'])) := by
  refine first.operator (.mark .equal) second fun tokens others derived derivedRight => ?_
  -- Operands of an equality are sums, and every unary is one.
  have whole := Derives.equal (derived.loosen .sum)
    (derivedRight.loosen .sum) equates
  exact .condition whole

/-- An order of two numbers is read from its sign. -/
theorem order {left right : Expr} {lefts rights : List Char} {sign : Mark} {op : Comparison}
    (orders : Orders sign op) (first : left.Reads lefts) (second : right.Reads rights) :
    (Expr.compare op left right).Reads
      ('(' :: (lefts ++ ' ' :: (op.text.toList ++ ' ' :: rights) ++ [')'])) := by
  -- An order is written with the sign that it is read from.
  have same : op.text = sign.text := by cases orders <;> rfl
  rw [same]
  refine first.operator (.mark sign) second fun tokens others derived derivedRight => ?_
  have whole := Derives.order (derived.loosen .sum) orders
    (derivedRight.loosen .sum)
  exact .condition whole

/-- Two conditions are read with the word that joins them. -/
theorem connect {left right : Expr} {lefts rights : List Char} (op : Connective)
    (first : left.Reads lefts) (second : right.Reads rights) :
    (Expr.connect op left right).Reads
      ('(' :: (lefts ++ ' ' :: (op.text.toList ++ ' ' :: rights) ++ [')'])) := by
  -- The word joins two operands of the chain that it belongs to.
  cases op with
  | and =>
    refine first.operator (.keyword .and) second fun tokens others derived derivedRight => ?_
    exact .conjunction (.and (derived.loosen .and) derivedRight.negation_of_unary)
  | or =>
    refine first.operator (.keyword .or) second fun tokens others derived derivedRight => ?_
    exact .or (derived.loosen .or)
      (derivedRight.loosen .and)

/-- The negation of a condition is read from the word NOT. -/
theorem not {operand : Expr} {text : List Char} (reads : operand.Reads text) :
    (Expr.not operand).Reads ('(' :: ("NOT".toList ++ ' ' :: text ++ [')'])) := by
  obtain ⟨tokens, renders, derived⟩ := reads
  -- The word stands in front of a negation, and the bracketed operand is one.
  have whole := Derives.not derived.negation_of_unary
  exact bracketed ((Renders.keyword .not).spaced renders) (.conjunction (.negation whole))

/-- A range test is read with the word AND between its bounds. -/
theorem between {value lower upper : Expr} {values lowers uppers : List Char}
    (first : value.Reads values) (second : lower.Reads lowers) (third : upper.Reads uppers) :
    (Expr.between value lower upper).Reads
      ('(' :: (values ++ ' ' :: ("BETWEEN".toList ++ ' ' :: (lowers ++ ' ' ::
        ("AND".toList ++ ' ' :: uppers))) ++ [')'])) := by
  obtain ⟨_, rendersValue, derivedValue⟩ := first
  obtain ⟨_, rendersLower, derivedLower⟩ := second
  obtain ⟨_, rendersUpper, derivedUpper⟩ := third
  -- The lower bound is a sum and ends before AND, which thus belongs to the test.
  have renders := rendersValue.spaced ((Renders.keyword .between).spaced
    (rendersLower.spaced ((Renders.keyword .and).spaced rendersUpper)))
  have whole := Derives.between false (derivedValue.loosen .sum)
    (derivedLower.loosen .sum) (derivedUpper.loosen .sum)
  refine bracketed renders (.condition ?_)
  simpa [notWord, negatedIf] using whole

/-- A test for a missing value is read from its two words. -/
theorem isNull {operand : Expr} {text : List Char} (reads : operand.Reads text) :
    (Expr.isNull operand).Reads
      ('(' :: (text ++ ' ' :: ("IS".toList ++ ' ' :: "NULL".toList) ++ [')'])) := by
  obtain ⟨tokens, rendersOperand, derived⟩ := reads
  have renders := rendersOperand.spaced ((Renders.keyword .is).spaced (.keyword .null))
  -- The two words follow a sum, and the operand is one.
  have whole := Derives.isNull false (derived.loosen .sum)
  exact bracketed renders (.condition whole)

/-- A membership test is read from the members of its set, of which there is at least one. -/
theorem within {operand : Expr} {text : List Char} {set : StringSet} (some : set.members ≠ [])
    (reads : operand.Reads text) :
    (Expr.within operand set).Reads
      ('(' :: (text ++ ' ' :: ("IN".toList ++ ' ' ::
        ('(' :: ((writtenMembers set.members).toList ++ [')']))) ++ [')'])) := by
  obtain ⟨tokens, rendersOperand, derived⟩ := reads
  obtain ⟨members, nodup⟩ := set
  -- Without members there would be nothing between the brackets to read.
  cases members with
  | nil => exact absurd rfl some
  | cons first more =>
    have renders := rendersOperand.spaced ((Renders.keyword .within).spaced
      (renders_writtenMembers first more).bracketed)
    have whole := Derives.within false first more (derived.loosen .sum)
    -- No member comes twice, so all of them are kept.
    have same : StringSet.ofList (first :: more) = ⟨first :: more, nodup⟩ := by
      simp only [StringSet.ofList, firstOccurrences_of_nodup nodup]
    rw [same] at whole
    refine bracketed renders (.condition ?_)
    simpa [notWord, negatedIf] using whole

/-- A pattern test is read from its pattern and its escape clause. -/
theorem like {operand : Expr} {text : List Char} (pattern : LikePattern)
    (visible : pattern.escape.all (fun c => !isBlank c) = true) (reads : operand.Reads text) :
    (Expr.like operand pattern visible).Reads
      ('(' :: (text ++ ' ' :: ("LIKE".toList ++ ' ' ::
        ((quoted pattern.text).toList ++ (writtenEscape pattern.escape).toList)) ++ [')'])) := by
  obtain ⟨tokens, rendersOperand, derived⟩ := reads
  -- The escape clause is written only where the pattern has an escape character.
  have words : Renders ((quoted pattern.text).toList ++ (writtenEscape pattern.escape).toList)
      (.string pattern.text :: escapeWords (pattern.escape.map String.singleton)) := by
    cases pattern.escape with
    | none => simpa [writtenEscape, escapeWords] using Renders.quoted pattern.text
    | some c =>
      have clause := (Renders.keyword .escape).spaced (.quoted (String.singleton c))
      have renders := (Renders.quoted pattern.text).spaced clause
      simpa [writtenEscape, escapeWords, Keyword.text] using renders
  have renders := rendersOperand.spaced ((Renders.keyword .like).spaced words)
  have whole := Derives.like false pattern.text (pattern.escape.map String.singleton)
    (derived.loosen .sum) (patternTest_text operand pattern visible)
  exact bracketed renders (.condition whole)

/-- A minus before an operand is read as its negation, unless a number follows it. -/
theorem negate {operand : Expr} {text : List Char} {tokens : List Token}
    (renders : Renders text tokens) (derived : Derives .unary tokens operand)
    (noNumber : ¬BeginsWithNumber tokens) :
    (Expr.negate operand).Reads ('(' :: ('-' :: text ++ [')'])) :=
  -- A minus before a number would become a part of it, so the operand must not begin with one.
  bracketed renders.minus ((Derives.minus derived noNumber).loosen .or)

/-- Only a literal begins with a number. -/
theorem eq_literal_of_number {text : String} {rest : List Token} {tree : Expr}
    (derived : Derives .unary (.number text :: rest) tree) :
    ∃ constant, tree = .literal constant := by
  -- No sign stands in front, so the number is all of a primary phrase.
  cases derived with
  | primary derived =>
    cases derived with
    | number => exact ⟨_, rfl⟩

/-- A negation is read from how it is written, in which a literal stands between brackets. -/
theorem negate_written {operand : Expr} (reads : operand.Reads operand.written.toList) :
    (Expr.negate operand).Reads (Expr.negate operand).written.toList := by
  obtain ⟨tokens, renders, derived⟩ := reads
  cases operand with
  | literal constant =>
    -- The brackets keep the minus from being the sign of the literal.
    have inner := derived.loosen .or
    have whole := negate renders.bracketed (.primary (.brackets inner)) (by simp [BeginsWithNumber])
    simpa [written] using whole
  | _ =>
    -- Any other operand is no literal, so its text does not begin with a number.
    have noNumber : ¬BeginsWithNumber tokens := by
      intro number
      obtain ⟨text, rest, rfl⟩ := number
      obtain ⟨constant, same⟩ := eq_literal_of_number derived
      cases same
    have whole := negate renders derived noNumber
    simpa [written] using whole

end Reads

/-- A canonical tree is read from how it is written. -/
theorem reads_written {tree : Expr} (canonical : tree.Canonical) :
    tree.Reads tree.written.toList := by
  -- Every node is written in brackets, so that its text is an operand for the node around it.
  induction tree with
  | literal constant => exact .literal canonical
  | reference identifier =>
    exact ⟨_, .single (Identifier.spells canonical), .primary (.reference identifier)⟩
  | arithmetic op left right ihLeft ihRight =>
    have reads := Reads.arithmetic op (ihLeft canonical.1) (ihRight canonical.2)
    simpa [written] using reads
  | negate operand ih => exact .negate_written (ih canonical)
  | compare op left right ihLeft ihRight =>
    cases op with
    | equal =>
      have reads := Reads.equality canonical.1 (ihLeft canonical.2.1) (ihRight canonical.2.2)
      simpa [written, Comparison.text] using reads
    | greater =>
      have reads := Reads.order .greater (ihLeft canonical.1) (ihRight canonical.2)
      simpa [written] using reads
    | greaterEqual =>
      have reads := Reads.order .greaterEqual (ihLeft canonical.1) (ihRight canonical.2)
      simpa [written] using reads
    | less =>
      have reads := Reads.order .less (ihLeft canonical.1) (ihRight canonical.2)
      simpa [written] using reads
    | lessEqual =>
      have reads := Reads.order .lessEqual (ihLeft canonical.1) (ihRight canonical.2)
      simpa [written] using reads
  | connect op left right ihLeft ihRight =>
    have reads := Reads.connect op (ihLeft canonical.1) (ihRight canonical.2)
    simpa [written] using reads
  | not operand ih =>
    have reads := Reads.not (ih canonical)
    simpa [written] using reads
  | equal family left right ihLeft ihRight =>
    have reads := Reads.equality canonical.1 (ihLeft canonical.2.1) (ihRight canonical.2.2)
    simpa [written] using reads
  | between value lower upper ihValue ihLower ihUpper =>
    have reads := Reads.between (ihValue canonical.1) (ihLower canonical.2.1)
      (ihUpper canonical.2.2)
    simpa [written] using reads
  | within operand set ih =>
    have reads := Reads.within canonical.1 (ih canonical.2)
    simpa [written] using reads
  | like operand pattern visible ih =>
    have reads := Reads.like pattern visible (ih canonical)
    simpa [written] using reads
  | isNull operand ih =>
    have reads := Reads.isNull (ih canonical)
    simpa [written] using reads

/-- A text whose tokens make up a condition is a selector with the tree of the condition. -/
theorem ofText_of_renders {tree : Expr} {text : String} {tokens : List Token}
    (renders : Renders text.toList tokens) (derived : Derives (.chain .or) tokens tree) :
    ofText text = .ok tree := by
  -- The text is read as tokens, and the tokens as the tree.
  obtain ⟨lexemes, lexed, same⟩ := renders.lexes 0
  have read : tokenize text = .ok lexemes := Cursor.lexemes_eq_ok_iff.2 lexed
  rw [ofText, read]
  exact ofLexemes_of_derivesSelector ⟨tokens, same, derived⟩

/-- A text that is read as a unary phrase alone is a selector with the tree of the phrase. -/
theorem ofText_of_reads {tree : Expr} {text : String} (reads : tree.Reads text.toList) :
    ofText text = .ok tree := by
  -- The tokens of the text derive the tree as a condition.
  obtain ⟨tokens, renders, derived⟩ := reads
  exact ofText_of_renders renders (derived.loosen .or)

/-- The tokens of a selector up to its end make up a condition with the tree that is read. -/
theorem exists_derives_of_ofText {text : String} {tree : Expr} (read : ofText text = .ok tree) :
    ∃ lexemes body, Lexed (Cursor.start text) lexemes ∧ tokensOf lexemes = body ++ [.endOfInput] ∧
      Derives (.chain .or) body tree := by
  unfold ofText at read
  -- A text is read only after all of its tokens have been, so both steps succeeded.
  cases found : tokenize text with
  | error error =>
    rw [found] at read
    cases read
  | ok lexemes =>
    rw [found] at read
    have lexed := Cursor.lexemes_eq_ok_iff.1 found
    obtain ⟨body, same, derived⟩ := derivesSelector_of_ofLexemes lexed.ended read
    exact ⟨lexemes, body, lexed, same, derived⟩

/-- What is read of a text is canonical, since each of its tokens is spelled there. -/
theorem canonical_of_ofText {text : String} {tree : Expr} (read : ofText text = .ok tree) :
    tree.Canonical := by
  obtain ⟨lexemes, body, lexed, same, derived⟩ := exists_derives_of_ofText read
  refine canonical_of_derives derived fun token held => ?_
  have placed : token ∈ tokensOf lexemes := by
    rw [same]
    exact List.mem_append_left _ held
  -- The end of the input is the only token without a spelling.
  rcases lexed.exists_spells token placed with rfl | spelled
  · exact absurd held derived.endOfInput_notMem
  · exact spelled

/-- What is read of a text is written in a way that reads back as the same tree, and which is then
written in the same way again. -/
theorem ofText_written_of_ofText {text : String} {tree : Expr} (read : ofText text = .ok tree) :
    ofText tree.written = .ok tree ∧ (ofText tree.written).map written = .ok tree.written := by
  -- What is read is canonical, and what is canonical reads back.
  have again := ofText_of_reads (reads_written (canonical_of_ofText read))
  refine ⟨again, ?_⟩
  rw [again]
  rfl

end

/-- The brackets in `a <> -(5)` keep the minus from the number, and do so again when written. -/
theorem ofText_written_negation :
    let tree : Expr := .not (.compare .equal (.reference ⟨"a", by decide, by decide⟩)
      (.negate (.literal (.long "5" 5 (by decide)))))
    ofText "a <> -(5)" = .ok tree ∧ ofText "(NOT (a = (-(5))))" = .ok tree := by
  intro tree
  have lexed : Lexed (Cursor.start "a <> -(5)") [⟨.identifier "a", 0⟩, ⟨.mark .notEqual, 2⟩,
      ⟨.mark .minus, 5⟩, ⟨.mark .openBracket, 6⟩, ⟨.number "5", 7⟩, ⟨.mark .closeBracket, 8⟩,
      ⟨.endOfInput, 9⟩] :=
    .token rfl rfl (.token rfl rfl (.token rfl rfl (.token rfl rfl (.token rfl rfl
      (.token rfl rfl (.done rfl))))))
  -- The inequality is a negated equality, and the brackets keep the minus apart from the number.
  have name : Derives .unary [.identifier "a"] (.reference ⟨"a", by decide, by decide⟩) :=
    .primary (.reference ⟨"a", by decide, by decide⟩)
  have five : Derives .unary [.number "5"] (.literal (.long "5" 5 (by decide))) :=
    .primary (.number rfl)
  have inner := five.loosen .or
  have negated := Derives.minus (.primary (.brackets inner))
    (by simp [BeginsWithNumber])
  have equates := Derives.notEqual (name.loosen .sum)
    (negated.loosen .sum) (equates_iff.2 rfl)
  have read : ofText "a <> -(5)" = .ok tree := by
    rw [ofText, tokenize, Cursor.lexemes_eq_ok_iff.2 lexed]
    exact ofLexemes_of_derivesSelector ⟨_, rfl, .condition equates⟩
  exact ⟨read, (ofText_written_of_ofText read).1⟩

section

variable [Regex.Engine]

/-- A tree reads back from how it is written exactly when it is canonical. -/
theorem ofText_written_iff (tree : Expr) : ofText tree.written = .ok tree ↔ tree.Canonical := by
  -- Trees that were read are canonical, and canonical trees are read from their rendering.
  constructor
  · exact canonical_of_ofText
  · intro canonical
    exact ofText_of_reads (reads_written canonical)

end

end Expr

end MessageSelector
