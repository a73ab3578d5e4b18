import MessageSelector.Proofs.Expr.NumberText
import MessageSelector.Proofs.Phrase.Grammar
import MessageSelector.Proofs.Token.Spelling

/-! Canonical trees: those whose leaves can be written in a text and whose equalities are typed. -/

namespace MessageSelector

/-- A minus before the text of a number writes the number. -/
theorem Expr.writes_minus (numeral : Numeral) :
    numeral.Writes ("-" ++ String.ofList numeral.text) := by
  -- This is the second of the two ways to write a number.
  refine .inr ?_
  simp

variable [Regex.Engine]

/-- Every name, number text, set and equality of the tree is one that a selector could hold. -/
def Expr.Canonical : Expr → Prop
  -- A comparison for equality must be the one that the types of its operands call for.
  | literal constant => constant.Canonical
  | reference identifier => IsWord identifier.name
  | arithmetic _ left right | connect _ left right => left.Canonical ∧ right.Canonical
  | compare .equal left right =>
    Equates left right (.compare .equal left right) ∧ left.Canonical ∧ right.Canonical
  | compare _ left right => left.Canonical ∧ right.Canonical
  | equal family left right =>
    Equates left right (.equal family left right) ∧ left.Canonical ∧ right.Canonical
  | negate operand | not operand | like operand _ _ | isNull operand => operand.Canonical
  | between value lower upper => value.Canonical ∧ lower.Canonical ∧ upper.Canonical
  | within operand set => set.members ≠ [] ∧ operand.Canonical

namespace Expr

/-- An equality of canonical trees is canonical. -/
theorem canonical_of_equates {left right tree : Expr} (equates : Equates left right tree)
    (first : left.Canonical) (second : right.Canonical) : tree.Canonical := by
  -- The equality has the family that the rule gave it.
  cases equates with
  | strings string => exact ⟨.strings string, first, second⟩
  | booleans noString boolean => exact ⟨.booleans noString boolean, first, second⟩
  | names left right => exact ⟨.names left right, first, second⟩
  | numbers noString noBoolean number =>
    exact ⟨.numbers noString noBoolean number, first, second⟩

/-- A negated test is canonical when the test is. -/
theorem canonical_negatedIf {negated : Bool} {test : Expr} (canonical : test.Canonical) :
    (negatedIf negated test).Canonical := by
  -- A negation is as canonical as its operand.
  cases negated <;> exact canonical

/-- The tree of tokens that have spellings is canonical. -/
theorem canonical_of_derives {rank : Rank} {tokens : List Token} {tree : Expr}
    (derived : Derives rank tokens tree)
    (spelled : ∀ token ∈ tokens, ∃ spelling, Spells token spelling) : tree.Canonical := by
  -- The leaves are canonical since their tokens are spelled, and operators keep that up.
  induction derived with
  | conjunction _ ih | negation _ ih | predicate _ ih | sum _ ih | product _ ih | unary _ ih
  | primary _ ih => exact ih spelled
  | not _ ih | plus _ ih | minus _ _ ih =>
    exact ih fun token held => spelled token (List.mem_cons_of_mem _ held)
  | or _ _ ihLeft ihRight | and _ _ ihLeft ihRight | add _ _ ihLeft ihRight
  | subtract _ _ ihLeft ihRight | multiply _ _ ihLeft ihRight | divide _ _ ihLeft ihRight =>
    have first := ihLeft fun token held => spelled token (by simp [held])
    have second := ihRight fun token held => spelled token (by simp [held])
    exact ⟨first, second⟩
  | equal _ _ made ihLeft ihRight | notEqual _ _ made ihLeft ihRight =>
    have first := ihLeft fun token held => spelled token (by simp [held])
    have second := ihRight fun token held => spelled token (by simp [held])
    have equality := canonical_of_equates made first second
    exact equality
  | order _ sign _ ihLeft ihRight =>
    have first := ihLeft fun token held => spelled token (by simp [held])
    have second := ihRight fun token held => spelled token (by simp [held])
    cases sign <;> exact ⟨first, second⟩
  | between negated _ _ _ ihValue ihLower ihUpper =>
    have value := ihValue fun token held => spelled token (by simp [held])
    have lower := ihLower fun token held => spelled token (by simp [held])
    have upper := ihUpper fun token held => spelled token (by simp [held])
    exact canonical_negatedIf ⟨value, lower, upper⟩
  | within negated first more _ ih =>
    have operand := ih fun token held => spelled token (by simp [held])
    -- The set of a membership test is read with at least one string.
    exact canonical_negatedIf ⟨List.cons_ne_nil _ _, operand⟩
  | like negated pattern clause _ made ih =>
    have operand := ih fun token held => spelled token (by simp [held])
    -- Whatever the pattern is, only the operand can fail to be canonical.
    obtain ⟨pattern, visible, rfl, -⟩ := exists_pattern_of_patternTest made
    exact canonical_negatedIf operand
  | isNull negated _ ih =>
    have operand := ih fun token held => spelled token (by simp [held])
    exact canonical_negatedIf operand
  | signedNumber made =>
    -- The minus is no part of the spelling of the number, but of the text of the literal.
    obtain ⟨spelling, spells⟩ :=
      spelled (.number _) (List.mem_cons_of_mem _ (List.mem_singleton_self _))
    obtain ⟨numeral, rfl⟩ := spells.exists_numeral
    exact Literal.canonical_of_ofNumeral (writes_minus numeral) made
  | number made =>
    obtain ⟨spelling, spells⟩ := spelled _ (List.mem_singleton_self _)
    obtain ⟨numeral, rfl⟩ := spells.exists_numeral
    have writes : numeral.Writes (String.ofList numeral.text) := .inl String.toList_ofList
    exact Literal.canonical_of_ofNumeral writes made
  | string | yes | no => trivial
  | reference identifier =>
    obtain ⟨spelling, spells⟩ := spelled _ (List.mem_singleton_self _)
    exact spells.isWord
  | brackets _ ih => exact ih fun token held => spelled token (by simp [held])

end Expr

end MessageSelector
