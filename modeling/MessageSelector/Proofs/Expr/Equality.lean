import MessageSelector.Proofs.Expr.Information
import MessageSelector.Proofs.Phrase.Grammar
import MessageSelector.Regex.Plain

/-! Families of equalities: the family that an equality is given when it is read selects no more and
no less than the equality that looks at its values only when they are there. -/

namespace MessageSelector

/-- A string operand is a string. -/
theorem stringOperand_eq_some_iff {value : Option Value} {text : String} :
    stringOperand value = some text ↔ value = some (.string text) := by
  -- Of all kinds of values only a string has a text.
  rcases value with _ | (flag | number | content | truth) <;> simp [stringOperand, Value.string?]

/-- What a value forces on a comparison is never that it holds. -/
theorem ne_yes_of_comparisonOperand {value : Option Value} {forced : Truth}
    (settles : comparisonOperand value = .error forced) : forced ≠ .yes := by
  -- An operand that is no number settles a comparison as UNKNOWN or as FALSE.
  unfold comparisonOperand at settles
  split at settles <;> cases settles <;> decide

/-- A comparison goes on from numbers alone. -/
theorem exists_number_of_comparisonOperand {value : Option Value} {n : Float}
    (goesOn : comparisonOperand value = .ok n) :
    ∃ number : Number, value = some (.number number) ∧ number.toDouble = n := by
  -- Of the rules for operands, one leaves the comparison open.
  unfold comparisonOperand at goesOn
  split at goesOn <;> cases goesOn
  exact ⟨_, rfl, rfl⟩

/-- The ways in which two values are equal: as numbers, as strings, or as settled conditions. -/
inductive Value.Equals : Option Value → Option Value → Prop where
  -- A flag may come from a boolean or from a settled condition, so these two can be equal.
  | numbers {left right : Number} (same : (left.toDouble == right.toDouble) = true) :
    Equals (some (.number left)) (some (.number right))
  | strings (text : String) : Equals (some (.string text)) (some (.string text))
  | flags {left right : Option Value} {flag : Bool} (first : booleanOperand left = some flag)
    (second : booleanOperand right = some flag) : Equals left right

section

variable {left right : Option Value}

/-- Settled conditions are compared as flags. -/
theorem untypedEquality_of_flags {l r : Bool} (first : booleanOperand left = some l)
    (second : booleanOperand right = some r) : untypedEquality left right = .ofBool (l == r) := by
  unfold untypedEquality
  -- Nothing that is missing, unknown, a number or a string stands for a flag.
  split
  case h_1 | h_3 | h_5 | h_6 => cases first
  case h_2 | h_4 => cases second
  case h_7 => rw [first, second]

/-- The equality of values whose types are told late holds in exactly those ways. -/
theorem untypedEquality_eq_yes_iff :
    untypedEquality left right = .yes ↔ Value.Equals left right := by
  constructor
  · -- Each rule that can hold at all is one of the ways.
    intro holds
    unfold untypedEquality at holds
    split at holds
    case h_1 | h_2 | h_3 | h_4 => cases holds
    case h_5 l r => exact .numbers (Truth.ofBool_eq_yes_iff.1 holds)
    case h_6 l r =>
      have same : l = r := by simpa using holds
      rw [same]
      exact .strings r
    case h_7 =>
      -- The last rule is for flags, and without two of them it fails.
      split at holds
      · rename_i l r first second
        have same : l = r := by simpa using holds
        exact .flags first (same ▸ second)
      · cases holds
  · intro equals
    cases equals with
    | numbers same => simp [untypedEquality, same]
    | strings text => simp [untypedEquality]
    | flags first second => simp [untypedEquality_of_flags first second]

namespace Value.Equals

/-- Equal values of which one is a string are equal as strings. -/
theorem compute_strings (equals : Value.Equals left right)
    (string : Kind.string.Admits left ∨ Kind.string.Admits right) :
    Equality.strings.compute left right = .yes := by
  -- Neither a number nor a flag is a string.
  cases equals with
  | strings text => simp [Equality.compute, stringOperand, Value.string?, Truth.ofBoth]
  | numbers same => rcases string with other | other <;> cases other
  | flags first second =>
    rcases string with other | other <;> cases other
    · cases first
    · cases second

/-- Equal values of which one is a condition are equal as conditions. -/
theorem compute_booleans (equals : Value.Equals left right)
    (condition : Kind.boolean.Admits left ∨ Kind.boolean.Admits right) :
    Equality.booleans.compute left right = .yes := by
  -- Neither a number nor a string is a condition.
  cases equals with
  | flags first second => simp [Equality.compute, first, second, Truth.ofBoth]
  | numbers same => rcases condition with other | other <;> cases other
  | strings text => rcases condition with other | other <;> cases other

/-- Equal values of which one is a number or unknown are equal as numbers. -/
theorem outcome_equal (equals : Value.Equals left right)
    (number : Kind.numeric.Admits left ∨ Kind.numeric.Admits right) :
    Comparison.equal.outcome left right = .yes := by
  -- A string is no number, and an unknown condition is no flag.
  cases equals with
  | numbers same =>
    simp [Comparison.outcome, comparisonOperand, Comparison.compute, same]
  | strings text => rcases number with other | other <;> cases other
  | flags first second =>
    rcases number with other | other <;> cases other
    · cases first
    · cases first
    · cases second
    · cases second

end Value.Equals

/-- A test of two operands tells no more than an outcome that agrees with it on operands that are
there. -/
theorem Truth.ofBoth_approximates {α β : Type} {l : Option α} {r : Option β}
    {test : α → β → Bool} {truth : Truth}
    (agrees : ∀ {x y}, l = some x → r = some y → truth = .ofBool (test x y)) :
    (Truth.ofBoth l r test).Approximates truth := by
  unfold Truth.ofBoth
  -- Without two operands the outcome is UNKNOWN, which approximates every truth.
  split
  · rw [agrees rfl rfl]
    exact .same _
  · exact .unknown _

/-- What an equality of any family tells of two values, the untyped one tells too. -/
theorem Equality.compute_approximates (family : Equality) (left right : Option Value) :
    (family.compute left right).Approximates (untypedEquality left right) := by
  -- The untyped equality decides by the kinds it meets, and the others fix one kind beforehand.
  cases family with
  | untyped => exact .same _
  | strings =>
    refine Truth.ofBoth_approximates fun first second => ?_
    rw [stringOperand_eq_some_iff.1 first, stringOperand_eq_some_iff.1 second]
    rfl
  | booleans => exact Truth.ofBoth_approximates untypedEquality_of_flags

/-- Values that compare as equal are equal numbers. -/
theorem Comparison.equals_of_outcome (holds : Comparison.equal.outcome left right = .yes) :
    Value.Equals left right := by
  unfold Comparison.outcome at holds
  -- Neither side can have forced the outcome, so both of them are numbers.
  split at holds
  · rename_i forced settles
    exact absurd holds (ne_yes_of_comparisonOperand settles)
  · rename_i forced l settles
    exact absurd holds (ne_yes_of_comparisonOperand settles)
  · rename_i l r first second
    obtain ⟨l, rfl, rfl⟩ := exists_number_of_comparisonOperand first
    obtain ⟨r, rfl, rfl⟩ := exists_number_of_comparisonOperand second
    exact .numbers (Truth.ofBool_eq_yes_iff.1 holds)

end

namespace Expr

section

variable [Regex.Engine]

variable {left right tree : Expr} {mapping : Mapping}

/-- The outcome of an equality is that of its family for the values of its sides. -/
theorem truth_equal (family : Equality) (left right : Expr) (mapping : Mapping) :
    (equal family left right).truth mapping =
      family.compute (left.eval mapping) (right.eval mapping) :=
  -- The value of the equality is a truth already, so the condition is that truth.
  rfl

/-- The outcome of a comparison is told by the values of its sides. -/
theorem truth_compare (op : Comparison) (left right : Expr) (mapping : Mapping) :
    (compare op left right).truth mapping =
      op.outcome (left.eval mapping) (right.eval mapping) := by
  -- The value of the comparison is a truth already, so the condition is that truth.
  rw [truth, eval_eq_valueBy, eval_eq_valueBy, eval_eq_valueBy]
  rfl

/-- What an equality of any family settles, the untyped one settles alike. -/
theorem truth_untyped_of_family {family : Equality} {outcome : Truth}
    (told : (equal family left right).truth mapping = outcome) (settled : outcome ≠ .unknown) :
    (equal .untyped left right).truth mapping = outcome := by
  -- A settled truth is approximated by nothing but itself.
  subst told
  exact (family.compute_approximates _ _).eq_of_ne_unknown settled

/-- A side of a kind has a value that the kind admits. -/
theorem admits_eval_of_kind {kind : Kind} (side : left.kind = kind ∨ right.kind = kind)
    (mapping : Mapping) : kind.Admits (left.eval mapping) ∨ kind.Admits (right.eval mapping) := by
  -- The two sides are alike, so the soundness of kinds is used on the one that is given.
  rcases side with rfl | rfl
  · exact .inl (left.admits_evalWith mapping.provider ())
  · exact .inr (right.admits_evalWith mapping.provider ())

/-- An equality whose family finds all equal values of its sides holds where the untyped one
does. -/
theorem truth_equal_eq_yes_iff {family : Equality}
    (finds : Value.Equals (left.eval mapping) (right.eval mapping) →
      family.compute (left.eval mapping) (right.eval mapping) = .yes) :
    (equal family left right).truth mapping = .yes ↔
      (equal .untyped left right).truth mapping = .yes := by
  -- The untyped equality is never less settled, so only the way back has to be supplied.
  constructor
  · intro holds
    exact truth_untyped_of_family holds (by decide)
  · intro holds
    exact finds (untypedEquality_eq_yes_iff.1 holds)

/-- Whatever family an equality is given when it is read, it holds of the same values. -/
theorem truth_eq_yes_iff_of_equates (equates : Equates left right tree) (mapping : Mapping) :
    tree.truth mapping = .yes ↔ (equal .untyped left right).truth mapping = .yes := by
  -- One side has the kind of the family, and equal values of this kind are equal in its way.
  cases equates with
  | strings string =>
    exact truth_equal_eq_yes_iff fun equals =>
      equals.compute_strings (admits_eval_of_kind string mapping)
  | booleans noString boolean =>
    exact truth_equal_eq_yes_iff fun equals =>
      equals.compute_booleans (admits_eval_of_kind boolean mapping)
  | names first second => exact Iff.rfl
  | numbers noString noBoolean number =>
    rw [truth_compare, truth_equal, Equality.compute, untypedEquality_eq_yes_iff]
    exact ⟨Comparison.equals_of_outcome,
      fun equals => equals.outcome_equal (admits_eval_of_kind number mapping)⟩

/-- The equality of two trees selects the same messages in the family that their kinds call for as
if the types were told from the values alone; and where it is an equality of strings or of booleans
that is false, it is false in the other way too. -/
theorem truth_equality_iff (left right : Expr) (mapping : Mapping) :
    ((equality left right).truth mapping = .yes ↔
        (equal .untyped left right).truth mapping = .yes) ∧
      ∀ family : Equality, equality left right = .equal family left right →
        (equality left right).truth mapping = .no →
          (equal .untyped left right).truth mapping = .no := by
  refine ⟨truth_eq_yes_iff_of_equates (equates_iff.2 rfl) mapping, ?_⟩
  -- A family other than the untyped one was chosen by the kinds, and it only loses settled
  -- outcomes.
  intro family same fails
  rw [same] at fails
  exact truth_untyped_of_family fails (by decide)

end

/-- With `a` bound to a string, `a IS NULL = TRUE` is false as an equality of booleans, and so it is
with types that are told from the values. -/
theorem truth_equality_isNull :
    let absent : Expr := .isNull (.reference ⟨"a", by decide, by decide⟩)
    let holds : Expr := .literal (.boolean true)
    let mapping : Mapping := Std.HashMap.insert ∅ "a" (.string "x")
    equality absent holds = .equal .booleans absent holds ∧
      (equality absent holds).truth mapping = .no ∧
      (equal .untyped absent holds).truth mapping = .no := by
  intro absent holds mapping
  -- The absence test is settled FALSE, because the name is bound.
  have same : equality absent holds = .equal .booleans absent holds := rfl
  have fails : (equality absent holds).truth mapping = .no := by
    have bound : mapping["a"]? = some (.string "x") := by simp [mapping]
    rw [same, truth, eval_eq_valueBy]
    simp only [absent, holds, valueBy, bound]
    rfl
  exact ⟨same, fails, (truth_equality_iff absent holds mapping).2 .booleans same fails⟩

end Expr

end MessageSelector
