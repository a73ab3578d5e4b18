import MessageSelector.Proofs.Expr.Valuation

/-! The order of information: what is missing or unknown tells nothing, and what a tree tells with
less information it tells with more. -/

namespace MessageSelector

/-- The second outcome is the first one, unless that is unknown. -/
inductive Truth.Approximates : Truth → Truth → Prop where
  -- UNKNOWN stands below the settled truths, and these are not ordered among each other.
  | unknown (truth : Truth) : Approximates .unknown truth
  | same (truth : Truth) : Approximates truth truth

/-- A value tells nothing when it is missing, or unknown because something in it is missing. -/
def Value.Untold (value : Option Value) : Prop :=
  value = none ∨ value = some (.truth .unknown)

/-- The second value is the first one, unless that tells nothing. -/
inductive Value.Approximates : Option Value → Option Value → Prop where
  -- An absent value and the open truth carry equally little information.
  | untold {value : Option Value} (untold : Value.Untold value) (sharper : Option Value) :
    Approximates value sharper
  | same (value : Option Value) : Approximates value value

/-- Nothing is equal or unequal to what tells nothing. -/
theorem untypedEquality_of_untold {left right : Option Value}
    (untold : Value.Untold left ∨ Value.Untold right) : untypedEquality left right = .unknown := by
  unfold untypedEquality
  -- The rules for such values come first, so that none of the others is reached.
  split <;> simp_all [Value.Untold]

namespace Truth.Approximates

variable {truth sharper left sharperLeft right sharperRight : Truth}

/-- An outcome that is settled stays as it is. -/
theorem eq_of_ne_unknown (approximates : truth.Approximates sharper) (settled : truth ≠ .unknown) :
    sharper = truth := by
  -- Above a settled truth there is only that truth itself.
  cases approximates with
  | unknown => exact absurd rfl settled
  | same => rfl

/-- Outcomes are approximated alike as values. -/
theorem value (approximates : truth.Approximates sharper) :
    Value.Approximates (some (.truth truth)) (some (.truth sharper)) := by
  -- The open truth counts as untold also when it is read as a value.
  cases approximates with
  | unknown => exact .untold (.inr rfl) _
  | same => exact .same _

/-- The opposite of what is unknown is unknown. -/
theorem negate (approximates : truth.Approximates sharper) :
    truth.negate.Approximates sharper.negate := by
  -- UNKNOWN is its own negation, and the settled truths keep their places.
  cases approximates with
  | unknown => exact .unknown _
  | same => exact .same _

/-- An OR that is settled stays so, since one side that holds suffices. -/
theorem or (first : left.Approximates sharperLeft) (second : right.Approximates sharperRight) :
    (Truth.or left right).Approximates (Truth.or sharperLeft sharperRight) := by
  cases first with
  | unknown =>
    -- Only a right side that holds settles it, and that holds whatever the left side comes to.
    cases second with
    | unknown => exact .unknown _
    | same =>
      cases right with
      | yes => cases sharperLeft <;> exact .same _
      | no => exact .unknown _
      | unknown => exact .unknown _
  | same =>
    cases left with
    | yes => exact .same _
    | no =>
      cases second with
      | unknown => exact .unknown _
      | same => exact .same _
    | unknown =>
      cases second with
      | unknown => exact .unknown _
      | same => exact .same _

/-- An AND read from the left that is settled stays so. -/
theorem andThen (first : left.Approximates sharperLeft) (second : right.Approximates sharperRight) :
    (left.andThen right).Approximates (sharperLeft.andThen sharperRight) := by
  cases first with
  | unknown => exact .unknown _
  | same =>
    -- A left operand that is told already decides whether the right one is read.
    cases left with
    | yes => exact second
    | no => exact .same _
    | unknown => exact .same _

/-- An AND read from the left tells nothing else than the table in which the sides are alike. -/
theorem andThen_and (first : left.Approximates sharperLeft)
    (second : right.Approximates sharperRight) :
    (left.andThen right).Approximates (Truth.and sharperLeft sharperRight) := by
  cases first with
  -- The table may know that the right side is false, which the reading from the left leaves open.
  | unknown => exact .unknown _
  | same =>
    cases left with
    | yes =>
      cases second with
      | unknown => exact .unknown _
      | same => cases right <;> exact .same _
    | no => exact .same _
    | unknown => exact .unknown _

end Truth.Approximates

namespace Value.Approximates

variable {value sharper left sharperLeft right sharperRight : Option Value}

/-- A value that is there and not unknown stays as it is. -/
theorem eq_of_told (approximates : Approximates value sharper) (present : value ≠ none)
    (known : value ≠ some (.truth .unknown)) : sharper = value := by
  -- An untold value is excluded by both hypotheses.
  cases approximates with
  | untold blank =>
    rcases blank with rfl | rfl
    · exact absurd rfl present
    · exact absurd rfl known
  | same => rfl

/-- As a condition, a value tells no more than it does as a value. -/
theorem truth (approximates : Approximates value sharper) :
    (Truth.ofValue value).Approximates (Truth.ofValue sharper) := by
  -- Both untold values are the truth UNKNOWN as a condition.
  cases approximates with
  | untold blank => rcases blank with rfl | rfl <;> exact .unknown _
  | same => exact .same _

/-- What is read from a value stays as it is, unless it is what is read from untold values. -/
theorem read {α : Type} {blank : α} (approximates : Approximates value sharper)
    (reading : Option Value → α) (missing : reading none = blank)
    (unknown : reading (some (.truth .unknown)) = blank) :
    reading value = blank ∨ reading sharper = reading value := by
  -- A reading that gives the same blank for both untold values is kept or starts out blank.
  cases approximates with
  | untold blank =>
    rcases blank with rfl | rfl
    · exact .inl missing
    · exact .inl unknown
  | same => exact .inr rfl

/-- The number that a value is stays as it is. -/
theorem numeric (approximates : Approximates value sharper) :
    numericOperand value = none ∨ numericOperand sharper = numericOperand value :=
  -- Neither an absent value nor a truth is a number.
  approximates.read numericOperand rfl rfl

/-- The text that a value is stays as it is. -/
theorem text (approximates : Approximates value sharper) :
    stringOperand value = none ∨ stringOperand sharper = stringOperand value :=
  -- Neither an absent value nor a truth is a string.
  approximates.read stringOperand rfl rfl

/-- The flag that a value stands for stays as it is. -/
theorem flag (approximates : Approximates value sharper) :
    booleanOperand value = none ∨ booleanOperand sharper = booleanOperand value :=
  -- The truth UNKNOWN is no flag, though the settled truths are.
  approximates.read booleanOperand rfl rfl

/-- What a value means in a comparison stays as it is, unless it leaves the comparison unknown. -/
theorem comparand (approximates : Approximates value sharper) :
    comparisonOperand value = .error .unknown ∨
      comparisonOperand sharper = comparisonOperand value :=
  -- An untold operand settles the comparison as UNKNOWN.
  approximates.read comparisonOperand rfl rfl

/-- A result of arithmetic is kept when its operands become sharper. -/
theorem arithmetic (op : Arithmetic) (first : Approximates left sharperLeft)
    (second : Approximates right sharperRight) :
    Approximates (some (op.evaluate left right)) (some (op.evaluate sharperLeft sharperRight)) := by
  unfold Arithmetic.evaluate
  -- Without a number on either side the result is unknown, and else the same numbers are combined.
  rcases first.numeric with blank | kept
  · rw [blank]
    exact .untold (.inr rfl) _
  rw [kept]
  rcases second.numeric with blank | kept
  · rw [blank]
    cases numericOperand left <;> exact .untold (.inr rfl) _
  · rw [kept]
    exact .same _

/-- A negated number is kept when the operand becomes sharper. -/
theorem negated (approximates : Approximates value sharper) :
    Approximates (some (negateValue value)) (some (negateValue sharper)) := by
  unfold negateValue
  -- Without a number the negation is UNKNOWN, which carries no information.
  rcases approximates.numeric with blank | kept
  · rw [blank]
    exact .untold (.inr rfl) _
  · rw [kept]
    exact .same _

/-- A settled comparison is kept when its operands become sharper. -/
theorem compared (op : Comparison) (first : Approximates left sharperLeft)
    (second : Approximates right sharperRight) :
    (op.outcome left right).Approximates (op.outcome sharperLeft sharperRight) := by
  unfold Comparison.outcome
  rcases first.comparand with blank | kept
  · rw [blank]
    exact .unknown _
  rw [kept]
  -- What the left side forces, it forces whatever becomes of the right side.
  cases comparisonOperand left with
  | error forced => exact .same _
  | ok l =>
    rcases second.comparand with blank | kept
    · rw [blank]
      exact .unknown _
    · rw [kept]
      exact .same _

/-- A settled equality of values of any type is kept when its operands become sharper. -/
theorem untyped (first : Approximates left sharperLeft) (second : Approximates right sharperRight) :
    (untypedEquality left right).Approximates (untypedEquality sharperLeft sharperRight) := by
  -- The equality is UNKNOWN as soon as one side is untold.
  cases first with
  | untold blank =>
    rw [untypedEquality_of_untold (.inl blank)]
    exact .unknown _
  | same =>
    cases second with
    | untold blank =>
      rw [untypedEquality_of_untold (.inr blank)]
      exact .unknown _
    | same => exact .same _

/-- A test of two operands that is unknown without either of them is kept. -/
theorem ofBoth {α β : Type} {l l' : Option α} {r r' : Option β} (first : l = none ∨ l' = l)
    (second : r = none ∨ r' = r) (test : α → β → Bool) :
    (Truth.ofBoth l r test).Approximates (Truth.ofBoth l' r' test) := by
  -- Either both operands are read as before, or one was missing and the outcome was open.
  rcases first with rfl | rfl
  · exact .unknown _
  rcases second with rfl | rfl
  · cases l' <;> exact .unknown _
  · exact .same _

/-- A settled equality is kept when its operands become sharper. -/
theorem equality (family : Equality) (first : Approximates left sharperLeft)
    (second : Approximates right sharperRight) :
    (family.compute left right).Approximates (family.compute sharperLeft sharperRight) := by
  -- Each family reads its operands in one way, and each reading is monotone.
  cases family with
  | strings => exact ofBoth first.text second.text _
  | booleans => exact ofBoth first.flag second.flag _
  | untyped => exact first.untyped second

/-- A settled range test is kept when its operands become sharper. -/
theorem inRange (approximates : Approximates value sharper)
    (first : Approximates left sharperLeft) (second : Approximates right sharperRight) :
    (rangeTest value left right).Approximates (rangeTest sharper sharperLeft sharperRight) := by
  unfold rangeTest
  -- The three operands are read one after the other, and the first blank one leaves the range open.
  rcases approximates.numeric with blank | kept
  · rw [blank]
    exact .unknown _
  rw [kept]
  rcases first.numeric with blank | kept
  · rw [blank]
    cases numericOperand value <;> exact .unknown _
  rw [kept]
  rcases second.numeric with blank | kept
  · rw [blank]
    cases numericOperand value <;> cases numericOperand left <;> exact .unknown _
  · rw [kept]
    exact .same _

/-- A settled test of a string is kept when the operand becomes sharper. -/
theorem onString (approximates : Approximates value sharper) (test : String → Bool) :
    (stringTest value test).Approximates (stringTest sharper test) := by
  -- The test sees the same text, or it saw none and was open.
  unfold stringTest
  rcases approximates.text with blank | kept
  · rw [blank]
    exact .unknown _
  · rw [kept]
    exact .same _

end Value.Approximates

namespace Expr

variable [Regex.Engine]

/-- The identifiers that a tree tests for having no value, from left to right. -/
def absenceTests : Expr → List Identifier
  -- Only a test directly on an identifier can see whether a name is bound.
  | literal _ | reference _ => []
  | arithmetic _ left right | compare _ left right | connect _ left right | equal _ left right =>
    left.absenceTests ++ right.absenceTests
  | negate operand | not operand | within operand _ | like operand _ _ => operand.absenceTests
  | between value lower upper => value.absenceTests ++ lower.absenceTests ++ upper.absenceTests
  | isNull (reference identifier) => [identifier]
  | isNull operand => operand.absenceTests

/-- What a tree tells with one table and one set of values, it tells with a sharper table and with
sharper values, provided that the identifiers it tests for absence are bound alike. -/
theorem valueBy_approximates {conjunction sharperConjunction : Truth → Truth → Truth}
    {bound sharperBound : Identifier → Option Value}
    (conjoins : ∀ {left sharperLeft right sharperRight : Truth}, left.Approximates sharperLeft →
      right.Approximates sharperRight →
      (conjunction left right).Approximates (sharperConjunction sharperLeft sharperRight))
    (binds : ∀ identifier, Value.Approximates (bound identifier) (sharperBound identifier))
    (tree : Expr)
    (tests : ∀ identifier ∈ tree.absenceTests,
      (sharperBound identifier).isNone = (bound identifier).isNone) :
    Value.Approximates (tree.valueBy conjunction bound)
      (tree.valueBy sharperConjunction sharperBound) := by
  -- Every operator keeps what it tells when its operands become sharper.
  induction tree with
  | literal constant => exact .same _
  | reference identifier => exact binds identifier
  | arithmetic op left right ihLeft ihRight =>
    obtain ⟨left, right⟩ := List.forall_mem_append.1 tests
    exact (ihLeft left).arithmetic op (ihRight right)
  | negate operand ih => exact (ih tests).negated
  | compare op left right ihLeft ihRight =>
    obtain ⟨left, right⟩ := List.forall_mem_append.1 tests
    exact ((ihLeft left).compared op (ihRight right)).value
  | connect op left right ihLeft ihRight =>
    obtain ⟨left, right⟩ := List.forall_mem_append.1 tests
    cases op with
    | and => exact (conjoins (ihLeft left).truth (ihRight right).truth).value
    | or => exact ((ihLeft left).truth.or (ihRight right).truth).value
  | not operand ih => exact (ih tests).truth.negate.value
  | equal family left right ihLeft ihRight =>
    obtain ⟨left, right⟩ := List.forall_mem_append.1 tests
    exact ((ihLeft left).equality family (ihRight right)).value
  | between value lower upper ihValue ihLower ihUpper =>
    obtain ⟨first, upper⟩ := List.forall_mem_append.1 tests
    obtain ⟨value, lower⟩ := List.forall_mem_append.1 first
    exact ((ihValue value).inRange (ihLower lower) (ihUpper upper)).value
  | within operand set ih => exact ((ih tests).onString _).value
  | like operand pattern visible ih => exact ((ih tests).onString _).value
  | isNull operand ih =>
    -- An identifier is absent in both or in neither, and no other operand is ever absent.
    cases operand with
    | reference identifier =>
      have alike := tests identifier (List.mem_singleton_self _)
      simp only [valueBy, alike]
      exact .same _
    | connect op left right => cases op <;> exact .same _
    | _ => exact .same _

end Expr

end MessageSelector
