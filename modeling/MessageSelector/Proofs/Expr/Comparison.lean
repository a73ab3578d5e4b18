import MessageSelector.Proofs.Expr.Equality
import MessageSelector.Regex.Plain

/-! Comparisons: what they make of operands that are no numbers, and comparisons written the other
way round. -/

namespace MessageSelector

/-- A value that is there and not unknown, but is no number. -/
def Value.Mistyped (value : Option Value) : Prop :=
  ∃ held, value = some held ∧ held.number? = none ∧ held ≠ .truth .unknown

section

variable {value left right : Option Value}

/-- The operands that leave a comparison unknown are those that tell nothing. -/
theorem comparisonOperand_eq_unknown_iff :
    comparisonOperand value = .error .unknown ↔ Value.Untold value := by
  -- Only an absent value and the truth UNKNOWN are counted as missing.
  rcases value with _ | (flag | number | text | (_ | _ | _)) <;>
    simp [comparisonOperand, Value.Untold]

/-- The operands that make a comparison false are those of a wrong type. -/
theorem comparisonOperand_eq_no_iff :
    comparisonOperand value = .error .no ↔ Value.Mistyped value := by
  -- Every value that is there and is no number refuses the comparison.
  rcases value with _ | (flag | number | text | (_ | _ | _)) <;>
    simp [comparisonOperand, Value.Mistyped, Value.number?]

/-- The operands that a comparison goes on from are those of arithmetic. -/
theorem comparisonOperand_eq_ok_iff {n : Float} :
    comparisonOperand value = .ok n ↔ numericOperand value = some n := by
  -- A number of any width is compared as a double.
  rcases value with _ | (flag | number | text | (_ | _ | _)) <;>
    simp [comparisonOperand, numericOperand, Value.number?]

namespace Comparison

/-- A comparison holds of two numbers that stand in its order, and of nothing else. -/
theorem outcome_eq_yes_iff {op : Comparison} :
    op.outcome left right = .yes ↔
      ∃ l r, numericOperand left = some l ∧ numericOperand right = some r ∧
        op.compute l r = true := by
  simp only [← comparisonOperand_eq_ok_iff]
  unfold outcome
  -- What an operand forces is never that the comparison holds, so both have to leave it open.
  cases first : comparisonOperand left with
  | error forced => simp [ne_yes_of_comparisonOperand first]
  | ok l =>
    cases second : comparisonOperand right with
    | error forced => simp [ne_yes_of_comparisonOperand second]
    | ok r => simp

/-- The second operator compares the same numbers from the other side. -/
inductive Mirrors : Comparison → Comparison → Prop where
  -- Exchanging the operands reverses the order and keeps whether equality is allowed.
  | greater : Mirrors .greater .less
  | greaterEqual : Mirrors .greaterEqual .lessEqual
  | less : Mirrors .less .greater
  | lessEqual : Mirrors .lessEqual .greaterEqual

namespace Mirrors

variable {op other : Comparison}

/-- Numbers stand in the one order when they stand in the other one the other way round. -/
theorem compute_eq (mirrors : op.Mirrors other) (l r : Float) :
    other.compute r l = op.compute l r := by
  -- Greater is defined as less with the operands exchanged, so all four cases hold by definition.
  cases mirrors <;> rfl

/-- Only operands of which each forces an outcome of its own tell the two comparisons apart. -/
theorem outcome_ne_iff (mirrors : op.Mirrors other) :
    op.outcome left right ≠ other.outcome right left ↔
      ∃ first second, comparisonOperand left = .error first ∧
        comparisonOperand right = .error second ∧ first ≠ second := by
  unfold outcome
  -- An outcome that one operand forces is the outcome of both, unless the other forces one too.
  cases comparisonOperand left <;> cases comparisonOperand right <;> simp [mirrors.compute_eq]

/-- A comparison holds where the one written the other way round does. -/
theorem outcome_eq_yes_iff (mirrors : op.Mirrors other) :
    op.outcome left right = .yes ↔ other.outcome right left = .yes := by
  -- TRUE needs two numbers, and these can be exchanged together with the comparison.
  rw [Comparison.outcome_eq_yes_iff, Comparison.outcome_eq_yes_iff]
  constructor
  · rintro ⟨l, r, first, second, holds⟩
    exact ⟨r, l, second, first, by rwa [mirrors.compute_eq]⟩
  · rintro ⟨r, l, second, first, holds⟩
    exact ⟨l, r, first, second, by rwa [← mirrors.compute_eq]⟩

end Mirrors

/-- What a left operand forces is the outcome of the comparison. -/
theorem outcome_of_forced {op : Comparison} {forced : Truth}
    (settles : comparisonOperand left = .error forced) (right : Option Value) :
    op.outcome left right = forced := by
  -- The left operand is looked at first, so its verdict is final.
  rw [outcome, settles]

/-- Two operands force different outcomes when one tells nothing and the other is of a wrong
type. -/
theorem exists_forced_ne_iff :
    (∃ first second, comparisonOperand left = .error first ∧
        comparisonOperand right = .error second ∧ first ≠ second) ↔
      Value.Untold left ∧ Value.Mistyped right ∨ Value.Mistyped left ∧ Value.Untold right := by
  simp only [← comparisonOperand_eq_unknown_iff, ← comparisonOperand_eq_no_iff]
  constructor
  · rintro ⟨first, second, settlesLeft, settlesRight, differ⟩
    have leftFails := ne_yes_of_comparisonOperand settlesLeft
    have rightFails := ne_yes_of_comparisonOperand settlesRight
    rw [settlesLeft, settlesRight]
    -- Of the three outcomes only two can be forced, so each operand forces one of them.
    cases first <;> cases second <;> simp_all
  · rintro (⟨settlesLeft, settlesRight⟩ | ⟨settlesLeft, settlesRight⟩)
    · exact ⟨_, _, settlesLeft, settlesRight, by decide⟩
    · exact ⟨_, _, settlesLeft, settlesRight, by decide⟩

end Comparison

end

namespace Expr

section

variable [Regex.Engine]

/-- A comparison and the one written the other way round differ exactly when one side tells nothing
and the other is of a wrong type. Then each has the outcome that its own left side forces, so that
neither of them holds where the other does not. -/
theorem truth_compare_mirrored {op other : Comparison} (mirrors : op.Mirrors other)
    (left right : Expr) (mapping : Mapping) :
    ((compare op left right).truth mapping ≠ (compare other right left).truth mapping ↔
        Value.Untold (left.eval mapping) ∧ Value.Mistyped (right.eval mapping) ∨
          Value.Mistyped (left.eval mapping) ∧ Value.Untold (right.eval mapping)) ∧
      (Value.Untold (left.eval mapping) ∧ Value.Mistyped (right.eval mapping) →
        (compare op left right).truth mapping = .unknown ∧
          (compare other right left).truth mapping = .no) ∧
      (Value.Mistyped (left.eval mapping) ∧ Value.Untold (right.eval mapping) →
        (compare op left right).truth mapping = .no ∧
          (compare other right left).truth mapping = .unknown) ∧
      ((compare op left right).truth mapping = .yes ↔
        (compare other right left).truth mapping = .yes) := by
  simp only [truth_compare]
  refine ⟨mirrors.outcome_ne_iff.trans Comparison.exists_forced_ne_iff, ?_, ?_,
    mirrors.outcome_eq_yes_iff⟩
  -- Each side is forced by its left operand before the other is looked at.
  · rintro ⟨untold, mistyped⟩
    exact ⟨Comparison.outcome_of_forced (comparisonOperand_eq_unknown_iff.2 untold) _,
      Comparison.outcome_of_forced (comparisonOperand_eq_no_iff.2 mistyped) _⟩
  · rintro ⟨mistyped, untold⟩
    exact ⟨Comparison.outcome_of_forced (comparisonOperand_eq_no_iff.2 mistyped) _,
      Comparison.outcome_of_forced (comparisonOperand_eq_unknown_iff.2 untold) _⟩

end

/-- With nothing bound, `a > 'x'` is unknown and `'x' < a` is false. -/
theorem truth_compare_mirrored_unbound :
    let a : Expr := .reference ⟨"a", by decide, by decide⟩
    let x : Expr := .literal (.string "x")
    Value.Untold (a.eval ∅) ∧ Value.Mistyped (x.eval ∅) ∧
      (compare .greater a x).truth ∅ = .unknown ∧ (compare .less x a).truth ∅ = .no := by
  intro a x
  -- The empty mapping leaves the name unbound, and the string is there but is no number.
  have untold : Value.Untold (a.eval ∅) :=
    .inl (evalWith_eq_none_iff.2 ⟨_, rfl, by simp [Mapping.provider]⟩)
  have mistyped : Value.Mistyped (x.eval ∅) := ⟨.string "x", rfl, rfl, by decide⟩
  obtain ⟨-, follows, -, -⟩ := truth_compare_mirrored .greater a x ∅
  exact ⟨untold, mistyped, follows ⟨untold, mistyped⟩⟩

end Expr

end MessageSelector
