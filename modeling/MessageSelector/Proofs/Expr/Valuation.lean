import MessageSelector.Expr.Evaluation

/-! Valuations: what a tree is worth given the values of its identifiers, in no order of asking. -/

namespace MessageSelector

/-- The outcome of AND read from the left: a left side that does not hold is the outcome. -/
def Truth.andThen : Truth → Truth → Truth
  -- Anything but TRUE on the left is the outcome, without a look at the right.
  | yes, right => right
  | left, _ => left

/-- The outcome of AND by the table in which one side that is false suffices, whichever it is. -/
def Truth.and : Truth → Truth → Truth
  -- The rows are tried in this order, so FALSE wins over UNKNOWN.
  | no, _ | _, no => no
  | unknown, _ | _, unknown => unknown
  | yes, yes => yes

/-- The outcome of a comparison of two values; what the left value forces comes first. -/
def Comparison.outcome (op : Comparison) (left right : Option Value) : Truth :=
  -- The left operand is looked at first, so its verdict wins when neither is a number.
  match comparisonOperand left, comparisonOperand right with
  | .error forced, _ => forced
  | .ok _, .error forced => forced
  | .ok l, .ok r => .ofBool (op.compute l r)

namespace Expr

variable [Regex.Engine]

/-- The value of a tree whose identifiers have the values of `bound`, with a table for AND.

Both sides of every operator are valued, also where an evaluation would leave the right one out. -/
def valueBy (conjunction : Truth → Truth → Truth) (bound : Identifier → Option Value) :
    Expr → Option Value
  -- The conjunction and the values of identifiers are parameters; every other node has one meaning.
  | literal constant => some constant.value
  | reference identifier => bound identifier
  | arithmetic op left right =>
    some (op.evaluate (left.valueBy conjunction bound) (right.valueBy conjunction bound))
  | negate operand => some (negateValue (operand.valueBy conjunction bound))
  | compare op left right =>
    some (.truth (op.outcome (left.valueBy conjunction bound) (right.valueBy conjunction bound)))
  | connect .and left right =>
    some (.truth (conjunction (.ofValue (left.valueBy conjunction bound))
      (.ofValue (right.valueBy conjunction bound))))
  | connect .or left right =>
    some (.truth (Truth.or (.ofValue (left.valueBy conjunction bound))
      (.ofValue (right.valueBy conjunction bound))))
  | not operand => some (.truth (Truth.ofValue (operand.valueBy conjunction bound)).negate)
  | equal family left right =>
    some (.truth (family.compute (left.valueBy conjunction bound)
      (right.valueBy conjunction bound)))
  | between value lower upper =>
    some (.truth (rangeTest (value.valueBy conjunction bound) (lower.valueBy conjunction bound)
      (upper.valueBy conjunction bound)))
  | within operand set =>
    some (.truth (stringTest (operand.valueBy conjunction bound) set.contains))
  | like operand pattern _ =>
    some (.truth (stringTest (operand.valueBy conjunction bound) pattern.isMatch))
  | isNull operand => some (.truth (.ofBool (operand.valueBy conjunction bound).isNone))

/-- What an evaluation leaves out makes no difference to the value it comes to. -/
theorem evalWith_eq_valueBy {κ : Type} (tree : Expr) (provider : Provider κ) (token : κ) :
    tree.evalWith provider token =
      tree.valueBy Truth.andThen (fun identifier => provider identifier token) := by
  -- The value of a node is made of the values of its operands, whatever is asked between them.
  induction tree with
  | literal constant => rfl
  | reference identifier => rfl
  | arithmetic op left right ihLeft ihRight =>
    rw [valueBy, ← ihLeft, ← ihRight]
    rfl
  | negate operand ih =>
    rw [valueBy, ← ih]
    rfl
  | compare op left right ihLeft ihRight =>
    rw [valueBy, ← ihLeft, ← ihRight, Comparison.outcome]
    simp only [evalWith, askWith, bind, pure]
    -- A left side that forces the outcome does so whatever the right side is.
    cases comparisonOperand (left.askWith provider token).result with
    | error forced => rfl
    | ok l =>
      cases comparisonOperand (right.askWith provider token).result with
      | error forced => rfl
      | ok r => rfl
  | connect op left right ihLeft ihRight =>
    -- Where the left side decides, the table has the same outcome for all right sides.
    cases op with
    | and =>
      rw [valueBy, ← ihLeft, ← ihRight]
      simp only [evalWith, askWith, bind, pure]
      cases Truth.ofValue (left.askWith provider token).result <;> rfl
    | or =>
      rw [valueBy, ← ihLeft, ← ihRight]
      simp only [evalWith, askWith, bind, pure]
      cases Truth.ofValue (left.askWith provider token).result <;> rfl
  | not operand ih =>
    rw [valueBy, ← ih]
    rfl
  | equal family left right ihLeft ihRight =>
    rw [valueBy, ← ihLeft, ← ihRight]
    rfl
  | between value lower upper ihValue ihLower ihUpper =>
    rw [valueBy, ← ihValue, ← ihLower, ← ihUpper]
    rfl
  | within operand set ih =>
    rw [valueBy, ← ih]
    rfl
  | like operand pattern visible ih =>
    rw [valueBy, ← ih]
    rfl
  | isNull operand ih =>
    rw [valueBy, ← ih]
    rfl

/-- The value of a tree with the values of a mapping is its value by AND read from the left. -/
theorem eval_eq_valueBy (tree : Expr) (mapping : Mapping) :
    tree.eval mapping = tree.valueBy Truth.andThen fun identifier => mapping[identifier.name]? :=
  -- A mapping is the provider that looks names up.
  tree.evalWith_eq_valueBy mapping.provider ()

end Expr

end MessageSelector
