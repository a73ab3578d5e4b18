import MessageSelector.Expr.Basic
import Std.Data.HashMap

/-! What a tree evaluates to, and which identifiers it asks for on the way. -/

namespace MessageSelector

/-- A request for the value of an identifier, with the token of the evaluation it belongs to. -/
structure Question (κ : Type) where
  identifier : Identifier
  token : κ
deriving DecidableEq

/-- A result together with the questions that were asked to reach it, in order. -/
structure Asked (κ α : Type) where
  result : α
  questions : List (Question κ)

/-- A result needs no question of its own, and what follows from a result asks after it. -/
instance {κ : Type} : Monad (Asked κ) where
  pure result := ⟨result, []⟩
  bind asked next :=
    ⟨(next asked.result).result, asked.questions ++ (next asked.result).questions⟩

namespace Asked

variable {κ α β : Type}

/-- A result that needs no question has none. -/
@[simp] theorem questions_pure (value : α) : (pure value : Asked κ α).questions = [] :=
  rfl

/-- The result is what follows from the first result. -/
@[simp] theorem result_bind (asked : Asked κ α) (next : α → Asked κ β) :
    (asked >>= next).result = (next asked.result).result :=
  -- The second part sees only the answer of the first, so its answer is the answer of both.
  rfl

/-- What follows from a result asks its questions after those for that result. -/
@[simp] theorem questions_bind (asked : Asked κ α) (next : α → Asked κ β) :
    (asked >>= next).questions = asked.questions ++ (next asked.result).questions :=
  -- Questions are kept in the order in which they were asked.
  rfl

end Asked

/-- A source of values: given an identifier and a token, the value bound to it, if there is one. -/
abbrev Provider (κ : Type) := Identifier → κ → Option Value

/-- Asks a provider for the value of an identifier. -/
def Provider.ask {κ : Type} (provider : Provider κ) (token : κ) (identifier : Identifier) :
    Asked κ (Option Value) :=
  -- Every call is one question, whether or not the provider has an answer.
  ⟨provider identifier token, [⟨identifier, token⟩]⟩

/-- Values bound to names. -/
abbrev Mapping := Std.HashMap String Value

/-- The provider that looks names up in a mapping. -/
def Mapping.provider (mapping : Mapping) : Provider Unit :=
  fun identifier _ => mapping[identifier.name]?

/-- The float that a value stands for in arithmetic, if it is a number. -/
def numericOperand (value : Option Value) : Option Float :=
  (value.bind Value.number?).map Number.toDouble

/-- The float that a value stands for in a comparison, or the outcome that the value forces.

A value that is missing, or unknown because something in it was missing, leaves the comparison
unknown; any other value that is no number makes it false. -/
def comparisonOperand : Option Value → Except Truth Float
  -- A missing operand is not told apart from one that is computed from missing values.
  | none | some (.truth .unknown) => .error .unknown
  | some (.number n) => .ok n.toDouble
  | some _ => .error .no

/-- The flag that a value stands for: a boolean, or a condition that has been settled. -/
def booleanOperand : Option Value → Option Bool
  -- An unknown condition is no flag of either kind.
  | some (.boolean flag) => some flag
  | some (.truth .yes) => some true
  | some (.truth .no) => some false
  | _ => none

/-- The text that a value stands for, if it is a string. -/
def stringOperand (value : Option Value) : Option String :=
  value.bind Value.string?

/-- The outcome of a test on two operands, unknown unless both are there. -/
def Truth.ofBoth {α β : Type} (left : Option α) (right : Option β) (test : α → β → Bool) : Truth :=
  -- A side of another type makes a test unknown and not false.
  match left, right with
  | some l, some r => ofBool (test l r)
  | _, _ => unknown

/-- The equality of two values whose types are known only now.

Values of different types are never equal, and nothing is equal or unequal to a missing value. -/
def untypedEquality : Option Value → Option Value → Truth
  -- What is unknown on one side is unknown altogether, whatever the other side is.
  | none, _ | _, none | some (.truth .unknown), _ | _, some (.truth .unknown) => .unknown
  | some (.number left), some (.number right) => .ofBool (left.toDouble == right.toDouble)
  | some (.string left), some (.string right) => .ofBool (left == right)
  | left, right =>
    match booleanOperand left, booleanOperand right with
    | some l, some r => .ofBool (l == r)
    | _, _ => .no

/-- The outcome of an equality of the given family. -/
def Equality.compute : Equality → Option Value → Option Value → Truth
  -- The first two families ask for one type, and only the third one looks at what is there.
  | strings, left, right => .ofBoth (stringOperand left) (stringOperand right) (· == ·)
  | booleans, left, right => .ofBoth (booleanOperand left) (booleanOperand right) (· == ·)
  | untyped, left, right => untypedEquality left right

/-- The result of an operator on two numbers, unknown unless both operands are numbers. -/
def Arithmetic.evaluate (op : Arithmetic) (left right : Option Value) : Value :=
  -- Without two numbers the value is the unknown outcome and not a missing value.
  match numericOperand left, numericOperand right with
  | some l, some r => .number (.double (op.compute l r))
  | _, _ => .truth .unknown

/-- The number with the opposite sign, unknown unless the operand is a number. -/
def negateValue (value : Option Value) : Value :=
  -- The sign of the float is changed, so even a zero or not-a-number has an opposite.
  match numericOperand value with
  | some n => .number (.double (-n))
  | none => .truth .unknown

/-- The outcome of a range test, unknown unless all three operands are numbers. -/
def rangeTest (value lower upper : Option Value) : Truth :=
  -- All three are looked at together, so one that is no number makes the test unknown.
  match numericOperand value, numericOperand lower, numericOperand upper with
  | some v, some l, some u => .ofBool (decide (l ≤ v) && decide (v ≤ u))
  | _, _, _ => .unknown

/-- The outcome of a test on a string, unknown for any other value. -/
def stringTest (value : Option Value) (test : String → Bool) : Truth :=
  -- A value that is no string is neither among the texts nor apart from them.
  match stringOperand value with
  | some text => .ofBool (test text)
  | none => .unknown

namespace Expr

variable [Regex.Engine]

/-- Evaluates a tree from left to right, asking a provider for each identifier it comes to.

The right side of a comparison is left out when the left side settles it, that of AND when the
left side does not hold, and that of OR when the left side holds. -/
def askWith {κ : Type} (provider : Provider κ) (token : κ) : Expr → Asked κ (Option Value)
  | literal constant => pure (some constant.value)
  | reference identifier => provider.ask token identifier
  | arithmetic op left right => do
    let l ← left.askWith provider token
    let r ← right.askWith provider token
    return some (op.evaluate l r)
  | negate operand => do
    return some (negateValue (← operand.askWith provider token))
  -- A forced outcome of the left side leaves the right side unasked.
  | compare op left right => do
    match comparisonOperand (← left.askWith provider token) with
    | .error forced => return some (.truth forced)
    | .ok l =>
      match comparisonOperand (← right.askWith provider token) with
      | .error forced => return some (.truth forced)
      | .ok r => return some (.truth (.ofBool (op.compute l r)))
  | connect .and left right => do
    match Truth.ofValue (← left.askWith provider token) with
    | .yes => return some (.truth (.ofValue (← right.askWith provider token)))
    | settled => return some (.truth settled)
  | connect .or left right => do
    match Truth.ofValue (← left.askWith provider token) with
    | .yes => return some (.truth .yes)
    -- An unknown left side still lets the right side decide.
    | l => return some (.truth (l.or (.ofValue (← right.askWith provider token))))
  | not operand => do
    return some (.truth (Truth.ofValue (← operand.askWith provider token)).negate)
  | equal family left right => do
    let l ← left.askWith provider token
    let r ← right.askWith provider token
    return some (.truth (family.compute l r))
  | between value lower upper => do
    let v ← value.askWith provider token
    let l ← lower.askWith provider token
    let u ← upper.askWith provider token
    return some (.truth (rangeTest v l u))
  | within operand set => do
    return some (.truth (stringTest (← operand.askWith provider token) set.contains))
  | like operand pattern _ => do
    return some (.truth (stringTest (← operand.askWith provider token) pattern.isMatch))
  -- Only an identifier can be without a value, so only there the test can hold.
  | isNull operand => do
    return some (.truth (.ofBool (← operand.askWith provider token).isNone))

/-- The value of a tree with the values of a provider; an identifier without a value has none. -/
def evalWith {κ : Type} (tree : Expr) (provider : Provider κ) (token : κ) : Option Value :=
  (tree.askWith provider token).result

/-- The questions that an evaluation asks its provider, in order. -/
def questionsWith {κ : Type} (tree : Expr) (provider : Provider κ) (token : κ) :
    List (Question κ) :=
  (tree.askWith provider token).questions

/-- The value of a tree with the values of a mapping. -/
def eval (tree : Expr) (mapping : Mapping) : Option Value :=
  tree.evalWith mapping.provider ()

/-- The outcome of a tree as a condition, with the values of a provider. -/
def truthWith {κ : Type} (tree : Expr) (provider : Provider κ) (token : κ) : Truth :=
  .ofValue (tree.evalWith provider token)

/-- The outcome of a tree as a condition, with the values of a mapping. -/
def truth (tree : Expr) (mapping : Mapping) : Truth :=
  .ofValue (tree.eval mapping)

end Expr

end MessageSelector
