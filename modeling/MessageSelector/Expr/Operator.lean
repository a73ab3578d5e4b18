/-! The operators of selectors, and what the numeric ones compute. -/

namespace MessageSelector

/-- The operators that combine two numbers into one. -/
inductive Arithmetic where
  | add
  | subtract
  | multiply
  | divide
deriving DecidableEq, Repr

namespace Arithmetic

/-- The result in 64-bit floats, in which a division by zero gives an infinity or not-a-number. -/
def compute : Arithmetic → Float → Float → Float
  -- Integers have been widened before, so all arithmetic is that of floats.
  | add, left, right => left + right
  | subtract, left, right => left - right
  | multiply, left, right => left * right
  | divide, left, right => left / right

/-- The sign of the operator. -/
def text : Arithmetic → String
  | add => "+"
  | subtract => "-"
  | multiply => "*"
  | divide => "/"

end Arithmetic

/-- The operators that compare two numbers. -/
inductive Comparison where
  | equal
  | greater
  | greaterEqual
  | less
  | lessEqual
deriving DecidableEq, Repr

namespace Comparison

/-- The comparison of two floats; no comparison with not-a-number holds. -/
def compute : Comparison → Float → Float → Bool
  -- Comparisons with not-a-number fail, so greater is not the opposite of less or equal.
  | equal, left, right => left == right
  | greater, left, right => decide (right < left)
  | greaterEqual, left, right => decide (right ≤ left)
  | less, left, right => decide (left < right)
  | lessEqual, left, right => decide (left ≤ right)

/-- The sign of the operator. -/
def text : Comparison → String
  | equal => "="
  | greater => ">"
  | greaterEqual => ">="
  | less => "<"
  | lessEqual => "<="

end Comparison

/-- The operators that join two conditions. -/
inductive Connective where
  | and
  | or
deriving DecidableEq, Repr

/-- The word for the operator. -/
def Connective.text : Connective → String
  | and => "AND"
  | or => "OR"

/-- The ways in which operands that are not known to be numbers are equal. -/
inductive Equality where
  | strings
  | booleans
  | untyped
deriving DecidableEq, Repr

end MessageSelector
