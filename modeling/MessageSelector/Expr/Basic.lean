import MessageSelector.Expr.Operator
import MessageSelector.Identifier
import MessageSelector.LikePattern
import MessageSelector.Literal
import MessageSelector.StringSet

/-! The trees that selectors are made of, and what can be told from a tree without evaluating it. -/

namespace MessageSelector

variable [Regex.Engine]

/-- A selector, or a part of one. -/
inductive Expr where
  | literal (constant : Literal)
  | reference (identifier : Identifier)
  | arithmetic (op : Arithmetic) (left right : Expr)
  | negate (operand : Expr)
  | compare (op : Comparison) (left right : Expr)
  | connect (op : Connective) (left right : Expr)
  | not (operand : Expr)
  | equal (family : Equality) (left right : Expr)
  | between (value lower upper : Expr)
  | within (operand : Expr) (set : StringSet)
  -- An escape character that is a blank could not be written in a selector.
  | like (operand : Expr) (pattern : LikePattern)
      (visible : pattern.escape.all (fun c => !isBlank c) = true)
  | isNull (operand : Expr)
deriving DecidableEq

/-- What is known about the values of a tree before any name is bound. -/
inductive Kind where
  | boolean
  | numeric
  | string
  | any
deriving DecidableEq, Repr

/-- The kind of a constant is that of its value. -/
def Literal.kind : Literal → Kind
  -- Both kinds of numbers are of one kind, as they can be compared with each other.
  | boolean _ => .boolean
  | long _ _ _ => .numeric
  | double _ _ _ => .numeric
  | string _ => .string

namespace Expr

/-- Operators fix the kind of what they produce; only a reference can stand for any value. -/
def kind : Expr → Kind
  -- An identifier may stand for a value of any type, which shows only in an evaluation.
  | literal constant => constant.kind
  | reference _ => .any
  | arithmetic .. | negate _ => .numeric
  | compare .. | connect .. | not _ | equal .. | between .. | within .. | like .. | isNull _ =>
    .boolean

/-- The identifiers at the leaves of a tree from left to right. -/
def occurrences : Expr → List Identifier
  -- The identifiers are listed from left to right, with repetitions.
  | literal _ => []
  | reference identifier => [identifier]
  | arithmetic _ left right | compare _ left right | connect _ left right | equal _ left right =>
    left.occurrences ++ right.occurrences
  | negate operand | not operand | within operand _ | like operand _ _ | isNull operand =>
    operand.occurrences
  | between value lower upper => value.occurrences ++ lower.occurrences ++ upper.occurrences

/-- The identifiers that a tree refers to, each where it comes first. -/
def identifiers (tree : Expr) : List Identifier :=
  firstOccurrences tree.occurrences

/-- The tree refers to no identifier, so that its value is the same for all bindings. -/
def isConstant : Expr → Bool
  -- Only identifiers keep a tree from being constant.
  | literal _ => true
  | reference _ => false
  | arithmetic _ left right | compare _ left right | connect _ left right | equal _ left right =>
    left.isConstant && right.isConstant
  | negate operand | not operand | within operand _ | like operand _ _ | isNull operand =>
    operand.isConstant
  | between value lower upper => value.isConstant && lower.isConstant && upper.isConstant

end Expr

/-- The family of an equality whose operands are of these kinds, if neither side tells a number.

A string on one side makes it an equality of strings, else a boolean one of booleans, and two
operands of any kind leave the choice to their values. -/
def Equality.ofKinds? : Kind → Kind → Option Equality
  -- A string on either side decides before a condition does, and two numbers have no family.
  | .string, _ | _, .string => some .strings
  | .boolean, _ | _, .boolean => some .booleans
  | .any, .any => some .untyped
  | _, _ => none

/-- The equality of two trees, in the family that their kinds call for and else one of numbers. -/
def Expr.equality (left right : Expr) : Expr :=
  -- Numbers are compared as by the other signs of comparison.
  match Equality.ofKinds? left.kind right.kind with
  | some family => .equal family left right
  | none => .compare .equal left right

end MessageSelector
