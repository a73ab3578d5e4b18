import MessageSelector.Expr.Basic

/-! Trees written out as selectors, with brackets around every operator. -/

namespace MessageSelector

namespace Expr

/-- The members of a set between quotes, with commas between them. -/
def writtenMembers (members : List String) : String :=
  String.intercalate ", " (members.map quoted)

/-- The escape clause of a pattern, if it has one. -/
def writtenEscape : Option Char → String
  -- The clause is left out where there is none, so nothing is added to such a pattern.
  | none => ""
  | some c => " ESCAPE " ++ quoted (String.singleton c)

variable [Regex.Engine]

/-- The tree as a selector, which reads back as the same tree when its leaves do. -/
def written : Expr → String
  | literal constant => constant.text
  | reference identifier => identifier.name
  | arithmetic op left right => "(" ++ left.written ++ " " ++ op.text ++ " " ++ right.written ++ ")"
  -- A minus next to a number would read back as the sign of that number.
  | negate (literal constant) => "(-(" ++ constant.text ++ "))"
  | negate operand => "(-" ++ operand.written ++ ")"
  | compare op left right => "(" ++ left.written ++ " " ++ op.text ++ " " ++ right.written ++ ")"
  | connect op left right => "(" ++ left.written ++ " " ++ op.text ++ " " ++ right.written ++ ")"
  | not operand => "(NOT " ++ operand.written ++ ")"
  | equal _ left right => "(" ++ left.written ++ " = " ++ right.written ++ ")"
  | between value lower upper =>
    "(" ++ value.written ++ " BETWEEN " ++ lower.written ++ " AND " ++ upper.written ++ ")"
  | within operand set => "(" ++ operand.written ++ " IN (" ++ writtenMembers set.members ++ "))"
  | like operand pattern _ =>
    "(" ++ operand.written ++ " LIKE " ++ quoted pattern.text ++ writtenEscape pattern.escape ++ ")"
  | isNull operand => "(" ++ operand.written ++ " IS NULL)"

end Expr

end MessageSelector
