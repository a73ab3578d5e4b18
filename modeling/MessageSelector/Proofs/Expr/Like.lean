import MessageSelector.Proofs.Expr.Equality
import MessageSelector.Proofs.Expr.Pattern
import MessageSelector.Proofs.LikePattern
import MessageSelector.Proofs.Text.Blank

/-! Which patterns and escape clauses make a LIKE condition, and what is told of all others. -/

namespace MessageSelector

namespace LikePattern

end LikePattern

namespace Expr

section

variable [Regex.Engine]

variable {operand pattern : Expr} {clause : Option Expr} {text : String} {escape : Option Char}

end

end Expr

end MessageSelector
