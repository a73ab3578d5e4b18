import MessageSelector.Expr.Evaluation
import MessageSelector.Expr.Written

/-! LIKE conditions, whose pattern and escape character are fixed when the tree is built. -/

namespace MessageSelector

namespace Expr

/-- An escape character that can be written in a selector, or none. -/
abbrev VisibleEscape := { escape : Option Char // escape.all (fun c => !isBlank c) = true }

variable [Regex.Engine]

/-- The escape character of a clause, which is evaluated with nothing bound. -/
def readEscapeClause : Option Expr → Except LikeError VisibleEscape
  | none => .ok ⟨none, rfl⟩
  | some clause =>
    match stringOperand (clause.eval ∅) with
    | none => .error (.badEscape clause.written)
    | some text =>
      -- The character is kept with the proof that it can be written.
      match read : LikePattern.readEscape text with
      | .error error => .error error
      | .ok c => .ok ⟨some c, by simp [LikePattern.isBlank_of_readEscape read]⟩

/-- A LIKE condition; of several faults, that of the pattern's value is told first.

The pattern is evaluated with nothing bound, so it has to be a string whatever is bound later. -/
def likeOf (operand pattern : Expr) (clause : Option Expr) : Except LikeError Expr :=
  -- The escape clause is read before the pattern, as the pattern is read with its character.
  match stringOperand (pattern.eval ∅) with
  | none => .error (.notConstant pattern.written)
  | some text =>
    match readEscapeClause clause with
    | .error error => .error error
    | .ok escape =>
      match read : LikePattern.ofText text escape with
      | .error error => .error error
      | .ok pattern =>
        .ok (.like operand pattern (by rw [LikePattern.escape_eq_of_ofText read]; exact escape.2))

end Expr

end MessageSelector
