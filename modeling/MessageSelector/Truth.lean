/-! The three outcomes of a condition; one over missing values is neither true nor false. -/

namespace MessageSelector

/-- The outcome of a condition. -/
inductive Truth where
  | yes
  | no
  | unknown
deriving DecidableEq, Repr

namespace Truth

/-- The outcome of a condition that has been settled. -/
def ofBool (settled : Bool) : Truth :=
  if settled then yes else no

/-- A settled condition holds if it was settled so. -/
@[simp] theorem ofBool_eq_yes_iff {settled : Bool} : ofBool settled = yes ↔ settled = true := by
  cases settled <;> decide

/-- The condition holds; one that is unknown does not. -/
def isTrue (truth : Truth) : Bool :=
  truth == yes

/-- The condition is neither true nor false. -/
def isUnknown (truth : Truth) : Bool :=
  truth == unknown

/-- The outcome of the opposite condition; the opposite of unknown is unknown. -/
def negate : Truth → Truth
  -- Negation exchanges the settled truths and cannot settle an open one.
  | yes => no
  | no => yes
  | unknown => unknown

/-- The outcome of two conditions of which one suffices, whichever is looked at first. -/
def or : Truth → Truth → Truth
  -- One TRUE settles the disjunction, and two FALSE are needed to refuse it.
  | yes, _ | _, yes => yes
  | unknown, _ | _, unknown => unknown
  | no, no => no

/-- The outcome as a word in upper case. -/
def text : Truth → String
  | yes => "TRUE"
  | no => "FALSE"
  | unknown => "UNKNOWN"

end Truth

end MessageSelector
