import MessageSelector.Literal
import MessageSelector.Text.Blank

/-! Assignments: a name, an equals sign and a value, whose type is told by the way it is written. -/

namespace MessageSelector

/-- A name and the value to be bound to it. -/
structure Assignment where
  name : String
  value : Value

/-- Why a text is no assignment. -/
inductive AssignmentFault where
  | missingEquals
  | emptyName
deriving DecidableEq

/-- The fault as error messages name it. -/
def AssignmentFault.description : AssignmentFault → String
  -- A text without an equals sign has no name at all, so it is told apart from an empty one.
  | missingEquals => "expected NAME=VALUE"
  | emptyName => "name is empty"

/-- A text that is no assignment, and why. -/
structure AssignmentError where
  text : String
  fault : AssignmentFault
deriving DecidableEq

/-- The sentence that names the text and its fault. -/
def AssignmentError.message (error : AssignmentError) : String :=
  s!"Invalid assignment '{error.text}': {error.fault.description}"

/-- The text between a first and a last quote, with each pair of quotes in it written once. -/
def readQuoted? : List Char → Option String
  | [] => none
  | c :: rest =>
    -- One quote alone cannot be both the first and the last.
    if c = quoteMark ∧ rest.getLast? = some quoteMark then
      some (String.ofList (mergeQuotes rest.dropLast))
    else none

/-- The finite float that a text writes. -/
def readFinite? (text : List Char) : Option Float :=
  (readFloat? text).filter Float.isFinite

/-- The value that a trimmed text writes.

A quoted text is a string; else it is read as a boolean, an integer or a float, whichever it writes
first in this order, and as a string if it writes none of them. -/
def readValue (text : List Char) : Value :=
  let typed :=
    -- The readers are tried in turn, so a quoted text is a string even if it looks like a number.
    (readQuoted? text).map Value.string <|>
    (readBoolean? (String.ofList text)).map Value.boolean <|>
    (readInt64? text).map (Value.number ∘ Number.long) <|>
    (readFinite? text).map (Value.number ∘ Number.double)
  typed.getD (.string (String.ofList text))

/-- Reads an assignment: what comes before the first equals sign is the name, without its blanks. -/
def Assignment.ofText (text : String) : Except AssignmentError Assignment :=
  let characters := text.toList
  match characters.dropWhile (· != '=') with
  | [] => .error ⟨text, .missingEquals⟩
  -- A later equals sign is a part of the value.
  | _ :: value =>
    let name := trimBlanks (characters.takeWhile (· != '='))
    if name.isEmpty then .error ⟨text, .emptyName⟩
    else .ok ⟨String.ofList name, readValue (trimBlanks value)⟩

end MessageSelector
