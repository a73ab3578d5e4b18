import MessageSelector.Decimal.Fraction
import MessageSelector.Text.Case
import MessageSelector.Value

/-! Literals: the constants of a selector, each with the text it was written as. -/

namespace MessageSelector

/-- The kinds of literals whose text can be at fault. -/
inductive LiteralKind where
  | boolean
  | long
  | double
deriving DecidableEq, Repr

/-- The word for a kind of literals. -/
def LiteralKind.text : LiteralKind → String
  | boolean => "boolean"
  | long => "long"
  | double => "double"

/-- A text that is no literal of the kind it was meant to be. -/
structure LiteralError where
  kind : LiteralKind
  text : String
deriving DecidableEq

/-- The sentence that names the kind and the text at fault. -/
def LiteralError.message (error : LiteralError) : String :=
  s!"Invalid {error.kind.text} literal '{error.text}'"

/-- The text without its last character when that is one of the type suffixes. -/
def dropTypeSuffix (suffixes : List Char) (text : List Char) : List Char :=
  if text.getLast?.any suffixes.contains then text.dropLast else text

/-- The flag that a text writes in any case of its letters. -/
def readBoolean? (text : String) : Option Bool :=
  -- The words may be written in either case, each letter for itself.
  if agreeIgnoringCase text "TRUE" then some true
  else if agreeIgnoringCase text "FALSE" then some false
  else none

/-- The integer that a text writes, with or without the suffix L. -/
def readLong? (text : String) : Option Int64 :=
  readInt64? (dropTypeSuffix ['L', 'l'] text.toList)

/-- The float that a text writes, with or without one of the suffixes D and F. -/
def readDouble? (text : String) : Option Float :=
  readFloat? (dropTypeSuffix ['D', 'd', 'F', 'f'] text.toList)

/-- A constant; numbers keep the text from which their value was read. -/
inductive Literal where
  | boolean (flag : Bool)
  -- Numbers keep their text, with the proof that it is read as their value.
  | long (text : String) (value : Int64) (reads : readLong? text = some value)
  | double (text : String) (value : Float) (reads : readDouble? text = some value)
  | string (content : String)
deriving DecidableEq

namespace Literal

/-- The boolean literal that a text writes. -/
def ofBoolean (text : String) : Except LiteralError Literal :=
  -- The literal keeps the flag and not the text, so it is written in upper case.
  match readBoolean? text with
  | some flag => .ok (boolean flag)
  | none => .error ⟨.boolean, text⟩

/-- The integer literal that a text writes. -/
def ofLong (text : String) : Except LiteralError Literal :=
  match reads : readLong? text with
  -- The proof that the text reads as the value goes into the literal.
  | some value => .ok (long text value reads)
  | none => .error ⟨.long, text⟩

/-- The float literal that a text writes. -/
def ofDouble (text : String) : Except LiteralError Literal :=
  -- The match keeps the equation, which is what the literal is made with.
  match reads : readDouble? text with
  | some value => .ok (double text value reads)
  | none => .error ⟨.double, text⟩

/-- A fraction, an exponent or one of the suffixes D and F makes a number a float. -/
def isApproximate (text : String) : Bool :=
  -- This looks at the shape alone; whether the text is a number is found out later.
  text.toList.any ['.', 'e', 'E'].contains || text.toList.getLast?.any ['d', 'D', 'f', 'F'].contains

/-- The number literal that a text writes, a float or an integer by the shape of the text. -/
def ofNumeral (text : String) : Except LiteralError Literal :=
  if isApproximate text then ofDouble text else ofLong text

/-- The value that the literal stands for. -/
def value : Literal → Value
  -- The text of a number is of no account for its value.
  | boolean flag => .boolean flag
  | long _ value _ => .number (.long value)
  | double _ value _ => .number (.double value)
  | string content => .string content

/-- The literal as it is written: booleans in upper case, strings between quotes. -/
def text : Literal → String
  -- Numbers are written as they were read, and strings with their quotes doubled.
  | boolean flag => (Truth.ofBool flag).text
  | long text _ _ => text
  | double text _ _ => text
  | string content => quoted content

end Literal

end MessageSelector
