import MessageSelector.Identifier
import MessageSelector.LikePattern
import MessageSelector.Literal
import MessageSelector.Token.Basic

/-! Why a text is no selector, and where in the text that shows. -/

namespace MessageSelector

/-- What a selector would have to go on with. -/
inductive Wanted where
  | token (wanted : Token)
  | operand
  | string
  | negatedTest
deriving DecidableEq

/-- What is wanted, as error messages name it. -/
def Wanted.description : Wanted → String
  -- A single token is told by its own description.
  | token wanted => wanted.description
  | operand => "an operand"
  | string => "a string literal"
  | negatedTest => "BETWEEN, IN or LIKE after NOT"

/-- The ways in which a text fails to be a selector. -/
inductive Fault where
  | unexpectedCharacter (c : Char)
  | unterminatedString
  | expected (wanted : Wanted) (found : Token)
  | reservedOperand (word : Keyword)
  -- The faults of names and literals are passed on from where these are made.
  | identifier (error : IdentifierError)
  | number (error : LiteralError)
  | boolean (error : LiteralError)
  | like (error : LikeError)
deriving DecidableEq

/-- The sentence that tells a fault. -/
def Fault.message : Fault → String
  -- Both the token that was wanted and the one that is there are told.
  | unexpectedCharacter c => s!"Unexpected character '{c}'"
  | unterminatedString => "Unterminated string literal"
  | expected wanted found => s!"Expected {wanted.description}, found {found.description}"
  | reservedOperand word => s!"Reserved word {word.text} cannot be used as an operand"
  | identifier error => error.message
  | number error | boolean error => error.message
  | like error => error.message

/-- A fault, and the number of characters of the text before it. -/
structure SyntaxError where
  -- The offset is that of the token or character the fault is told about.
  offset : Nat
  fault : Fault
deriving DecidableEq

/-- The sentence that tells a fault and its place. -/
def SyntaxError.message (error : SyntaxError) : String :=
  s!"Syntax error at offset {error.offset}: {error.fault.message}"

end MessageSelector
