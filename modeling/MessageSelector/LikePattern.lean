import MessageSelector.Regex.Engine
import MessageSelector.Text.Blank

/-! Patterns of LIKE: texts in which some characters stand for any character or any run of them,
which are written as regular expressions. -/

namespace MessageSelector

/-- Why the right side of LIKE is refused. -/
inductive LikeError where
  | notConstant (pattern : String)
  | danglingEscape (pattern : String)
  | uncompiled (pattern reason : String)
  | badEscape (escape : String)
deriving DecidableEq

/-- The sentence that tells why the right side of LIKE is refused. -/
def LikeError.message : LikeError → String
  | notConstant pattern => s!"Invalid LIKE pattern '{pattern}': pattern must be a string constant"
  | danglingEscape pattern =>
    s!"Invalid LIKE pattern '{pattern}': escape character at end of pattern"
  -- The engine gives its own reason, which is passed on as it is.
  | uncompiled pattern reason => s!"Invalid LIKE pattern '{pattern}': {reason}"
  | badEscape escape => s!"Invalid ESCAPE '{escape}': expected exactly one character"

namespace LikePattern

section

variable [Regex.Engine]

/-- Adds the expression of a character that stands for itself. -/
def pushLiteral (out : String) (c : Char) : String :=
  out ++ Regex.Engine.escape (String.singleton c)

/-- Adds the expression of a character that no escape character comes before. -/
def pushPlain (out : String) (c : Char) : String :=
  if c = '_' then out ++ "." else if c = '%' then out ++ ".*" else pushLiteral out c

/-- Adds the expression of a pattern, if no escape character is left over at its end. -/
def translateFrom (escape : Option Char) (out : String) : List Char → Option String
  | [] => some out
  | c :: rest =>
    -- The escape comes first, so that an escape character is never taken for a wildcard.
    if some c = escape then
      match rest with
      | [] => none
      | next :: rest => translateFrom escape (pushLiteral out next) rest
    else translateFrom escape (pushPlain out c) rest

/-- The expression of a pattern, which has to match a text as a whole and across its lines. -/
def translate (text : String) (escape : Option Char) : Except LikeError String :=
  -- The flag lets a dot stand for a line end, and the anchors leave nothing out of the match.
  match translateFrom escape "(?s)^" text.toList with
  | some out => .ok (out ++ "$")
  | none => .error (.danglingEscape text)

/-- Compiles the expression of a pattern. -/
def compile (text : String) (escape : Option Char) : Except LikeError (String → Bool) :=
  -- Whatever is wrong with the pattern itself is told before the engine is asked.
  match translate text escape with
  | .error error => .error error
  | .ok expression => (Regex.Engine.compile expression).mapError (.uncompiled text)

end

end LikePattern

/-- A pattern that has been read: its text, its escape character and what they compile to. -/
structure LikePattern [Regex.Engine] where
  text : String
  escape : Option Char
  isFound : String → Bool
  -- The test belongs to the text and the escape, so that it need not be compared.
  compiles : LikePattern.compile text escape = .ok isFound

namespace LikePattern

/-- The escape character that a text stands for: the one character left when blanks are trimmed. -/
def readEscape (text : String) : Except LikeError Char :=
  -- Trimming may leave nothing or more than one character, and both are refused.
  match trimBlanks text.toList with
  | [c] => .ok c
  | _ => .error (.badEscape text)

/-- Trimming leaves no blank at the front, so an escape character is never a blank. -/
theorem isBlank_of_readEscape {text : String} {c : Char} (read : readEscape text = .ok c) :
    isBlank c = false := by
  unfold readEscape at read
  split at read
  · rename_i only trimmed
    cases read
    -- The one character left is what the second round of trimming came to a stop at.
    have front := List.head?_dropWhile_not isBlank (skipBlanks text.toList).reverse
    have reversed : (skipBlanks text.toList).reverse.dropWhile isBlank = [c] := by
      simpa [trimBlanks, skipBlanks] using congrArg List.reverse trimmed
    simpa [reversed] using front
  · cases read

variable [Regex.Engine]

/-- Reads the text of a pattern with an optional escape character. -/
def ofText (text : String) (escape : Option Char) : Except LikeError LikePattern :=
  -- The match keeps the equation that ties the test to the text.
  match compiles : compile text escape with
  | .ok isFound => .ok { text, escape, isFound, compiles }
  | .error error => .error error

/-- Reading a pattern keeps its escape character. -/
theorem escape_eq_of_ofText {text : String} {escape : Option Char} {pattern : LikePattern}
    (read : ofText text escape = .ok pattern) : pattern.escape = escape := by
  -- Only a success makes a pattern, and it is made with the escape character at hand.
  unfold ofText at read
  split at read
  · cases read; rfl
  · cases read

/-- Patterns with one text and one escape character are the same. -/
theorem ext_text {left right : LikePattern} (sameText : left.text = right.text)
    (sameEscape : left.escape = right.escape) : left = right := by
  obtain ⟨text, escape, isFound, compiles⟩ := left
  obtain ⟨_, _, other, alike⟩ := right
  cases sameText
  cases sameEscape
  -- The expression is the same as well, and it compiles to one test only.
  cases compiles.symm.trans alike
  rfl

/-- Patterns are compared by their texts and escape characters. -/
instance : DecidableEq LikePattern := fun left right =>
  decidable_of_iff (left.text = right.text ∧ left.escape = right.escape)
    ⟨fun same => ext_text same.1 same.2, by rintro rfl; exact ⟨rfl, rfl⟩⟩

/-- The text matches the pattern. -/
def isMatch (pattern : LikePattern) (text : String) : Bool :=
  -- The expression is bound to both ends, so a match in the text is one of the whole text.
  pattern.isFound text

end LikePattern

end MessageSelector
