import MessageSelector.Text.Case

/-! The tokens that the text of a selector is made of. -/

namespace MessageSelector

/-- The words of the selector language; `within` is the word IN, `yes` and `no` are the booleans. -/
inductive Keyword where
  | and
  | or
  | not
  | between
  | like
  | escape
  | within
  | is
  | null
  | yes
  | no
deriving DecidableEq, Repr

namespace Keyword

/-- Every keyword once. -/
def all : List Keyword :=
  [and, or, not, between, like, escape, within, is, null, yes, no]

/-- The keyword in upper case. -/
def text : Keyword → String
  -- The case in which a keyword was written is not kept.
  | and => "AND"
  | or => "OR"
  | not => "NOT"
  | between => "BETWEEN"
  | like => "LIKE"
  | escape => "ESCAPE"
  | within => "IN"
  | is => "IS"
  | null => "NULL"
  | yes => "TRUE"
  | no => "FALSE"

/-- The keyword that a word spells in any case of its letters, if it spells one. -/
def ofText? (word : String) : Option Keyword :=
  all.find? fun keyword => keyword.text == upperCase word

end Keyword

/-- The operators, brackets and separators that are written with signs. -/
inductive Mark where
  | plus
  | minus
  | star
  | slash
  | equal
  | notEqual
  | less
  | lessEqual
  | greater
  | greaterEqual
  | openBracket
  | closeBracket
  | comma
deriving DecidableEq, Repr

namespace Mark

/-- The signs that the mark is written with. -/
def text : Mark → String
  | plus => "+"
  | minus => "-"
  | star => "*"
  | slash => "/"
  | equal => "="
  | notEqual => "<>"
  | less => "<"
  | lessEqual => "<="
  | greater => ">"
  | greaterEqual => ">="
  | openBracket => "("
  | closeBracket => ")"
  | comma => ","

/-- The longest mark that a text begins with, and the text after it. -/
def scan? : List Char → Option (Mark × List Char)
  -- The marks of two signs come before those of one, so that the longest one is read.
  | '<' :: '=' :: rest => some (lessEqual, rest)
  | '<' :: '>' :: rest => some (notEqual, rest)
  | '<' :: rest => some (less, rest)
  | '>' :: '=' :: rest => some (greaterEqual, rest)
  | '>' :: rest => some (greater, rest)
  | '+' :: rest => some (plus, rest)
  | '-' :: rest => some (minus, rest)
  | '*' :: rest => some (star, rest)
  | '/' :: rest => some (slash, rest)
  | '=' :: rest => some (equal, rest)
  | '(' :: rest => some (openBracket, rest)
  | ')' :: rest => some (closeBracket, rest)
  | ',' :: rest => some (comma, rest)
  | _ => none

/-- A mark is followed by the text after its signs. -/
theorem scan?_append {text after : List Char} {sign : Mark}
    (found : scan? text = some (sign, after)) : sign.text.toList ++ after = text := by
  -- Every row of the table consumes the sign it yields and leaves the characters behind it alone.
  unfold scan? at found
  split at found <;> cases found <;> rfl

end Mark

/-- A token; numbers are kept as they are written, strings without their quotes. -/
inductive Token where
  | identifier (name : String)
  | number (text : String)
  | string (content : String)
  | keyword (word : Keyword)
  | mark (sign : Mark)
  | endOfInput
deriving DecidableEq, Repr

namespace Token

/-- The keyword that a word spells, and an identifier for any other word. -/
def ofWord (word : String) : Token :=
  -- A word that is no keyword in any case is an identifier, kept as it was written.
  match Keyword.ofText? word with
  | some found => .keyword found
  | none => .identifier word

/-- The token is a word of the selector language. -/
def isKeyword : Token → Bool
  | keyword _ => true
  | _ => false

/-- The token as error messages name it. -/
def description : Token → String
  -- Only the tokens that carry a text of their own name their kind in front of it.
  | identifier name => s!"identifier '{name}'"
  | number text => s!"number {text}"
  | string content => s!"string '{content}'"
  | keyword word => word.text
  | mark sign => s!"'{sign.text}'"
  | endOfInput => "end of input"

end Token

/-- A token and the number of characters before it. -/
structure Lexeme where
  -- The offset counts characters, not bytes, from the start of the text.
  token : Token
  offset : Nat
deriving DecidableEq, Repr

end MessageSelector
