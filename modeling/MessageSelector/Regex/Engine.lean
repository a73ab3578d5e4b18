/-! Regular expressions: what an engine does with them, and the part of their language that is
written here. -/

namespace MessageSelector

namespace Regex

/-- An engine for regular expressions. It belongs to another program, so no engine is fixed here. -/
class Engine where
  /-- Writes a text so that it stands for itself inside an expression. -/
  escape : String → String
  /-- The size of an expression once it is compiled, in bytes. -/
  size : String → Nat
  /-- Compiles an expression to the test whether a text has a match, or tells what is wrong. -/
  compile : String → Except String (String → Bool)

/-- The largest size that an engine compiles an expression to, which is ten megabytes. -/
def sizeLimit : Nat :=
  10 * 1024 * 1024

/-- What stands for one character. -/
inductive Atom where
  | dot
  | char (c : Char)
deriving DecidableEq, Repr

/-- The parts that an expression is put together from. -/
inductive Part where
  | start
  | finish
  | one (atom : Atom)
  | many (atom : Atom)
deriving DecidableEq, Repr

section

variable [Engine]

/-- An atom as it is written. -/
def Atom.text : Atom → String
  | dot => "."
  -- A character that has a meaning of its own has to be escaped.
  | char c => Engine.escape (String.singleton c)

/-- A part as it is written. -/
def Part.text : Part → String
  -- A star repeats the one atom before it, so no brackets are needed.
  | start => "^"
  | finish => "$"
  | one atom => atom.text
  | many atom => atom.text ++ "*"

/-- The parts as they are written, one behind the other. -/
def joinedText : List Part → String
  -- The parts need nothing between them.
  | [] => ""
  | part :: parts => part.text ++ joinedText parts

/-- An expression as it is written, with the flag `s` in front of it or without. -/
def textOf (dotAll : Bool) (parts : List Part) : String :=
  if dotAll then "(?s)" ++ joinedText parts else joinedText parts

end

/-- The characters that an atom stands for. -/
def Atom.accepts (dotAll : Bool) : Atom → Char → Bool
  -- Only under the flag `s` does a dot stand for the end of a line as well.
  | dot, c => dotAll || c != '\n'
  | char own, c => c == own

/-- The piece of a text that a part takes, between what comes before and after that piece. -/
def Part.Takes (dotAll : Bool) (before piece after : List Char) : Part → Prop
  -- Anchors take nothing, and stand at the two ends of the whole text only.
  | start => piece = [] ∧ before = []
  | finish => piece = [] ∧ after = []
  | one atom => ∃ c, piece = [c] ∧ atom.accepts dotAll c = true
  | many atom => ∀ c ∈ piece, atom.accepts dotAll c = true

/-- The parts take one piece after another, which together are the piece `taken` of the text. -/
def Matches (dotAll : Bool) : List Part → (before taken after : List Char) → Prop
  | [], _, taken, _ => taken = []
  | part :: parts, before, taken, after =>
    -- Each part sees the rest of the text too, which the anchor at the end asks for.
    ∃ piece rest, taken = piece ++ rest ∧ part.Takes dotAll before piece (rest ++ after) ∧
      Matches dotAll parts (before ++ piece) rest after

/-- The text has a match of the expression in it, which may begin and end anywhere. -/
def Found (dotAll : Bool) (parts : List Part) (text : List Char) : Prop :=
  ∃ before taken after, text = before ++ taken ++ after ∧ Matches dotAll parts before taken after

/-- The engine does what is documented of it, for the expressions that are written here. -/
structure Documented [Engine] : Prop where
  /-- A compiled expression tells of every text whether it has a match. -/
  found_iff (dotAll : Bool) (parts : List Part) (isFound : String → Bool) :
    Engine.compile (textOf dotAll parts) = .ok isFound →
      ∀ text, isFound text = true ↔ Found dotAll parts text.toList
  /-- An expression is refused only where it would become too large. -/
  compiles_iff (dotAll : Bool) (parts : List Part) :
    (∃ isFound, Engine.compile (textOf dotAll parts) = .ok isFound) ↔
      Engine.size (textOf dotAll parts) ≤ sizeLimit

end Regex

end MessageSelector
