import MessageSelector.SyntaxError
import MessageSelector.Text.Blank
import MessageSelector.Text.Quoted
import MessageSelector.Token.Numeral

/-! Reading a text token by token. -/

namespace MessageSelector

/-- A token read from the front of a text: how it is spelled there, and the text after it. -/
structure Scanned where
  -- The spelling and the text after it together are the text the scan began at.
  token : Token
  spelling : List Char
  after : List Char

/-- Reads the token that a text begins with, given the first character of the text and the rest.

The first character, which must be no blank, tells what kind of token it begins. -/
def Token.scan (c : Char) (rest : List Char) : Except Fault Scanned :=
  if c = quoteMark then
    match closeQuote? rest with
    | some (content, after) =>
      .ok
        { token := .string (String.ofList content)
          spelling := quoteMark :: (doubleQuotes content ++ [quoteMark])
          after }
    | none => .error .unterminatedString
  else if Numeral.starts (c :: rest) then
    -- A number is never a fault here; what follows it is looked at as the next token.
    let (spelling, after) := Numeral.split (c :: rest)
    .ok { token := .number (String.ofList spelling), spelling, after }
  else if isWordStart c then
    -- Whether the word is a keyword is only asked when all of it is read.
    let spelling := (c :: rest).takeWhile isWordPart
    .ok
      { token := .ofWord (String.ofList spelling)
        spelling
        after := (c :: rest).dropWhile isWordPart }
  else
    match Mark.scan? (c :: rest) with
    | some (sign, after) => .ok { token := .mark sign, spelling := sign.text.toList, after }
    | none => .error (.unexpectedCharacter c)

/-- The spelling of a token and the text after it make up the text it was read from. -/
theorem Token.spelling_append_after {c : Char} {rest : List Char} {scanned : Scanned}
    (read : Token.scan c rest = .ok scanned) : scanned.spelling ++ scanned.after = c :: rest := by
  -- Each kind of token is cut off the text by a function that loses nothing.
  unfold Token.scan at read
  split at read
  · rename_i quote
    split at read
    · rename_i content after closed
      cases read
      simp [quote, ← append_of_closeQuote? closed]
    · cases read
  · split at read
    · rw [← Except.ok.inj read]
      exact Numeral.split_append (c :: rest)
    · split at read
      · rw [← Except.ok.inj read]
        exact List.takeWhile_append_dropWhile
      · split at read
        · rename_i sign after found
          cases read
          exact Mark.scan?_append found
        · cases read

/-- A character that a word can begin with can also stand within a word. -/
theorem isWordPart_of_isWordStart {c : Char} (starts : isWordStart c = true) :
    isWordPart c = true := by
  -- A word part may be anything that a word start may be, and a numeral besides.
  unfold isWordStart at starts
  unfold isWordPart
  revert starts
  cases isAlphabetic c <;> cases isNumeric c <;> simp

/-- A token is spelled with at least one character. -/
theorem Token.spelling_ne_nil {c : Char} {rest : List Char} {scanned : Scanned}
    (read : Token.scan c rest = .ok scanned) : scanned.spelling ≠ [] := by
  -- A quote, a digit or a point, a letter and a sign each are a part of the spelling.
  unfold Token.scan at read
  split at read
  · split at read
    · cases read
      exact List.cons_ne_nil _ _
    · cases read
  · split at read
    · rename_i number
      rw [← Except.ok.inj read]
      exact Numeral.split_ne_nil number
    · split at read
      · rename_i starts
        rw [← Except.ok.inj read]
        simp [isWordPart_of_isWordStart starts]
      · split at read
        · rename_i sign after found
          cases read
          show sign.text.toList ≠ []
          cases sign <;> decide
        · cases read

/-- A place in a text: what is left to read, and the number of characters before it. -/
structure Cursor where
  -- The offset grows by the length of what is consumed, so it always names a place of the text.
  rest : List Char
  offset : Nat
deriving DecidableEq

namespace Cursor

/-- The beginning of a text. -/
def start (text : String) : Cursor :=
  ⟨text.toList, 0⟩

/-- The place after some characters of the rest. -/
def advance (cursor : Cursor) (taken rest : List Char) : Cursor :=
  ⟨rest, cursor.offset + taken.length⟩

/-- The first place from here on that is not a blank. -/
def skipBlanks (cursor : Cursor) : Cursor :=
  cursor.advance (cursor.rest.takeWhile isBlank) (cursor.rest.dropWhile isBlank)

/-- The next token or the reason why there is none, and the place from which to read on.

At the end of the text there is no end to the tokens that say so. A character that begins no token
is never passed. -/
def next (cursor : Cursor) : Except SyntaxError Lexeme × Cursor :=
  let start := cursor.skipBlanks
  match start.rest with
  -- Reading at the end again gives the end again.
  | [] => (.ok ⟨.endOfInput, start.offset⟩, start)
  | c :: rest =>
    match Token.scan c rest with
    | .ok scanned =>
      (.ok ⟨scanned.token, start.offset⟩, start.advance scanned.spelling scanned.after)
    -- A string without a closing quote takes up all of the text.
    | .error .unterminatedString =>
      (.error ⟨start.offset, .unterminatedString⟩, start.advance (c :: rest) [])
    | .error fault => (.error ⟨start.offset, fault⟩, start)

/-- Reading a token that is not the end of the text leaves less to read. -/
theorem length_rest_next {cursor : Cursor} {lexeme : Lexeme} (read : cursor.next.1 = .ok lexeme)
    (inside : lexeme.token ≠ .endOfInput) : cursor.next.2.rest.length < cursor.rest.length := by
  have blanks := (List.dropWhile_sublist (l := cursor.rest) isBlank).length_le
  unfold next at read ⊢
  cases left : cursor.skipBlanks.rest with
  | nil =>
    simp only [left] at read
    cases read
    exact absurd rfl inside
  | cons c rest =>
    simp only [left] at read ⊢
    have start : cursor.rest.dropWhile isBlank = c :: rest := left
    cases found : Token.scan c rest with
    | error fault => cases fault <;> simp [found] at read
    | ok scanned =>
      -- The blanks before the token count for nothing, and its spelling for at least one.
      have lengths := congrArg List.length (Token.spelling_append_after found)
      have some := List.length_pos_iff.2 (Token.spelling_ne_nil found)
      simp only [advance]
      rw [start, ← lengths, List.length_append] at blanks
      omega

/-- The tokens from here to the end of the text, which is the last of them, or the first fault. -/
def lexemes (cursor : Cursor) : Except SyntaxError (List Lexeme) :=
  match _ : cursor.next.1 with
  | .error error => .error error
  | .ok lexeme =>
    -- Every other token moves the place on, so the end is reached.
    if _ : lexeme.token = .endOfInput then .ok [lexeme]
    else (lexemes cursor.next.2).map (lexeme :: ·)
termination_by cursor.rest.length
decreasing_by exact length_rest_next ‹_› ‹_›

/-- The results of reading a number of times. -/
def steps : Nat → Cursor → List (Except SyntaxError Lexeme)
  | 0, _ => []
  | count + 1, cursor =>
    -- A failing step is recorded like any other, and the walk goes on from where it left the
    -- cursor.
    let (result, after) := cursor.next
    result :: steps count after

end Cursor

/-- The tokens of a text up to its end, or the first fault in it. -/
def tokenize (text : String) : Except SyntaxError (List Lexeme) :=
  (Cursor.start text).lexemes

end MessageSelector
