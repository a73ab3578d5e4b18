import MessageSelector.Text.Alphabetic
import MessageSelector.Text.Numeric

/-! Where words and numbers end in the text of a selector. -/

namespace MessageSelector

/-- The characters that a word can begin with. -/
def isWordStart (c : Char) : Bool :=
  isAlphabetic c || c == '_' || c == '$'

/-- The characters that a word can go on with. -/
def isWordPart (c : Char) : Bool :=
  isAlphabetic c || isNumeric c || c == '_' || c == '$'

namespace Numeral

/-- The text goes on with a digit. -/
def startsWithDigit (text : List Char) : Bool :=
  text.head?.any Char.isDigit

/-- A digit, or a point before a digit, begins a number. -/
def starts : List Char → Bool
  -- A point begins a number only when a digit follows it.
  | '.' :: rest => startsWithDigit rest
  | text => startsWithDigit text

/-- The digits that a text begins with, and the text after them. -/
def splitDigits (text : List Char) : List Char × List Char :=
  (text.takeWhile Char.isDigit, text.dropWhile Char.isDigit)

/-- A point and the digits after it, if there are any, and the text after those. -/
def splitDecimals : List Char → List Char × List Char
  | '.' :: rest =>
    -- A point without digits after it is left over, and belongs to no number.
    if startsWithDigit rest then
      let (digits, after) := splitDigits rest
      ('.' :: digits, after)
    else ([], '.' :: rest)
  | text => ([], text)

/-- The sign that a text begins with, if there is one, and the text after it. -/
def splitSignMark : List Char → List Char × List Char
  -- The sign is optional, so a text without one is split after nothing.
  | '+' :: rest => (['+'], rest)
  | '-' :: rest => (['-'], rest)
  | text => ([], text)

/-- The letter e with a sign and digits, if it has digits, and the text after them. -/
def splitExponent : List Char → List Char × List Char
  | [] => ([], [])
  | e :: rest =>
    let (sign, afterSign) := splitSignMark rest
    -- The letter alone is left over, as the beginning of a word.
    if (e = 'e' ∨ e = 'E') ∧ startsWithDigit afterSign then
      let (digits, after) := splitDigits afterSign
      (e :: (sign ++ digits), after)
    else ([], e :: rest)

/-- The letters that tell the type of the number before them. -/
def typeSuffixes : List Char := ['L', 'l', 'D', 'd', 'F', 'f']

/-- A type suffix, unless it is the beginning of a longer word, and the text after it. -/
def splitSuffix : List Char → List Char × List Char
  | [] => ([], [])
  | c :: rest =>
    -- A letter that goes on into a word is no suffix: the word is read as the next token.
    if typeSuffixes.contains c && !rest.head?.any isWordPart then ([c], rest) else ([], c :: rest)

/-- The number that a text begins with, as it is written, and the text after it. -/
def split (text : List Char) : List Char × List Char :=
  -- Each part is taken from what the part before it left.
  let (whole, afterWhole) := splitDigits text
  let (decimals, afterDecimals) := splitDecimals afterWhole
  let (exponent, afterExponent) := splitExponent afterDecimals
  let (suffix, after) := splitSuffix afterExponent
  (whole ++ decimals ++ exponent ++ suffix, after)

/-- Nothing is lost between the digits and what follows them. -/
theorem splitDigits_append (text : List Char) :
    (splitDigits text).1 ++ (splitDigits text).2 = text :=
  -- Taking a prefix and dropping it divide the text at the same place.
  List.takeWhile_append_dropWhile

/-- Nothing is lost between the decimals and what follows them. -/
theorem splitDecimals_append (text : List Char) :
    (splitDecimals text).1 ++ (splitDecimals text).2 = text := by
  -- The point is put back before the digits, or was never taken.
  unfold splitDecimals
  split
  · split
    · simp [splitDigits_append]
    · rfl
  · rfl

/-- Nothing is lost between the sign and what follows it. -/
theorem splitSignMark_append (text : List Char) :
    (splitSignMark text).1 ++ (splitSignMark text).2 = text := by
  -- Each of the three cases keeps the characters in their order.
  unfold splitSignMark
  split <;> rfl

/-- Nothing is lost between the exponent and what follows it. -/
theorem splitExponent_append (text : List Char) :
    (splitExponent text).1 ++ (splitExponent text).2 = text := by
  cases text with
  | nil => rfl
  | cons e rest =>
    -- The letter, the sign and the digits are put back, or were never taken.
    simp only [splitExponent]
    split
    · simp [splitDigits_append, splitSignMark_append]
    · rfl

/-- Nothing is lost between the suffix and what follows it. -/
theorem splitSuffix_append (text : List Char) :
    (splitSuffix text).1 ++ (splitSuffix text).2 = text := by
  cases text with
  | nil => rfl
  | cons c rest =>
    -- Either the letter is moved to the left side or nothing is.
    simp only [splitSuffix]
    split <;> rfl

/-- Nothing is lost between the number and what follows it. -/
theorem split_append (text : List Char) : (split text).1 ++ (split text).2 = text := by
  simp [split, splitDigits_append, splitDecimals_append, splitExponent_append, splitSuffix_append]

/-- Where a number starts, there is at least one character of it. -/
theorem split_ne_nil {text : List Char} (number : starts text = true) : (split text).1 ≠ [] := by
  intro empty
  simp only [split, List.append_eq_nil_iff] at empty
  obtain ⟨⟨⟨noDigits, noDecimals⟩, -⟩, -⟩ := empty
  -- A leading digit would be in the digits, and a leading point in the decimals.
  cases text with
  | nil => simp [starts, startsWithDigit] at number
  | cons c rest =>
    by_cases digit : c.isDigit = true
    · simp [splitDigits, digit] at noDigits
    · -- Without a leading digit, a number starts with a point before a digit.
      unfold starts at number
      split at number
      · rename_i after point
        cases point
        have stays : ('.' :: rest).dropWhile Char.isDigit = '.' :: rest := by simp [digit]
        simp [splitDigits, stays, splitDecimals, number] at noDecimals
      · simp [startsWithDigit, digit] at number

end Numeral

end MessageSelector
