/-! Integers in decimal notation, and the range of signed 64-bit integers. -/

namespace MessageSelector

/-- A leading sign apart from the text after it; the flag tells whether the sign is a minus. -/
def splitSign : List Char → Bool × List Char
  -- At most one sign is split off, so a second one is left to be refused.
  | '-' :: rest => (true, rest)
  | '+' :: rest => (false, rest)
  | text => (false, text)

/-- At least one character, and each of them a digit from 0 to 9. -/
def isDigits (text : List Char) : Bool :=
  !text.isEmpty && text.all Char.isDigit

/-- The integer that an optional sign and one or more digits write. -/
def readInteger? (text : List Char) : Option Int :=
  let (negative, digits) := splitSign text
  -- Blanks and letters are refused along with an empty text.
  if isDigits digits then
    let size : Int := Nat.ofDigitChars 10 digits 0
    some (if negative then -size else size)
  else none

/-- A minus sign when the integer is negative, then its digits without leading zeros. -/
def writeInteger (n : Int) : List Char :=
  if n < 0 then '-' :: Nat.toDigits 10 n.natAbs else Nat.toDigits 10 n.natAbs

/-- The integer as a signed 64-bit integer, when it lies in their range. -/
def toInt64? (n : Int) : Option Int64 :=
  if Int64.minValue.toInt ≤ n ∧ n ≤ Int64.maxValue.toInt then some (Int64.ofInt n) else none

/-- The signed 64-bit integer that the text writes; no integer outside the range is read. -/
def readInt64? (text : List Char) : Option Int64 :=
  (readInteger? text).bind toInt64?

end MessageSelector
