import MessageSelector.Decimal.Integer

/-! Decimal fractions with an optional exponent, and the floats nearest to them. -/

namespace MessageSelector

/-- A decimal fraction: a sign, and a size of `mantissa` times ten to the power `exponent`. -/
structure Fraction where
  negative : Bool
  mantissa : Nat
  -- The exponent is one of ten.
  exponent : Int
deriving DecidableEq, Repr

/-- Exponents from here on take every fraction out of the range of floats, whatever they are. -/
def exponentCeiling : Nat := 65536

/-- The number that the digits of an exponent write, read up to where it reaches the ceiling. -/
def exponentSize (digits : List Char) : Nat :=
  digits.foldl
    (fun size c => if size < exponentCeiling then 10 * size + (c.toNat - '0'.toNat) else size) 0

/-- Nothing, which stands for zero, or the letter e and an exponent with an optional sign. -/
def readExponent? : List Char → Option Int
  | [] => some 0
  | e :: rest =>
    if e = 'e' ∨ e = 'E' then
      -- The digits are required, as a letter alone is no exponent.
      let (negative, digits) := splitSign rest
      if isDigits digits then
        let size : Int := exponentSize digits
        some (if negative then -size else size)
      else none
    else none

/-- Digits, with a point among, before or after them if there is one, and an optional exponent. -/
def readUnsigned? (negative : Bool) (text : List Char) : Option Fraction :=
  let whole := text.takeWhile Char.isDigit
  let afterWhole := text.dropWhile Char.isDigit
  let (decimals, afterDecimals) := match afterWhole with
    | '.' :: rest => (rest.takeWhile Char.isDigit, rest.dropWhile Char.isDigit)
    | rest => ([], rest)
  let digits := whole ++ decimals
  if digits.isEmpty then none
  else (readExponent? afterDecimals).map fun exponent =>
    { negative
      mantissa := Nat.ofDigitChars 10 digits 0
      -- Each decimal place divides the number that the digits write by ten.
      exponent := exponent - decimals.length }

/-- The fraction that an optional sign and an unsigned fraction write. -/
def readFraction? (text : List Char) : Option Fraction :=
  -- The sign stands before the whole number, so it is split off first.
  let (negative, unsigned) := splitSign text
  readUnsigned? negative unsigned

/-- The float nearest to the fraction, infinite above the range; a negative zero keeps its sign. -/
def Fraction.toFloat (fraction : Fraction) : Float :=
  -- The size is rounded once, and the sign is put on it afterwards.
  let size := Float.ofScientific fraction.mantissa (fraction.exponent < 0) fraction.exponent.natAbs
  if fraction.negative then -size else size

/-- The float nearest to the fraction that the text writes. -/
def readFloat? (text : List Char) : Option Float :=
  (readFraction? text).map Fraction.toFloat

end MessageSelector
