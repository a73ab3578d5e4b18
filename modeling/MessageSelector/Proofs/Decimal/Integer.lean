import MessageSelector.Decimal.Integer
import Mathlib.Data.List.Induction
import Mathlib.Data.Nat.Digits.Defs

/-! Integers in decimal: digits stand for the sum of their places, what is written reads back, and
the range of 64-bit integers holds just the integers that are the value of one. -/

namespace MessageSelector

/-- The number that digits write, as the sum of each digit times the power of ten of its place. -/
def digitsValue (digits : List Char) : Nat :=
  Nat.ofDigits 10 (digits.reverse.map fun c => c.toNat - '0'.toNat)

/-- The number with a sign: below zero, or as it is. -/
def signedValue (negative : Bool) (size : Nat) : Int :=
  if negative then -(size : Int) else size

/-- Digits read from the left, ten times what is read so far and one more, are read as the sum. -/
theorem ofDigitChars_eq_digitsValue (digits : List Char) :
    Nat.ofDigitChars 10 digits 0 = digitsValue digits := by
  induction digits using List.reverseRecOn with
  | nil => rfl
  | append_singleton front last ih =>
    -- The last digit counts units, and all others one place more than without it.
    rw [Nat.ofDigitChars_append, ih, Nat.ofDigitChars_cons, Nat.ofDigitChars_nil]
    simp only [digitsValue, List.reverse_append, List.reverse_singleton, List.singleton_append,
      List.map_cons, Nat.ofDigits_cons]
    omega

/-- A minus, or nothing. -/
def minusIf (negative : Bool) : List Char :=
  if negative then ['-'] else []

/-- A sign is split off a text that begins with no other one. -/
theorem splitSign_minusIf {text : List Char} (other : text.head?.any ['+', '-'].contains = false)
    (negative : Bool) : splitSign (minusIf negative ++ text) = (negative, text) := by
  cases negative with
  | true => rfl
  | false =>
    -- Without a sign of its own, the text must not begin with one by chance.
    show splitSign text = (false, text)
    unfold splitSign
    split
    · cases other
    · cases other
    · rfl

/-- No digit is a sign. -/
theorem head?_of_digits {digits : List Char} (each : digits.all Char.isDigit = true) :
    digits.head?.any ['+', '-'].contains = false := by
  cases digits with
  | nil => rfl
  | cons c rest =>
    have digit : c.isDigit = true := List.all_eq_true.1 each c List.mem_cons_self
    -- A digit is neither of the two signs, by evaluation.
    refine Bool.eq_false_iff.2 fun sign => ?_
    have same : c = '+' ∨ c = '-' := by simpa using sign
    rcases same with rfl | rfl <;> cases digit

/-- Digits behind a minus or nothing are read as the number that they write, with that sign. -/
theorem readInteger?_minusIf {digits : List Char} (each : isDigits digits = true)
    (negative : Bool) :
    readInteger? (minusIf negative ++ digits) =
      some (signedValue negative (digitsValue digits)) := by
  -- The sign is split off first, and what is left are digits and nothing else.
  have noSign := head?_of_digits (Bool.and_eq_true_iff.1 each).2
  simp only [readInteger?, splitSign_minusIf noSign, each, if_true, ofDigitChars_eq_digitsValue,
    signedValue]

/-- What a number is written with are digits. -/
theorem isDigits_toDigits (n : Nat) : isDigits (Nat.toDigits 10 n) = true := by
  -- The decimal digits of a number are never empty, and each of them is a digit.
  have some : (Nat.toDigits 10 n).isEmpty = false := by simp [Nat.toDigits_ne_nil]
  have each : ∀ c ∈ Nat.toDigits 10 n, c.isDigit = true := fun c held =>
    Nat.isDigit_of_mem_toDigits (by decide) (by decide) held
  rw [isDigits, some, List.all_eq_true.2 each]
  rfl

/-- The digits that a number is written with write the number. -/
theorem digitsValue_toDigits (n : Nat) : digitsValue (Nat.toDigits 10 n) = n := by
  rw [← ofDigitChars_eq_digitsValue, Nat.ofDigitChars_toDigits (by decide) (by decide)]

/-- An integer is written as its sign and the digits of its size. -/
theorem writeInteger_eq (n : Int) :
    writeInteger n = minusIf (decide (n < 0)) ++ Nat.toDigits 10 n.natAbs := by
  -- The sign is written exactly for the negative numbers.
  unfold writeInteger minusIf
  by_cases below : n < 0 <;> simp [below]

/-- An integer is its size with its sign. -/
theorem signedValue_natAbs (n : Int) : signedValue (decide (n < 0)) n.natAbs = n := by
  -- Putting the sign back before the magnitude gives the number again.
  unfold signedValue
  by_cases below : n < 0
  · rw [if_pos (decide_eq_true below)]
    omega
  · rw [if_neg (by simpa using below)]
    omega

/-- What is written for an integer reads back as the integer. -/
theorem readInteger?_writeInteger (n : Int) : readInteger? (writeInteger n) = some n := by
  -- The written text is an optional minus and digits, whose value is the magnitude.
  rw [writeInteger_eq, readInteger?_minusIf (isDigits_toDigits _), digitsValue_toDigits,
    signedValue_natAbs]

/-- An integer is taken as a 64-bit integer whose value it is, and as no other. -/
theorem toInt64?_eq_some_iff {n : Int} {value : Int64} :
    toInt64? n = some value ↔ value.toInt = n := by
  unfold toInt64?
  constructor
  · intro taken
    split at taken
    · rename_i inside
      obtain ⟨low, high⟩ := inside
      rw [Int64.toInt_minValue] at low
      rw [Int64.toInt_maxValue] at high
      rw [← Option.some.inj taken, Int64.toInt_ofInt_of_le low (by omega)]
    · cases taken
  · intro same
    subst same
    -- Every 64-bit integer lies between the least and the greatest one.
    rw [if_pos ⟨Int64.minValue_le_toInt value, Int64.toInt_le value⟩, Int64.ofInt_toInt]

/-- The integers outside the range are not taken. -/
theorem toInt64?_eq_none_iff {n : Int} : toInt64? n = none ↔ n < -2 ^ 63 ∨ 2 ^ 63 - 1 < n := by
  -- The conversion refuses exactly what lies outside the two bounds.
  rw [toInt64?, Int64.toInt_minValue, Int64.toInt_maxValue, ite_eq_right_iff]
  simp only [reduceCtorEq, imp_false]
  omega

/-- What is written for a 64-bit integer reads back as that integer. -/
theorem readInt64?_writeInteger (value : Int64) :
    readInt64? (writeInteger value.toInt) = some value := by
  -- The integer is read back, and it lies within the width it came from.
  rw [readInt64?, readInteger?_writeInteger, Option.bind_some, toInt64?_eq_some_iff]

end MessageSelector
