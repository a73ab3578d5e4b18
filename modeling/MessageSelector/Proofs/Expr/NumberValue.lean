import MessageSelector.Proofs.Decimal.Integer
import MessageSelector.Proofs.Expr.RoundTrip
import MessageSelector.Regex.Plain

/-! The values of numbers: which of them are read, as floats or as the integers that they write,
and which are refused. -/

namespace MessageSelector

/-- One of the suffixes that are asked for is left out. -/
theorem dropTypeSuffix_concat {suffixes front : List Char} {c : Char} (held : c ∈ suffixes) :
    dropTypeSuffix suffixes (front ++ [c]) = front := by
  -- The last character is the suffix, and exactly that one is dropped.
  have last : (front ++ [c]).getLast?.any suffixes.contains = true := by simp [held]
  rw [dropTypeSuffix, if_pos last, List.dropLast_concat]

/-- A text that ends otherwise stays as it is. -/
theorem dropTypeSuffix_of_plain {suffixes text : List Char} (other : suffixes.any isPlain = false)
    (plain : text.all isPlain = true) : dropTypeSuffix suffixes text = text := by
  -- A plain last character is no suffix, so nothing is dropped.
  rw [dropTypeSuffix, Numeral.any_getLast?_of_plain other plain, if_neg Bool.false_ne_true]

/-- A sign before digits is split off. -/
theorem splitSign_of_signed {sign digits : List Char}
    (signed : sign = [] ∨ sign = ['+'] ∨ sign = ['-']) (each : isDigits digits = true) :
    (splitSign (sign ++ digits)).2 = digits := by
  -- Digits do not begin with a sign, so only a sign put in front is split off.
  rcases signed with rfl | rfl | rfl
  · have noSign := head?_of_digits (Bool.and_eq_true_iff.1 each).2
    exact congrArg Prod.snd (splitSign_minusIf noSign false)
  · rfl
  · rfl

/-- The exponent of a number is read. -/
theorem isSome_readExponent? {exponent : List Char} (shape : Exponent exponent) :
    (readExponent? exponent).isSome = true := by
  -- Behind the letter and the sign there are digits, as the reader asks.
  cases shape with
  | none => rfl
  | letter case signed each =>
    rw [← splitSign_of_signed signed each] at each
    simp only [readExponent?, if_pos case, if_pos each, Option.isSome_some]

namespace Numeral

/-- The number without its suffix is read as a fraction. -/
theorem isSome_readUnsigned? (numeral : Numeral) (negative : Bool) :
    (readUnsigned? negative numeral.stem).isSome = true := by
  obtain ⟨whole, decimals, exponent, suffix, wholeDigits, decimalsShape, exponentShape, _,
    digits⟩ := numeral
  have read := isSome_readExponent? exponentShape
  have stopExponent : exponent.head?.any Char.isDigit = false :=
    head?_exponent exponentShape ⟨rfl, rfl⟩
  have stopWhole : (decimals ++ exponent).head?.any Char.isDigit = false :=
    head?_append_any (head?_decimals decimalsShape rfl) stopExponent
  simp only [stem, List.append_assoc, readUnsigned?, takeWhile_append_of_stop wholeDigits stopWhole,
    dropWhile_append_of_stop wholeDigits stopWhole]
  cases decimalsShape with
  | none =>
    -- What follows the digits is an exponent, which begins with no point.
    have some : whole ≠ [] := by simpa using digits
    rw [List.nil_append]
    split
    · cases exponentShape with
      | letter case => rcases case with case | case <;> cases case
    · simp [some, read]
  | point each =>
    obtain ⟨some, tail⟩ := Bool.and_eq_true_iff.1 each
    rw [Bool.not_eq_true', List.isEmpty_eq_false_iff] at some
    simp [takeWhile_append_of_stop tail stopExponent, dropWhile_append_of_stop tail stopExponent,
      some, read]

/-- The number behind a minus or nothing. -/
def signed (numeral : Numeral) (negative : Bool) : String :=
  String.ofList (minusIf negative ++ numeral.text)

/-- The integer that the digits before the point write, with its sign. -/
def integer (numeral : Numeral) (negative : Bool) : Int :=
  signedValue negative (digitsValue numeral.whole)

/-- The number has a fraction, an exponent or one of the suffixes D and F. -/
def IsFloat (numeral : Numeral) : Prop :=
  numeral.decimals ≠ [] ∨ numeral.exponent ≠ [] ∨ ∃ c ∈ ['D', 'd', 'F', 'f'], numeral.suffix = [c]

/-- The number has the suffix of integers. -/
def EndsLong (numeral : Numeral) : Prop :=
  ∃ c ∈ ['L', 'l'], numeral.suffix = [c]

variable {numeral : Numeral} {negative : Bool}

/-- The text of a number with its sign writes the number. -/
theorem writes_signed (numeral : Numeral) (negative : Bool) :
    numeral.Writes (numeral.signed negative) := by
  -- With or without the minus, the text is one of the two that write the number.
  cases negative with
  | true => exact .inr String.toList_ofList
  | false => exact .inl String.toList_ofList

/-- The characters of a number with its sign are those before the suffix, and the suffix. -/
theorem toList_signed (numeral : Numeral) (negative : Bool) :
    (numeral.signed negative).toList = minusIf negative ++ numeral.stem ++ numeral.suffix := by
  -- The suffix stands behind everything that has a value.
  simp [signed, text, stem]

/-- All but the suffix is made of characters of numbers. -/
theorem all_isPlain_signed (numeral : Numeral) (negative : Bool) :
    (minusIf negative ++ numeral.stem).all isPlain = true := by
  -- The minus is plain, and so is everything before the suffix.
  have sign : (minusIf negative).all isPlain = true := by cases negative <;> rfl
  rw [List.all_append, sign, numeral.all_isPlain_stem]
  rfl

/-- A number begins with no sign of its own. -/
theorem head?_stem (numeral : Numeral) :
    numeral.stem.head?.any ['+', '-'].contains = false := by
  -- The first character is a digit, a point or the letter of an exponent, never a sign.
  rw [stem, List.append_assoc]
  exact head?_append_any (head?_of_digits numeral.wholeDigits)
    (head?_append_any (head?_decimals numeral.decimalsShape rfl)
      (head?_exponent numeral.exponentShape ⟨rfl, rfl⟩))

/-- A number that looks like a float and has no suffix of integers is read as a float. -/
theorem isSome_readDouble?_signed (noLong : ¬numeral.EndsLong) (negative : Bool) :
    (readDouble? (numeral.signed negative)).isSome = true := by
  -- Any suffix that is there is one of floats, and is left out.
  have dropped : dropTypeSuffix ['D', 'd', 'F', 'f'] (numeral.signed negative).toList =
      minusIf negative ++ numeral.stem := by
    have shape := numeral.suffixShape
    rw [toList_signed]
    unfold EndsLong at noLong
    generalize numeral.suffix = suffix at shape noLong
    cases shape with
    | none => rw [List.append_nil, dropTypeSuffix_of_plain (by decide) (all_isPlain_signed _ _)]
    | @letter c type =>
      apply dropTypeSuffix_concat
      exact (mem_typeSuffixes_iff.1 type).resolve_left fun long => noLong ⟨c, long, rfl⟩
  have read := numeral.isSome_readUnsigned? negative
  simpa only [readDouble?, dropped, readFloat?, readFraction?, splitSign_minusIf numeral.head?_stem,
    Option.isSome_map] using read

/-- A number that does not look like a float is read as an integer if that lies in the range. -/
theorem readLong?_signed (exact : ¬numeral.IsFloat) :
    readLong? (numeral.signed negative) = toInt64? (numeral.integer negative) := by
  obtain ⟨decimals, exponent, suffix⟩ := isLong_of_exact (writes_signed numeral negative)
    (mt (isApproximate_iff (writes_signed numeral negative)).1 exact)
  -- Nothing but digits is left when the suffix is left out.
  have onlyWhole : numeral.stem = numeral.whole := by
    rw [stem, decimals, exponent, List.append_nil, List.append_nil]
  have digits : isDigits numeral.whole = true := by
    have some : numeral.whole ≠ [] := numeral.digits.resolve_right (not_not.2 decimals)
    rw [isDigits, numeral.wholeDigits]
    simp [some]
  have dropped : dropTypeSuffix ['L', 'l'] (numeral.signed negative).toList =
      minusIf negative ++ numeral.whole := by
    rw [toList_signed, ← onlyWhole]
    rcases suffix with none | ⟨c, type, suffix⟩
    · rw [none, List.append_nil, dropTypeSuffix_of_plain (by decide) (all_isPlain_signed _ _)]
    · rw [suffix, dropTypeSuffix_concat type]
  rw [readLong?, dropped, readInt64?, readInteger?_minusIf digits, Option.bind_some, integer]

/-- The number has the suffix of integers behind a fraction or an exponent, or it is an integer out
of the range of 64 bits. -/
def IsRefused (numeral : Numeral) (negative : Bool) : Prop :=
  -- A suffix of long integers refuses every fraction, and a plain integer is refused for its size
  -- only.
  (numeral.EndsLong ∧ (numeral.decimals ≠ [] ∨ numeral.exponent ≠ [])) ∨
    (¬numeral.IsFloat ∧
      (numeral.integer negative < -2 ^ 63 ∨ 2 ^ 63 - 1 < numeral.integer negative))

/-- The literals that a number can be read as: a float where it looks like one, and else the integer
that it writes. -/
inductive Gives (numeral : Numeral) (negative : Bool) : Literal → Prop where
  -- Doubles are never out of range, so only integers carry a condition on the value.
  | float {value : Float} {reads : readDouble? (numeral.signed negative) = some value}
    (float : numeral.IsFloat) : Gives numeral negative (.double _ value reads)
  | integer {value : Int64} {reads : readLong? (numeral.signed negative) = some value}
    (exact : ¬numeral.IsFloat) (same : value.toInt = numeral.integer negative) :
    Gives numeral negative (.long _ value reads)

/-- What looks like a float is read as one, or not at all. -/
theorem ofNumeral_of_isFloat (float : numeral.IsFloat) :
    Literal.ofNumeral (numeral.signed negative) = Literal.ofDouble (numeral.signed negative) := by
  -- The form of the text decides, and the minus in front does not change it.
  rw [Literal.ofNumeral, if_pos ((isApproximate_iff (writes_signed numeral negative)).2 float)]

/-- What does not look like a float is read as an integer, or not at all. -/
theorem ofNumeral_of_not_isFloat (exact : ¬numeral.IsFloat) :
    Literal.ofNumeral (numeral.signed negative) = Literal.ofLong (numeral.signed negative) := by
  -- The form of the text decides, and the minus in front does not change it.
  rw [Literal.ofNumeral, if_neg (mt (isApproximate_iff (writes_signed numeral negative)).1 exact)]

/-- A number that is refused is no literal. -/
theorem exists_error_of_isRefused (refused : numeral.IsRefused negative) :
    ∃ error, Literal.ofNumeral (numeral.signed negative) = .error error := by
  rcases refused with ⟨⟨c, long, suffix⟩, places⟩ | ⟨exact, outside⟩
  · -- A fraction or an exponent asks for a float, which has no suffix of integers.
    have float : numeral.IsFloat := places.imp_right .inl
    have none := readDouble?_of_suffix (writes_signed numeral negative) suffix long
    rw [ofNumeral_of_isFloat float, Literal.ofDouble_of_none none]
    exact ⟨_, rfl⟩
  · have none : readLong? (numeral.signed negative) = none := by
      rw [readLong?_signed exact, toInt64?_eq_none_iff]
      exact outside
    rw [ofNumeral_of_not_isFloat exact, Literal.ofLong_of_none none]
    exact ⟨_, rfl⟩

/-- Every other number is one of the literals that it can be read as. -/
theorem exists_gives_of_not_isRefused (accepted : ¬numeral.IsRefused negative) :
    ∃ constant, numeral.Gives negative constant ∧
      Literal.ofNumeral (numeral.signed negative) = .ok constant := by
  obtain ⟨placesDecide, inside⟩ := not_or.1 accepted
  by_cases float : numeral.IsFloat
  -- A floating form with the suffix of long integers would be refused.
  · have noLong : ¬numeral.EndsLong := by
      intro long
      rcases float with decimals | exponent | ⟨c, type, suffix⟩
      · exact placesDecide ⟨long, .inl decimals⟩
      · exact placesDecide ⟨long, .inr exponent⟩
      · obtain ⟨other, isLong, same⟩ := long
        rw [suffix] at same
        cases same
        exact notMem_of_long isLong type
    obtain ⟨value, reads⟩ :=
      Option.isSome_iff_exists.1 (isSome_readDouble?_signed noLong negative)
    refine ⟨.double _ value reads, .float float, ?_⟩
    rw [ofNumeral_of_isFloat float, Literal.ofDouble_of_reads reads]
  -- An integer form is accepted exactly within the range of 64 bits.
  · cases taken : toInt64? (numeral.integer negative) with
    | none => exact absurd ⟨float, toInt64?_eq_none_iff.1 taken⟩ inside
    | some value =>
      have reads := (readLong?_signed float).trans taken
      refine ⟨.long _ value reads, .integer float (toInt64?_eq_some_iff.1 taken), ?_⟩
      rw [ofNumeral_of_not_isFloat float, Literal.ofLong_of_reads reads]

/-- The tokens of a number behind a minus or nothing, each at its place. -/
def lexemes (numeral : Numeral) (negative : Bool) (offset place : Nat) : List Lexeme :=
  -- The minus is a token of its own, even where it belongs to the number.
  (if negative then [⟨.mark .minus, offset⟩] else []) ++
    [⟨.number (String.ofList numeral.text), place⟩]

section

variable [Regex.Engine]

/-- A minus and the number next to it are read as one literal, as is a number alone. -/
theorem reading_lexemes (numeral : Numeral) (negative : Bool) (offset place : Nat)
    (rest : List Lexeme) :
    Phrase.reading .unary (numeral.lexemes negative offset place ++ rest) =
      (Phrase.number (numeral.signed negative) (if negative then offset else place) : Reader Expr)
        rest := by
  -- Only a minus with a number behind it is looked at before the number itself.
  cases negative with
  | true =>
    have text : numeral.signed true = "-" ++ String.ofList numeral.text := by
      simp [signed, minusIf]
    rw [text]
    exact Phrase.reading_unary_number offset place _ rest
  | false =>
    show Phrase.reading .unary (⟨.number (String.ofList numeral.text), place⟩ :: rest) = _
    rw [Phrase.reading_unary_other Token.noConfusion Token.noConfusion,
      Phrase.reading_primary_number]
    rfl

end

/-- The texts of number tokens are the texts of numbers. -/
theorem exists_next_iff {text : String} :
    (∃ (cursor : Cursor) (offset : Nat), cursor.next.1 = .ok ⟨.number text, offset⟩) ↔
      ∃ numeral : Numeral, text = String.ofList numeral.text := by
  constructor
  · rintro ⟨cursor, offset, read⟩
    obtain ⟨spelling, spells⟩ := Cursor.exists_spells_of_next read nofun
    exact spells.exists_numeral
  · rintro ⟨numeral, rfl⟩
    -- The number is all of a text.
    have ends : (Token.number (String.ofList numeral.text)).endsBefore [] = true := rfl
    obtain ⟨c, rest, -, noBlank, read⟩ := scan_of_spells (.number numeral) ends
    have visible : (Cursor.mk (c :: rest) 0).skipBlanks = ⟨c :: rest, 0⟩ := by
      simp [Cursor.skipBlanks, Cursor.advance, noBlank]
    exact ⟨⟨c :: rest, 0⟩, 0, by rw [Cursor.next_of_scan visible read]⟩

/-- The digits of an integer as a number. -/
def ofInteger (n : Int) : Numeral where
  -- Integers are written with digits alone, and the sign is kept apart.
  whole := Nat.toDigits 10 n.natAbs
  decimals := []
  exponent := []
  suffix := []
  wholeDigits := (Bool.and_eq_true_iff.1 (isDigits_toDigits _)).2
  decimalsShape := .none
  exponentShape := .none
  suffixShape := .none
  digits := .inl Nat.toDigits_ne_nil

/-- Digits alone do not look like a float. -/
theorem not_isFloat_ofInteger (n : Int) : ¬(ofInteger n).IsFloat := by
  simp [ofInteger, IsFloat]

/-- An integer is written as its digits behind its sign. -/
theorem signed_ofInteger (n : Int) :
    (ofInteger n).signed (decide (n < 0)) = String.ofList (writeInteger n) := by
  -- Both texts are the optional minus and the digits of the magnitude.
  simp [signed, text, ofInteger, writeInteger_eq]

/-- The text of a 64-bit integer is read as that integer. -/
theorem readLong?_text (value : Int64) : readLong? (Number.long value).text = some value := by
  -- The digits and the sign of the rendering have the value they were written from.
  have integer : (ofInteger value.toInt).integer (decide (value.toInt < 0)) = value.toInt := by
    rw [Numeral.integer, ofInteger, digitsValue_toDigits, signedValue_natAbs]
  rw [Number.text, ← signed_ofInteger, readLong?_signed (not_isFloat_ofInteger _),
    toInt64?_eq_some_iff, integer]

/-- The text of a 64-bit integer is that of a number which is an integer. -/
theorem canonical_text (value : Int64) :
    (Literal.long (Number.long value).text value (readLong?_text value)).Canonical := by
  -- The rendering of an integer has no places, no exponent and no suffix.
  refine ⟨ofInteger value.toInt, ⟨rfl, rfl, .inl rfl⟩, ?_⟩
  rw [Number.text, ← signed_ofInteger]
  exact writes_signed _ _

section

variable [Regex.Engine]

/-- The text of a 64-bit integer is a selector that is this integer. -/
theorem ofText_long (value : Int64) :
    Expr.ofText (Number.long value).text =
      .ok (.literal (.long (Number.long value).text value (readLong?_text value))) :=
  -- The rendering is the canonical text of the literal, and canonical texts are read back.
  Expr.ofText_of_reads (.literal (canonical_text value))

/-- The numbers that can be tokens are those made of digits, decimals, an exponent and a suffix.
Behind a minus or nothing, a number is refused at its first token, or it is read as a float or as
just the integer that its digits write; so every 64-bit integer is read from its own digits. -/
theorem reading_outcome :
    (∀ text : String,
      (∃ (cursor : Cursor) (offset : Nat), cursor.next.1 = .ok ⟨.number text, offset⟩) ↔
        ∃ numeral : Numeral, text = String.ofList numeral.text) ∧
    (∀ (numeral : Numeral) (negative : Bool) (offset place : Nat) (rest : List Lexeme),
      (numeral.IsRefused negative →
        ∃ error, Literal.ofNumeral (numeral.signed negative) = .error error ∧
          Phrase.reading .unary (numeral.lexemes negative offset place ++ rest) =
            .error ⟨if negative then offset else place, .number error⟩) ∧
      (¬numeral.IsRefused negative →
        ∃ constant, numeral.Gives negative constant ∧
          Literal.ofNumeral (numeral.signed negative) = .ok constant ∧
          Phrase.reading .unary (numeral.lexemes negative offset place ++ rest) =
            .ok (.literal constant, rest))) ∧
    ∀ value : Int64, ∃ reads,
      Expr.ofText (Number.long value).text =
        .ok (.literal (.long (Number.long value).text value reads)) := by
  refine ⟨fun text => exists_next_iff, ?outcome, fun value => ⟨_, ofText_long value⟩⟩
  intro numeral negative offset place rest
  -- With or without the minus, the reader hands one text to the constructor of literals.
  rw [reading_lexemes]
  constructor
  · intro refused
    obtain ⟨error, made⟩ := exists_error_of_isRefused refused
    exact ⟨error, made, by rw [Phrase.number, made]; rfl⟩
  · intro accepted
    obtain ⟨constant, gives, made⟩ := exists_gives_of_not_isRefused accepted
    exact ⟨constant, gives, made, by rw [Phrase.number, made]; rfl⟩

end

/-- The digits of 2⁶³ are refused alone and are the least integer behind a minus, also after zeros;
an integer has no fraction. -/
theorem reading_outcome_range :
    let least : Numeral :=
      ⟨"009223372036854775808".toList, [], [], [], rfl, .none, .none, .none, .inl nofun⟩
    let half : Numeral :=
      ⟨['0'], ['.', '5'], [], ['L'], rfl, .point rfl, .none, .letter (by decide), .inl nofun⟩
    least.IsRefused false ∧ half.IsRefused false ∧ ¬least.IsRefused true ∧
      (∃ error, Literal.ofNumeral "009223372036854775808" = .error error) ∧
      (∃ error, Literal.ofNumeral "0.5L" = .error error) ∧
      ∃ value reads, Literal.ofNumeral "-009223372036854775808" =
        .ok (.long "-009223372036854775808" value reads) ∧ value.toInt = -2 ^ 63 := by
  intro least half
  -- The least integer is in range only together with its minus, and a half is no long integer.
  have exact : ¬least.IsFloat := by simp [least, IsFloat]
  have size : least.integer false = 2 ^ 63 := by decide +kernel
  have below : least.integer true = -2 ^ 63 := by decide +kernel
  have outside : least.IsRefused false := .inr ⟨exact, .inr (by rw [size]; decide)⟩
  have mixed : half.IsRefused false := .inl ⟨⟨'L', by decide, rfl⟩, .inl nofun⟩
  have inside : ¬least.IsRefused true := by
    rintro (⟨long, -⟩ | ⟨-, range⟩)
    · simp [least, EndsLong] at long
    · rw [below] at range
      revert range
      decide
  obtain ⟨-, outcome, -⟩ := reading_outcome
  obtain ⟨error, refused, -⟩ := (outcome least false 0 0 []).1 outside
  obtain ⟨otherError, refusedToo, -⟩ := (outcome half false 0 0 []).1 mixed
  obtain ⟨constant, gives, read, -⟩ := (outcome least true 0 1 []).2 inside
  refine ⟨outside, mixed, inside, ⟨error, refused⟩, ⟨otherError, refusedToo⟩, ?_⟩
  cases gives with
  | float float => exact absurd float exact
  | @integer value reads _ same => exact ⟨value, reads, read, same.trans below⟩

end Numeral

end MessageSelector
