import MessageSelector.Decimal.Integer
import MessageSelector.Token.Numeral

/-! Numbers as they are written: digits, decimals, an exponent and a suffix. -/

namespace MessageSelector

/-- A run of characters is taken up to where it stops. -/
theorem takeWhile_append_of_stop {p : Char → Bool} {run after : List Char}
    (inside : run.all p = true) (stop : after.head?.any p = false) :
    (run ++ after).takeWhile p = run := by
  have each : ∀ c ∈ run, p c = true := List.all_eq_true.1 inside
  -- The whole run is taken, and nothing after it.
  rw [List.takeWhile_append_of_pos each]
  cases after with
  | nil => simp
  | cons c rest =>
    have out : p c = false := stop
    simp [out]

/-- What is left after a run of characters begins where the run stops. -/
theorem dropWhile_append_of_stop {p : Char → Bool} {run after : List Char}
    (inside : run.all p = true) (stop : after.head?.any p = false) :
    (run ++ after).dropWhile p = after := by
  have each : ∀ c ∈ run, p c = true := List.all_eq_true.1 inside
  -- The whole run is dropped, and nothing after it.
  rw [List.dropWhile_append_of_pos each]
  cases after with
  | nil => rfl
  | cons c rest =>
    have out : p c = false := stop
    simp [out]

/-- A run of characters ends before a character of another sort. -/
theorem head?_any_dropWhile (p : Char → Bool) (text : List Char) :
    (text.dropWhile p).head?.any p = false := by
  -- What is left begins with the first character that fails the test.
  have stop := List.head?_dropWhile_not p text
  cases left : (text.dropWhile p).head? with
  | none => rfl
  | some c =>
    rw [left] at stop
    exact stop

/-- Two parts begin with no such character when neither of them does. -/
theorem head?_append_any {p : Char → Bool} {first second : List Char}
    (head : first.head?.any p = false) (tail : second.head?.any p = false) :
    (first ++ second).head?.any p = false := by
  -- The second part is looked at only where the first one is empty.
  cases first with
  | nil => exact tail
  | cons c rest => exact head

/-- The decimals of a number: nothing, or a point and digits. -/
inductive Decimals : List Char → Prop where
  -- Behind the point there is at least one digit.
  | none : Decimals []
  | point {digits : List Char} (each : isDigits digits = true) : Decimals ('.' :: digits)

/-- The exponent of a number: nothing, or the letter e and digits, with or without a sign. -/
inductive Exponent : List Char → Prop where
  -- Behind the letter and the sign there is at least one digit.
  | none : Exponent []
  | letter {e : Char} {sign digits : List Char} (case : e = 'e' ∨ e = 'E')
    (signed : sign = [] ∨ sign = ['+'] ∨ sign = ['-']) (each : isDigits digits = true) :
    Exponent (e :: (sign ++ digits))

/-- The type suffix of a number: nothing, or one letter. -/
inductive Suffix : List Char → Prop where
  -- The letter may be in either case.
  | none : Suffix []
  | letter {c : Char} (type : c ∈ Numeral.typeSuffixes) : Suffix [c]

/-- A number as it is written, in its four parts. -/
structure Numeral where
  -- The parts are the characters as written, and the proofs say that each has its shape.
  whole : List Char
  decimals : List Char
  exponent : List Char
  suffix : List Char
  wholeDigits : whole.all Char.isDigit = true
  decimalsShape : Decimals decimals
  exponentShape : Exponent exponent
  suffixShape : Suffix suffix
  /-- A point alone is no number. -/
  digits : whole ≠ [] ∨ decimals ≠ []

namespace Numeral

/-- The parts of a number in a row. -/
def text (numeral : Numeral) : List Char :=
  numeral.whole ++ numeral.decimals ++ numeral.exponent ++ numeral.suffix

/-- What comes next is neither a point nor a part of a word, so it belongs to no number. -/
def endsBefore (after : List Char) : Bool :=
  !after.head?.any fun c => isWordPart c || c == '.'

/-- The codes of the digits lie next to each other. -/
theorem toNat_of_isDigit {c : Char} (digit : c.isDigit = true) : 48 ≤ c.toNat ∧ c.toNat ≤ 57 := by
  simpa [Char.isDigit, UInt32.le_iff_toNat_le] using digit

/-- A digit is a numeral of Unicode, and so a part of words. -/
theorem isWordPart_of_isDigit {c : Char} (digit : c.isDigit = true) : isWordPart c = true := by
  have bounds := toNat_of_isDigit digit
  -- The digits are the first of the ranges.
  have first : numericRanges = (0x30, 0x39) :: numericRanges.tail := rfl
  have numeric : isNumeric c = true := by
    rw [isNumeric, CodeRanges.has, first, CodeRanges.contains]
    simp [bounds]
  simp [isWordPart, numeric]

/-- The letters of exponents and suffixes are parts of words. -/
theorem isWordPart_of_letter {c : Char}
    (letter : c ∈ ['e', 'E', 'L', 'l', 'D', 'd', 'F', 'f']) : isWordPart c = true := by
  -- The eight letters are few enough to be tried in turn.
  have each : ['e', 'E', 'L', 'l', 'D', 'd', 'F', 'f'].all isWordPart = true := by decide
  exact List.all_eq_true.1 each c letter

/-- After a number there comes no character that would be a part of it. -/
theorem any_of_endsBefore {after : List Char} (ends : endsBefore after = true) {p : Char → Bool}
    (belongs : ∀ c, p c = true → isWordPart c = true ∨ c = '.') : after.head?.any p = false := by
  -- At the end of the text there is no next character to belong to the number.
  cases after with
  | nil => rfl
  | cons c rest =>
    have out : isWordPart c = false ∧ c ≠ '.' := by simpa [endsBefore] using ends
    cases inside : p c with
    | false => exact inside
    | true =>
      -- Otherwise it would be a part of a word or a point, and the number has ended before those.
      rcases belongs c inside with part | point
      · simp [out.1] at part
      · exact absurd point out.2

/-- A type suffix begins with one of its letters. -/
theorem head?_suffix {suffix : List Char} (shape : Suffix suffix) {p : Char → Bool}
    (out : typeSuffixes.any p = false) : suffix.head?.any p = false := by
  -- Only the letters of suffixes can stand in front.
  cases shape with
  | none => rfl
  | @letter c type =>
    have other : ¬p c = true := List.any_eq_false.1 out c type
    exact Bool.eq_false_iff.2 other

/-- An exponent begins with the letter e. -/
theorem head?_exponent {exponent : List Char} (shape : Exponent exponent) {p : Char → Bool}
    (out : p 'e' = false ∧ p 'E' = false) : exponent.head?.any p = false := by
  -- Only the two letters can stand in front.
  cases shape with
  | none => rfl
  | letter case =>
    rcases case with rfl | rfl
    · exact out.1
    · exact out.2

/-- Decimals begin with the point. -/
theorem head?_decimals {decimals : List Char} (shape : Decimals decimals) {p : Char → Bool}
    (out : p '.' = false) : decimals.head?.any p = false := by
  -- Only the point can stand in front.
  cases shape with
  | none => rfl
  | point => exact out

/-- Digits are split off up to where no digit follows. -/
theorem splitDigits_of_stop {digits after : List Char} (each : digits.all Char.isDigit = true)
    (stop : after.head?.any Char.isDigit = false) :
    splitDigits (digits ++ after) = (digits, after) := by
  -- The digits end where the next character is none.
  rw [splitDigits, takeWhile_append_of_stop each stop, dropWhile_append_of_stop each stop]

/-- One or more digits are where a text starts with a digit. -/
theorem startsWithDigit_append {digits : List Char} (each : isDigits digits = true)
    (after : List Char) : startsWithDigit (digits ++ after) = true := by
  -- Digits are never empty, so the first of them is there to be seen.
  cases digits with
  | nil => simp [isDigits] at each
  | cons c rest =>
    simp only [isDigits, List.all_cons, Bool.and_eq_true] at each
    exact each.2.1

/-- Where a text starts with a digit, one or more digits are split off. -/
theorem isDigits_splitDigits {text : List Char} (digit : startsWithDigit text = true) :
    isDigits (splitDigits text).1 = true := by
  -- The run of digits holds at least the first character, and digits only.
  cases text with
  | nil => simp [startsWithDigit] at digit
  | cons c rest =>
    have first : c.isDigit = true := digit
    simp [splitDigits, isDigits, first, List.all_takeWhile]

/-- Decimals are split off up to where neither a point nor a digit follows. -/
theorem splitDecimals_of_stop {decimals after : List Char} (shape : Decimals decimals)
    (stop : after.head?.any (fun c => c.isDigit || c == '.') = false) :
    splitDecimals (decimals ++ after) = (decimals, after) := by
  -- What follows starts neither another digit nor another point.
  have noDigit : after.head?.any Char.isDigit = false := by
    cases after with
    | nil => rfl
    | cons c rest => simp_all
  cases shape with
  | none =>
    -- Without decimals a point would have to be the character that follows.
    unfold splitDecimals
    split
    · rename_i rest same
      rw [List.nil_append] at same
      simp [same] at stop
    · rfl
  | point each =>
    -- The point is taken because a digit comes next, and the digits up to where they stop.
    have digits : _ = true := (Bool.and_eq_true_iff.1 each).2
    rw [List.cons_append, splitDecimals, if_pos (startsWithDigit_append each after),
      splitDigits_of_stop digits noDigit]

/-- What is split off as decimals has their shape. -/
theorem decimals_splitDecimals (text : List Char) : Decimals (splitDecimals text).1 := by
  -- A point is only split off together with digits after it.
  unfold splitDecimals
  split
  · split
    · rename_i digit
      exact .point (isDigits_splitDigits digit)
    · exact .none
  · exact .none

/-- A sign is split off before digits. -/
theorem splitSignMark_digits {sign digits : List Char} (each : isDigits digits = true)
    (signed : sign = [] ∨ sign = ['+'] ∨ sign = ['-']) (after : List Char) :
    splitSignMark (sign ++ (digits ++ after)) = (sign, digits ++ after) := by
  rcases signed with rfl | rfl | rfl
  · cases digits with
    | nil => simp [isDigits] at each
    | cons c rest =>
      -- A digit is no sign.
      unfold splitSignMark
      split
      · rename_i same
        cases same
        simp [isDigits] at each
      · rename_i same
        cases same
        simp [isDigits] at each
      · rfl
  · rfl
  · rfl

/-- An exponent is split off up to where neither the letter e nor a digit follows. -/
theorem splitExponent_of_stop {exponent after : List Char} (shape : Exponent exponent)
    (stop : after.head?.any (fun c => c.isDigit || c == 'e' || c == 'E') = false) :
    splitExponent (exponent ++ after) = (exponent, after) := by
  cases shape with
  | none =>
    -- Without an exponent the next character is not the letter e.
    cases after with
    | nil => rfl
    | cons c rest =>
      have out : (c.isDigit = false ∧ ¬c = 'e') ∧ ¬c = 'E' := by simpa using stop
      simp [splitExponent, out]
  | letter case signed each =>
    -- The letter, the sign and the digits are split off in turn.
    have noDigit : after.head?.any Char.isDigit = false := by
      cases after with
      | nil => rfl
      | cons c rest => simp_all
    have digits : _ = true := (Bool.and_eq_true_iff.1 each).2
    rw [List.cons_append, List.append_assoc]
    simp only [splitExponent, splitSignMark_digits each signed after]
    rw [if_pos ⟨case, startsWithDigit_append each after⟩, splitDigits_of_stop digits noDigit]

/-- What is split off as an exponent has the shape of one. -/
theorem exponent_splitExponent (text : List Char) : Exponent (splitExponent text).1 := by
  -- The letter is only split off when digits follow it, behind a sign or at once.
  cases text with
  | nil => exact .none
  | cons e rest =>
    simp only [splitExponent]
    split
    · rename_i found
      refine .letter found.1 ?_ (isDigits_splitDigits found.2)
      unfold splitSignMark
      split <;> simp
    · exact .none

/-- A suffix is split off up to where no part of a word follows. -/
theorem splitSuffix_of_stop {suffix after : List Char} (shape : Suffix suffix)
    (stop : after.head?.any isWordPart = false) :
    splitSuffix (suffix ++ after) = (suffix, after) := by
  cases shape with
  | none =>
    cases after with
    | nil => rfl
    | cons c rest =>
      -- A suffix letter is a part of a word, which cannot come next.
      have out : c ∉ typeSuffixes := by
        intro type
        have part := isWordPart_of_letter (List.mem_append_right ['e', 'E'] type)
        have noPart : isWordPart c = false := stop
        simp [part] at noPart
      simp [splitSuffix, out]
  | letter type => simp [splitSuffix, type, stop]

/-- What is split off as a suffix has the shape of one. -/
theorem suffix_splitSuffix (text : List Char) : Suffix (splitSuffix text).1 := by
  -- At most one letter is split off, and only one that names a type.
  cases text with
  | nil => exact .none
  | cons c rest =>
    simp only [splitSuffix]
    split
    · rename_i found
      simp only [Bool.and_eq_true, List.contains_iff_mem] at found
      exact .letter found.1
    · exact .none

/-- A number starts where a text begins with the parts of one. -/
theorem starts_text_append (numeral : Numeral) (after : List Char) :
    starts (numeral.text ++ after) = true := by
  obtain ⟨whole, decimals, exponent, suffix, wholeDigits, decimalsShape, _, _, digits⟩ := numeral
  -- A number begins with its first digit, or else with its point.
  cases whole with
  | cons c rest =>
    have digit : c.isDigit = true := by
      simp only [List.all_cons, Bool.and_eq_true] at wholeDigits
      exact wholeDigits.1
    unfold starts
    split
    · rename_i same
      -- A point is no digit.
      cases same
      cases digit
    · simpa [text, startsWithDigit] using digit
  | nil =>
    cases decimalsShape with
    | none => simp at digits
    | point each =>
      have begins := startsWithDigit_append each (exponent ++ (suffix ++ after))
      simpa [text, starts] using begins

/-- A number is split off a text as it is written, when what follows belongs to no number. -/
theorem split_text_append (numeral : Numeral) {after : List Char}
    (ends : endsBefore after = true) : split (numeral.text ++ after) = (numeral.text, after) := by
  obtain ⟨whole, decimals, exponent, suffix, wholeDigits, decimalsShape, exponentShape,
    suffixShape, _⟩ := numeral
  -- Each part is split off where none of its characters begins any of the parts after it.
  have afterSuffix : after.head?.any isWordPart = false :=
    any_of_endsBefore ends fun c part => .inl part
  have afterExponent :
      (suffix ++ after).head?.any (fun c => c.isDigit || c == 'e' || c == 'E') = false := by
    refine head?_append_any (head?_suffix suffixShape (by decide)) (any_of_endsBefore ends ?_)
    intro c inside
    simp only [Bool.or_eq_true, beq_iff_eq] at inside
    rcases inside with (digit | rfl) | rfl
    · exact .inl (isWordPart_of_isDigit digit)
    · exact .inl (by decide)
    · exact .inl (by decide)
  have digitOrPoint : ∀ c : Char, (c.isDigit || c == '.') = true →
      isWordPart c = true ∨ c = '.' := by
    intro c inside
    simp only [Bool.or_eq_true, beq_iff_eq] at inside
    rcases inside with digit | point
    · exact .inl (isWordPart_of_isDigit digit)
    · exact .inr point
  have afterDecimals : (exponent ++ (suffix ++ after)).head?.any
      (fun c => c.isDigit || c == '.') = false :=
    head?_append_any (head?_exponent exponentShape (by decide))
      (head?_append_any (head?_suffix suffixShape (by decide))
        (any_of_endsBefore ends digitOrPoint))
  have afterWhole : (decimals ++ (exponent ++ (suffix ++ after))).head?.any Char.isDigit = false :=
    head?_append_any (head?_decimals decimalsShape (by decide))
      (head?_append_any (head?_exponent exponentShape (by decide))
        (head?_append_any (head?_suffix suffixShape (by decide))
          (any_of_endsBefore ends fun c digit => .inl (isWordPart_of_isDigit digit))))
  simp only [text, List.append_assoc]
  simp only [split, splitDigits_of_stop wholeDigits afterWhole,
    splitDecimals_of_stop decimalsShape afterDecimals,
    splitExponent_of_stop exponentShape afterExponent, splitSuffix_of_stop suffixShape afterSuffix,
    List.append_assoc]

/-- Where a number starts, digits are split off as its whole part or as its decimals. -/
theorem splitDigits_ne_nil_or_splitDecimals {text : List Char} (number : starts text = true) :
    (splitDigits text).1 ≠ [] ∨ (splitDecimals (splitDigits text).2).1 ≠ [] := by
  cases text with
  | nil => cases number
  | cons c rest =>
    by_cases digit : c.isDigit = true
    · exact .inl (by simp [splitDigits, digit])
    · -- Without a leading digit, a number starts with a point before a digit.
      unfold starts at number
      split at number
      · rename_i later point
        cases point
        exact .inr (by simp [splitDigits, digit, splitDecimals, number])
      · exact absurd number digit

/-- What is split off where a number starts is a number. -/
theorem exists_text_eq_split {text : List Char} (number : starts text = true) :
    ∃ numeral : Numeral, numeral.text = (split text).1 :=
  -- Each part has its shape by the way it is split off.
  ⟨⟨_, _, _, _, List.all_takeWhile .., decimals_splitDecimals _, exponent_splitExponent _,
    suffix_splitSuffix _, splitDigits_ne_nil_or_splitDecimals number⟩, rfl⟩

end Numeral

end MessageSelector
