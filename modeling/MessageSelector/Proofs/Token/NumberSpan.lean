import MessageSelector.Proofs.Expr.NumberText
import MessageSelector.Proofs.Token.Spelling

/-! The span of a number: as much of a text as has the shape of a number, and then a type suffix
from which no word goes on. -/

namespace MessageSelector

namespace Numeral

/-- The text goes on with a digit, or with a point and a digit. -/
inductive Begins : List Char → Prop where
  -- A point alone is no number, so it needs a digit behind it.
  | digit {c : Char} (digit : c.isDigit = true) (rest : List Char) : Begins (c :: rest)
  | point {c : Char} (digit : c.isDigit = true) (rest : List Char) : Begins ('.' :: c :: rest)

/-- A number starts where there is a digit, or a point before one. -/
theorem starts_of_begins {text : List Char} (begins : Begins text) : starts text = true := by
  cases begins with
  | @digit c digit rest =>
    unfold starts
    split
    · -- A point is no digit.
      rename_i same
      cases same
      cases digit
    · exact digit
  | point digit rest => exact digit

/-- The decimals and the exponent that a text goes on with. -/
def fractionOf (text : List Char) : List Char :=
  (splitDecimals text).1 ++ (splitExponent (splitDecimals text).2).1

/-- The digits, the decimals and the exponent that a text begins with. -/
def stemOf (text : List Char) : List Char :=
  (splitDigits text).1 ++ fractionOf (splitDigits text).2

/-- The text behind the digits, the decimals and the exponent. -/
def afterStem (text : List Char) : List Char :=
  (splitExponent (splitDecimals (splitDigits text).2).2).2

/-- A number is its stem, and the suffix that follows the stem. -/
theorem split_eq (text : List Char) :
    split text = (stemOf text ++ (splitSuffix (afterStem text)).1,
      (splitSuffix (afterStem text)).2) := by
  -- The stem is everything before the suffix, which is read last.
  simp only [split, stemOf, fractionOf, afterStem, List.append_assoc]

/-- Nothing is lost between the stem and what follows it. -/
theorem stemOf_append (text : List Char) : stemOf text ++ afterStem text = text := by
  -- Each part was cut from what the part before it left.
  simp only [stemOf, fractionOf, afterStem, List.append_assoc, splitExponent_append,
    splitDecimals_append, splitDigits_append]

/-- Where a number starts, the front of the text is the stem of a number. -/
theorem exists_stem_eq_stemOf {text : List Char} (number : starts text = true) :
    ∃ numeral : Numeral, numeral.stem = stemOf text :=
  -- A stem is all of a number that has no suffix.
  ⟨⟨_, _, _, [], List.all_takeWhile .., decimals_splitDecimals _, exponent_splitExponent _, .none,
    splitDigits_ne_nil_or_splitDecimals number⟩, List.append_assoc ..⟩

/-- Digits are split off together with those that follow them. -/
theorem splitDigits_append_digits {digits : List Char} (each : digits.all Char.isDigit = true)
    (rest : List Char) :
    splitDigits (digits ++ rest) = (digits ++ (splitDigits rest).1, (splitDigits rest).2) := by
  -- Taking and dropping both pass over the digits in front, since each of them is one.
  have inside : ∀ c ∈ digits, c.isDigit = true := List.all_eq_true.1 each
  rw [splitDigits, List.takeWhile_append_of_pos inside, List.dropWhile_append_of_pos inside]
  rfl

/-- What can be taken from where no digit stands can be taken as well behind the digits there. -/
theorem prefix_after_digits {part rest : List Char} (taken : List Char → List Char)
    (stop : part.head?.any Char.isDigit = false) (goesOn : part <+: taken (part ++ rest)) :
    part <+: (splitDigits (part ++ rest)).1 ++ taken (splitDigits (part ++ rest)).2 := by
  cases part with
  | nil => exact List.nil_prefix
  | cons c more =>
    -- There are no digits, so the part stands at the very front.
    have nothing : ([] : List Char).all Char.isDigit = true := rfl
    have none : splitDigits (c :: more ++ rest) = ([], c :: more ++ rest) :=
      splitDigits_of_stop nothing stop
    rw [none]
    exact goesOn

/-- An exponent at the front is taken, and more digits of it if there are any. -/
theorem prefix_splitExponent {exponent : List Char} (shape : Exponent exponent)
    (rest : List Char) : exponent <+: (splitExponent (exponent ++ rest)).1 := by
  cases shape with
  | none => exact List.nil_prefix
  | @letter e sign digits case signed each =>
    have inside : digits.all Char.isDigit = true := (Bool.and_eq_true_iff.1 each).2
    rw [List.cons_append, List.append_assoc]
    simp only [splitExponent, splitSignMark_digits each signed rest]
    -- The scanner sees the letter, the sign and a digit, and may find more digits behind.
    rw [if_pos ⟨case, startsWithDigit_append each rest⟩, splitDigits_append_digits inside,
      ← List.append_assoc, ← List.cons_append]
    exact List.prefix_append _ _

/-- Decimals and an exponent at the front are taken, and more digits if there are any. -/
theorem prefix_fractionOf {decimals exponent : List Char} (decimalsShape : Decimals decimals)
    (exponentShape : Exponent exponent) (rest : List Char) :
    decimals ++ exponent <+: fractionOf (decimals ++ (exponent ++ rest)) := by
  have taken := prefix_splitExponent exponentShape rest
  cases decimalsShape with
  | none =>
    cases exponentShape with
    | none => exact List.nil_prefix
    | @letter e sign digits case signed each =>
      -- The letter e is no point, so the exponent is looked for where it stands.
      have none (later : List Char) : splitDecimals (e :: later) = ([], e :: later) := by
        rcases case with rfl | rfl <;> rfl
      rw [List.nil_append, List.nil_append, fractionOf, List.cons_append, none]
      exact taken
  | @point digits each =>
    have inside : digits.all Char.isDigit = true := (Bool.and_eq_true_iff.1 each).2
    have stop : exponent.head?.any Char.isDigit = false :=
      head?_exponent exponentShape ⟨rfl, rfl⟩
    -- The exponent is looked for behind all of the digits that follow the point.
    rw [List.cons_append, List.cons_append, fractionOf, splitDecimals,
      if_pos (startsWithDigit_append each _), splitDigits_append_digits inside]
    show '.' :: (digits ++ exponent) <+: '.' :: (digits ++ (splitDigits (exponent ++ rest)).1) ++ _
    rw [List.cons_append, List.append_assoc, List.cons_prefix_cons, List.prefix_append_right_inj]
    exact ⟨rfl, prefix_after_digits (fun text => (splitExponent text).1) stop taken⟩

/-- The stem of a number at the front is taken, and more digits if there are any. -/
theorem prefix_stemOf (numeral : Numeral) (rest : List Char) :
    numeral.stem <+: stemOf (numeral.stem ++ rest) := by
  obtain ⟨whole, decimals, exponent, suffix, wholeDigits, decimalsShape, exponentShape, _, _⟩ :=
    numeral
  have taken := prefix_fractionOf decimalsShape exponentShape rest
  have stop : (decimals ++ exponent).head?.any Char.isDigit = false :=
    head?_append_any (head?_decimals decimalsShape rfl) (head?_exponent exponentShape ⟨rfl, rfl⟩)
  rw [← List.append_assoc] at taken
  -- The fraction is looked for behind all of the digits in front.
  simp only [stem, List.append_assoc, stemOf, splitDigits_append_digits wholeDigits]
  rw [List.prefix_append_right_inj, ← List.append_assoc decimals]
  exact prefix_after_digits fractionOf stop taken

/-- The front of a text that has the shape of a number, and that is part of no longer one. -/
structure IsLongestStem (front text : List Char) : Prop where
  -- Every numeral that begins the text has its stem inside of this one.
  isStem : ∃ numeral : Numeral, numeral.stem = front
  isFront : front <+: text
  longest : ∀ other : Numeral, other.stem <+: text → other.stem <+: front

/-- Where a number starts, all that can be a part of it before its suffix is taken. -/
theorem isLongestStem_stemOf {text : List Char} (number : starts text = true) :
    IsLongestStem (stemOf text) text where
  isStem := exists_stem_eq_stemOf number
  isFront := ⟨afterStem text, stemOf_append text⟩
  longest other front := by
    -- The scanner takes each part as far as it goes, so no stem reaches further.
    obtain ⟨rest, rfl⟩ := front
    exact prefix_stemOf other rest

/-- The suffix that is taken of the text behind a stem, and the text after it: one of the letters
that tell types, but no letter from which a word goes on. -/
inductive TakesSuffix : List Char → List Char → List Char → Prop where
  -- The second constructor covers a letter from which a word goes on as well.
  | letter {c : Char} {after : List Char} (type : c ∈ typeSuffixes)
    (ends : after.head?.any isWordPart = false) : TakesSuffix (c :: after) [c] after
  | none {text : List Char} (other : ∀ c ∈ typeSuffixes, ∀ after, text = c :: after →
    after.head?.any isWordPart = true) : TakesSuffix text [] text

/-- What is split off as a suffix is the suffix that is to be taken. -/
theorem takesSuffix_splitSuffix (text : List Char) :
    TakesSuffix text (splitSuffix text).1 (splitSuffix text).2 := by
  cases text with
  | nil => exact .none nofun
  | cons c rest =>
    rw [splitSuffix]
    split
    · rename_i found
      simp only [Bool.and_eq_true, List.contains_iff_mem, Bool.not_eq_true'] at found
      exact .letter found.1 found.2
    · -- Either the letter tells no type, or a word goes on from it.
      rename_i found
      refine .none fun d type after same => ?_
      cases same
      simpa [type] using found

/-- What begins a number is no blank. -/
theorem isBlank_of_begins {c : Char} {rest : List Char} (begins : Begins (c :: rest)) :
    isBlank c = false := by
  -- Neither a digit nor a point is blank.
  cases begins with
  | digit digit => exact isBlank_of_isDigit digit
  | point => decide

/-- Where a number starts no other kind of token is read. -/
theorem scan_of_starts {c : Char} {rest : List Char} (number : starts (c :: rest) = true) :
    Token.scan c rest = .ok
      { token := .number (String.ofList (split (c :: rest)).1)
        spelling := (split (c :: rest)).1
        after := (split (c :: rest)).2 } := by
  -- Numbers are tried right after strings, and a quote mark starts none.
  have noQuote : c ≠ quoteMark := by
    rintro rfl
    cases number
  rw [Token.scan, if_neg noQuote, if_pos number]

/-- Where a text goes on with a digit, or with a point and a digit, a number is read: the longest
front of the text that is made of digits with or without decimals, or of decimals alone, and of an
exponent if there is one, together with a letter that tells a type if no part of a word follows
that letter. -/
theorem next_of_begins {cursor : Cursor} (begins : Begins cursor.rest) :
    ∃ front suffix after,
      IsLongestStem front cursor.rest ∧ cursor.rest = front ++ (suffix ++ after) ∧
      TakesSuffix (suffix ++ after) suffix after ∧
      split cursor.rest = (front ++ suffix, after) ∧
      cursor.next = (.ok ⟨.number (String.ofList (front ++ suffix)), cursor.offset⟩,
        cursor.advance (front ++ suffix) after) := by
  -- The three parts of the split are the stem, the suffix and what is left.
  have number := starts_of_begins begins
  have cut := split_eq cursor.rest
  have suffixed := takesSuffix_splitSuffix (afterStem cursor.rest)
  refine ⟨stemOf cursor.rest, (splitSuffix (afterStem cursor.rest)).1,
    (splitSuffix (afterStem cursor.rest)).2, isLongestStem_stemOf number, ?_, ?_, cut, ?_⟩
  · rw [splitSuffix_append, stemOf_append]
  · rwa [splitSuffix_append]
  · obtain ⟨rest, offset⟩ := cursor
    cases rest with
    | nil => cases number
    | cons c rest =>
      -- The cursor stands on the number already, so there are no blanks to pass.
      have visible : (Cursor.mk (c :: rest) offset).skipBlanks = ⟨c :: rest, offset⟩ := by
        simp [Cursor.skipBlanks, Cursor.advance, isBlank_of_begins begins]
      rw [Cursor.next_of_scan visible (scan_of_starts number), cut]
      rfl

/-- In `1.5e-3Lx` the letter L is no suffix, since a word goes on from it. -/
theorem next_of_begins_word :
    let cursor : Cursor := ⟨"1.5e-3Lx".toList, 4⟩
    Begins cursor.rest ∧ IsLongestStem "1.5e-3".toList cursor.rest ∧
      cursor.next = (.ok ⟨.number "1.5e-3", 4⟩, ⟨['L', 'x'], 10⟩) := by
  intro cursor
  have begins : Begins cursor.rest := .digit rfl _
  obtain ⟨front, suffix, after, longest, -, suffixed, cut, next⟩ := next_of_begins begins
  -- The letters behind the number go on into a word, so none of them is a suffix.
  have parts : (front ++ suffix, after) = ("1.5e-3".toList, ['L', 'x']) :=
    cut.symm.trans (by decide)
  obtain ⟨taken, rfl⟩ := Prod.mk.inj parts
  have nothing : suffix = [] := by
    generalize suffix ++ ['L', 'x'] = text at suffixed
    cases suffixed with
    | letter type ends => exact absurd ends (by decide)
    | none => rfl
  subst nothing
  rw [List.append_nil] at taken
  subst taken
  exact ⟨begins, longest, next⟩

end Numeral

end MessageSelector
