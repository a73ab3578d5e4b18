import MessageSelector.Literal
import MessageSelector.Proofs.Token.Numeral

/-! The texts that number literals are read from, and the literals that they are read as. -/

namespace MessageSelector

/-- The characters of a number without a suffix. -/
def isPlain (c : Char) : Bool :=
  c.isDigit || ['.', 'e', 'E', '+', '-'].contains c

/-- Digits are characters of numbers. -/
theorem all_isPlain_of_digits {digits : List Char} (each : digits.all Char.isDigit = true) :
    digits.all isPlain = true := by
  -- Plain characters include the digits by definition.
  refine List.all_eq_true.2 fun c held => ?_
  have digit : c.isDigit = true := List.all_eq_true.1 each c held
  simp [isPlain, digit]

/-- A sign in front makes no difference to whether the characters are those of a number. -/
theorem all_isPlain_of_splitSign {text : List Char}
    (plain : (splitSign text).2.all isPlain = true) : text.all isPlain = true := by
  -- Both signs are characters of numbers themselves.
  unfold splitSign at plain
  split at plain
  · simpa [isPlain] using plain
  · simpa [isPlain] using plain
  · exact plain

/-- What is read as an exponent holds only characters of numbers. -/
theorem all_isPlain_of_readExponent? {text : List Char} {exponent : Int}
    (read : readExponent? text = some exponent) : text.all isPlain = true := by
  -- Nothing is read but the letter e with a sign and digits after it.
  unfold readExponent? at read
  split at read
  · rfl
  · rename_i e rest
    split at read
    · rename_i letter
      simp only at read
      split at read
      · rename_i digits
        -- The letter is plain, and so is the sign before the digits.
        have plain : isPlain e = true := by rcases letter with rfl | rfl <;> decide
        have each := (Bool.and_eq_true_iff.1 digits).2
        have tail := all_isPlain_of_splitSign (all_isPlain_of_digits each)
        simp [plain, tail]
      · cases read
    · cases read

/-- What is read as an unsigned fraction holds only characters of numbers. -/
theorem all_isPlain_of_readUnsigned? {negative : Bool} {text : List Char} {fraction : Fraction}
    (read : readUnsigned? negative text = some fraction) : text.all isPlain = true := by
  -- The text is the digits in front and what is left after them.
  have whole : (text.takeWhile Char.isDigit).all isPlain = true :=
    all_isPlain_of_digits List.all_takeWhile
  rw [← List.takeWhile_append_dropWhile (p := Char.isDigit) (l := text), List.all_append, whole,
    Bool.true_and]
  unfold readUnsigned? at read
  generalize text.dropWhile Char.isDigit = after at read
  simp only at read
  -- A point goes on with decimals, and without one there is only the exponent.
  split at read
  · rename_i rest
    split at read
    · cases read
    · obtain ⟨exponent, readExponent, -⟩ := Option.map_eq_some_iff.1 read
      have decimals : (rest.takeWhile Char.isDigit).all isPlain = true :=
        all_isPlain_of_digits List.all_takeWhile
      have tail := all_isPlain_of_readExponent? readExponent
      have point : isPlain '.' = true := by decide
      rw [List.all_cons, point, ← List.takeWhile_append_dropWhile (p := Char.isDigit) (l := rest),
        List.all_append, decimals, tail]
      rfl
  · split at read
    · cases read
    · obtain ⟨exponent, readExponent, -⟩ := Option.map_eq_some_iff.1 read
      exact all_isPlain_of_readExponent? readExponent

/-- What is read as a float holds only characters of numbers. -/
theorem all_isPlain_of_readFloat? {text : List Char} {value : Float}
    (read : readFloat? text = some value) : text.all isPlain = true := by
  -- After a sign or none the text is an unsigned fraction.
  unfold readFloat? readFraction? at read
  obtain ⟨fraction, found, -⟩ := Option.map_eq_some_iff.1 read
  exact all_isPlain_of_splitSign (all_isPlain_of_readUnsigned? found)

namespace Numeral

/-- The text is that of the number, with a minus in front or without. -/
def Writes (numeral : Numeral) (text : String) : Prop :=
  text.toList = numeral.text ∨ text.toList = '-' :: numeral.text

/-- A number of digits alone, with the suffix L or none. -/
def IsLong (numeral : Numeral) : Prop :=
  -- Neither places nor exponent, and no suffix but that of long integers.
  numeral.decimals = [] ∧ numeral.exponent = [] ∧
    (numeral.suffix = [] ∨ ∃ c ∈ ['L', 'l'], numeral.suffix = [c])

/-- A number with decimals, an exponent or a suffix, which is D or F where there is one. -/
def IsDouble (numeral : Numeral) : Prop :=
  -- Places, exponent or suffix mark the number, and the suffix is none of the long integers.
  (numeral.decimals ≠ [] ∨ numeral.exponent ≠ [] ∨ numeral.suffix ≠ []) ∧
    (numeral.suffix = [] ∨ ∃ c ∈ ['D', 'd', 'F', 'f'], numeral.suffix = [c])

/-- The parts of a number before its suffix. -/
def stem (numeral : Numeral) : List Char :=
  numeral.whole ++ numeral.decimals ++ numeral.exponent

/-- All of a number but its suffix is made of digits, points, signs and the letter e. -/
theorem all_isPlain_stem (numeral : Numeral) : numeral.stem.all isPlain = true := by
  obtain ⟨whole, decimals, exponent, suffix, wholeDigits, decimalsShape, exponentShape, _, _⟩ :=
    numeral
  -- Each of the three parts holds only characters of numbers, by its shape.
  have plainWhole := all_isPlain_of_digits wholeDigits
  have plainDecimals : decimals.all isPlain = true := by
    cases decimalsShape with
    | none => rfl
    | point each =>
      have plain := all_isPlain_of_digits (Bool.and_eq_true_iff.1 each).2
      simpa [isPlain] using plain
  have plainExponent : exponent.all isPlain = true := by
    cases exponentShape with
    | none => rfl
    | letter case signed each =>
      have plain := all_isPlain_of_digits (Bool.and_eq_true_iff.1 each).2
      rcases case with rfl | rfl <;> rcases signed with rfl | rfl | rfl <;>
        simpa [isPlain] using plain
  simp [stem, plainWhole, plainDecimals, plainExponent]

/-- Decimals and an exponent are told by a point and the letter e. -/
theorem any_stem (numeral : Numeral) :
    numeral.stem.any ['.', 'e', 'E'].contains = true ↔
      numeral.decimals ≠ [] ∨ numeral.exponent ≠ [] := by
  obtain ⟨whole, decimals, exponent, suffix, wholeDigits, decimalsShape, exponentShape, _, _⟩ :=
    numeral
  -- The digits in front tell nothing, and each other part shows by its first character.
  have noWhole : whole.any ['.', 'e', 'E'].contains = false := by
    refine List.any_eq_false.2 fun c held => ?_
    have digit : c.isDigit = true := List.all_eq_true.1 wholeDigits c held
    intro found
    simp only [List.contains_iff_mem, List.mem_cons, List.not_mem_nil, or_false] at found
    rcases found with rfl | rfl | rfl <;> cases digit
  have point : decimals.any ['.', 'e', 'E'].contains = true ↔ decimals ≠ [] := by
    cases decimalsShape <;> simp
  have letter : exponent.any ['.', 'e', 'E'].contains = true ↔ exponent ≠ [] := by
    cases exponentShape with
    | none => simp
    | letter case => rcases case with rfl | rfl <;> simp
  simp only [stem, List.any_append, noWhole, Bool.false_or, Bool.or_eq_true, point, letter]

/-- A text of such characters ends with none of the letters that are none of them. -/
theorem any_getLast?_of_plain {letters text : List Char} (other : letters.any isPlain = false)
    (plain : text.all isPlain = true) : text.getLast?.any letters.contains = false := by
  -- A letter that is found at the end would be plain, as all of the text is.
  cases last : text.getLast? with
  | none => rfl
  | some c =>
    have plainLast := List.all_eq_true.1 plain c (List.mem_of_getLast? last)
    refine Bool.eq_false_iff.2 fun found => ?_
    exact List.any_eq_false.1 other c (List.contains_iff_mem.1 found) plainLast

/-- The text of a number is a sign or none, the parts before the suffix, and the suffix. -/
theorem Writes.exists_sign {numeral : Numeral} {text : String} (writes : numeral.Writes text) :
    ∃ sign, (sign = [] ∨ sign = ['-']) ∧ text.toList = sign ++ numeral.stem ++ numeral.suffix := by
  -- The minus is kept apart, so that the rest is the same in both cases.
  rcases writes with bare | minus
  · exact ⟨[], .inl rfl, by simp [bare, Numeral.text, stem]⟩
  · exact ⟨['-'], .inr rfl, by simp [minus, Numeral.text, stem]⟩

/-- The shape of a text tells whether the number is read as a float or as an integer. -/
theorem isApproximate_iff {numeral : Numeral} {text : String} (writes : numeral.Writes text) :
    Literal.isApproximate text = true ↔ numeral.decimals ≠ [] ∨ numeral.exponent ≠ [] ∨
      ∃ c ∈ ['D', 'd', 'F', 'f'], numeral.suffix = [c] := by
  obtain ⟨sign, signed, written⟩ := writes.exists_sign
  -- A minus is neither a point nor a letter, so it does not count.
  have noSign : sign.any ['.', 'e', 'E'].contains = false := by rcases signed with rfl | rfl <;> rfl
  have plainSign : sign.all isPlain = true := by rcases signed with rfl | rfl <;> rfl
  have plain : (sign ++ numeral.stem).all isPlain = true := by
    rw [List.all_append, plainSign, numeral.all_isPlain_stem]
    rfl
  have stem := numeral.any_stem
  have shape := numeral.suffixShape
  unfold Literal.isApproximate
  rw [written]
  generalize numeral.suffix = suffix at shape
  cases shape with
  | none =>
    -- Without a suffix the last character is one of those before it.
    rw [List.append_nil, any_getLast?_of_plain (by decide) plain, Bool.or_false, List.any_append,
      noSign, Bool.false_or, stem]
    simp
  | @letter c type =>
    -- With a suffix that is the last character, and no suffix looks like a point or an exponent.
    have noPoint : ['.', 'e', 'E'].contains c = false := by
      have each : typeSuffixes.all (fun c => !(['.', 'e', 'E'].contains c)) = true := by decide
      simpa using List.all_eq_true.1 each c type
    have letter : ['d', 'D', 'f', 'F'].contains c = true ↔ c ∈ ['D', 'd', 'F', 'f'] := by
      simp only [List.contains_iff_mem, List.mem_cons, List.not_mem_nil, or_false]
      -- The same letters are listed in two orders.
      grind
    have points : (sign ++ numeral.stem ++ [c]).any ['.', 'e', 'E'].contains =
        numeral.stem.any ['.', 'e', 'E'].contains := by
      rw [List.any_append, List.any_append, noSign, List.any_cons, noPoint]
      simp
    have last : (sign ++ numeral.stem ++ [c]).getLast?.any ['d', 'D', 'f', 'F'].contains =
        ['d', 'D', 'f', 'F'].contains c := by
      rw [List.getLast?_concat]
      rfl
    rw [points, last, Bool.or_eq_true, stem, letter, or_assoc]
    simp

/-- Each suffix is one of integers or one of floats. -/
theorem mem_typeSuffixes_iff {c : Char} :
    c ∈ typeSuffixes ↔ c ∈ ['L', 'l'] ∨ c ∈ ['D', 'd', 'F', 'f'] :=
  -- The list of suffixes is the one list after the other.
  List.mem_append (s := ['L', 'l']) (t := ['D', 'd', 'F', 'f'])

/-- No suffix of integers is one of floats. -/
theorem notMem_of_long {c : Char} (long : c ∈ ['L', 'l']) : c ∉ ['D', 'd', 'F', 'f'] := by
  -- Both letters are compared with all four.
  simp only [List.mem_cons, List.not_mem_nil, or_false] at long
  rcases long with rfl | rfl <;> decide

/-- A number with the suffix of integers is not read as a float. -/
theorem readDouble?_of_suffix {numeral : Numeral} {text : String} {c : Char}
    (writes : numeral.Writes text) (suffix : numeral.suffix = [c]) (long : c ∈ ['L', 'l']) :
    readDouble? text = none := by
  obtain ⟨sign, signed, written⟩ := writes.exists_sign
  rw [suffix] at written
  -- The suffix of integers is not dropped before the float is read.
  have kept : dropTypeSuffix ['D', 'd', 'F', 'f'] text.toList = text.toList := by
    have out : ['D', 'd', 'F', 'f'].contains c = false := by simpa using notMem_of_long long
    rw [dropTypeSuffix, written, List.getLast?_concat]
    simp only [Option.any_some, out, Bool.false_eq_true, if_false]
  cases read : readDouble? text with
  | none => rfl
  | some value =>
    rw [readDouble?, kept] at read
    -- The suffix would have to be a character of numbers without one.
    have plain := all_isPlain_of_readFloat? read
    have held : c ∈ text.toList := by simp [written]
    have plainSuffix := List.all_eq_true.1 plain c held
    simp only [List.mem_cons, List.not_mem_nil, or_false] at long
    rcases long with rfl | rfl <;> cases plainSuffix

/-- A number that is read as a float has the shape of one. -/
theorem isDouble_of_reads {numeral : Numeral} {text : String} {value : Float}
    (writes : numeral.Writes text) (float : Literal.isApproximate text = true)
    (reads : readDouble? text = some value) : numeral.IsDouble := by
  have shape := numeral.suffixShape
  -- With the suffix of integers the text would not have been read as a float.
  have noLong : ∀ c ∈ ['L', 'l'], numeral.suffix ≠ [c] := by
    intro c long suffix
    rw [readDouble?_of_suffix writes suffix long] at reads
    cases reads
  refine ⟨?_, ?_⟩
  · rcases (isApproximate_iff writes).1 float with decimals | exponent | ⟨c, type, suffix⟩
    · exact .inl decimals
    · exact .inr (.inl exponent)
    · exact .inr (.inr (by simp [suffix]))
  · generalize numeral.suffix = suffix at shape noLong
    cases shape with
    | none => exact .inl rfl
    | @letter c type =>
      have double := (mem_typeSuffixes_iff.1 type).resolve_left fun long => noLong c long rfl
      exact .inr ⟨c, double, rfl⟩

/-- A number that is not read as a float has the shape of an integer. -/
theorem isLong_of_exact {numeral : Numeral} {text : String} (writes : numeral.Writes text)
    (exact : ¬Literal.isApproximate text = true) : numeral.IsLong := by
  have shape := numeral.suffixShape
  -- No decimals, no exponent and no suffix of floats are there.
  rw [isApproximate_iff writes, not_or, not_or, not_exists] at exact
  obtain ⟨decimals, exponent, noDouble⟩ := exact
  refine ⟨Decidable.not_not.1 decimals, Decidable.not_not.1 exponent, ?_⟩
  generalize numeral.suffix = suffix at shape noDouble
  cases shape with
  | none => exact .inl rfl
  | @letter c type =>
    have long := (mem_typeSuffixes_iff.1 type).resolve_right fun double => noDouble c ⟨double, rfl⟩
    exact .inr ⟨c, long, rfl⟩

end Numeral

namespace Literal

/-- The text of a number is one that a number of its kind is written with. -/
def Canonical : Literal → Prop
  -- Only the texts of numbers can be malformed; booleans and strings are written from their values.
  | boolean _ | string _ => True
  | long text _ _ => ∃ numeral : Numeral, numeral.IsLong ∧ numeral.Writes text
  | double text _ _ => ∃ numeral : Numeral, numeral.IsDouble ∧ numeral.Writes text

/-- The text of an integer literal reads back as the literal. -/
theorem ofLong_of_reads {text : String} {value : Int64} (reads : readLong? text = some value) :
    ofLong text = .ok (.long text value reads) := by
  unfold ofLong
  split
  · rename_i found same
    -- The reader has one answer, so the value carried along is the one given.
    obtain rfl : found = value := Option.some.inj (same.symm.trans reads)
    rfl
  · rename_i refused
    rw [reads] at refused
    cases refused

/-- The text of a float literal reads back as the literal. -/
theorem ofDouble_of_reads {text : String} {value : Float} (reads : readDouble? text = some value) :
    ofDouble text = .ok (.double text value reads) := by
  unfold ofDouble
  split
  · rename_i found same
    -- The reader has one answer, so the value carried along is the one given.
    obtain rfl : found = value := Option.some.inj (same.symm.trans reads)
    rfl
  · rename_i refused
    rw [reads] at refused
    cases refused

/-- A text that is not read as an integer is no integer literal. -/
theorem ofLong_of_none {text : String} (none : readLong? text = none) :
    ofLong text = .error ⟨.long, text⟩ := by
  -- A text that is not read is refused under its own name.
  unfold ofLong
  split
  · rename_i reads
    rw [none] at reads
    cases reads
  · rfl

/-- A text that is not read as a float is no float literal. -/
theorem ofDouble_of_none {text : String} (none : readDouble? text = none) :
    ofDouble text = .error ⟨.double, text⟩ := by
  -- A text that is not read is refused under its own name.
  unfold ofDouble
  split
  · rename_i reads
    rw [none] at reads
    cases reads
  · rfl

/-- The text of a number that is read is kept, and it is the text of a number of its kind. -/
theorem canonical_of_ofNumeral {numeral : Numeral} {text : String} {constant : Literal}
    (writes : numeral.Writes text) (read : ofNumeral text = .ok constant) :
    constant.Canonical := by
  -- The form of the text has already decided which reader is asked.
  unfold ofNumeral at read
  split at read
  · rename_i float
    unfold ofDouble at read
    split at read
    · rename_i value reads
      cases read
      exact ⟨numeral, Numeral.isDouble_of_reads writes float reads, writes⟩
    · cases read
  · rename_i exact
    unfold ofLong at read
    split at read
    · cases read
      exact ⟨numeral, Numeral.isLong_of_exact writes exact, writes⟩
    · cases read

/-- An integer literal is read from its text when that is the text of an integer. -/
theorem ofNumeral_of_isLong {numeral : Numeral} {text : String} {value : Int64}
    (long : numeral.IsLong) (writes : numeral.Writes text) (reads : readLong? text = some value) :
    ofNumeral text = .ok (.long text value reads) := by
  have exact : ¬isApproximate text = true := by
    rw [Numeral.isApproximate_iff writes]
    obtain ⟨decimals, exponent, suffix⟩ := long
    rcases suffix with none | ⟨c, type, suffix⟩
    · simp [decimals, exponent, none]
    · -- The suffix of integers is none of those of floats.
      simp only [List.mem_cons, List.not_mem_nil, or_false] at type
      rcases type with rfl | rfl <;> simp [decimals, exponent, suffix]
  rw [ofNumeral, if_neg exact, ofLong_of_reads reads]

/-- A float literal is read from its text when that is the text of a float. -/
theorem ofNumeral_of_isDouble {numeral : Numeral} {text : String} {value : Float}
    (double : numeral.IsDouble) (writes : numeral.Writes text)
    (reads : readDouble? text = some value) :
    ofNumeral text = .ok (.double text value reads) := by
  -- One of the three marks of a float is there, and the suffix is one of floats if there is any.
  have approximate : isApproximate text = true := by
    rw [Numeral.isApproximate_iff writes]
    obtain ⟨some, shape⟩ := double
    rcases shape with none | ⟨c, type, suffix⟩
    · rcases some with decimals | exponent | suffix
      · exact .inl decimals
      · exact .inr (.inl exponent)
      · exact absurd none suffix
    · exact .inr (.inr ⟨c, type, suffix⟩)
  rw [ofNumeral, if_pos approximate, ofDouble_of_reads reads]

end Literal

end MessageSelector
