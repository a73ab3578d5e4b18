import MessageSelector.Assignment
import MessageSelector.Proofs.Expr.NumberValue
import MessageSelector.Proofs.Text.Blank
import MessageSelector.Proofs.Token.Layout
import MessageSelector.Regex.Plain
import MessageSelector.Selector

/-! Values as they are written read back from assignments and from selectors. -/

namespace MessageSelector

/-- The text of an assignment is the name, an equals sign and the text of the value. -/
theorem Assignment.ofText_append {name text : String} (some : name ≠ "")
    (noEquals : '=' ∉ name.toList) (trimmedName : IsTrimmed name.toList)
    (trimmed : IsTrimmed text.toList) :
    ofText (name ++ "=" ++ text) = .ok ⟨name, readValue text.toList⟩ := by
  -- The name has no equals sign, so it ends before the one that is put behind it.
  have characters : (name ++ "=" ++ text).toList = name.toList ++ '=' :: text.toList := by simp
  have inside : name.toList.all (· != '=') = true := by
    refine List.all_eq_true.2 fun c held => bne_iff_ne.2 ?_
    rintro rfl
    exact noEquals held
  have before : (name.toList ++ '=' :: text.toList).takeWhile (· != '=') = name.toList :=
    takeWhile_append_of_stop inside rfl
  have after : (name.toList ++ '=' :: text.toList).dropWhile (· != '=') = '=' :: text.toList :=
    dropWhile_append_of_stop inside rfl
  simp only [ofText, characters, before, after, trimBlanks_of_isTrimmed trimmedName,
    trimBlanks_of_isTrimmed trimmed]
  simp [some]

/-- A quoted text is read as the string between the quotes. -/
theorem readValue_quoted (content : String) :
    readValue (quoted content).toList = .string content := by
  -- The text begins and ends with quote marks, so the quoted form is tried and succeeds.
  have read : readQuoted? (quoted content).toList = some content := by
    simp [readQuoted?]
  rw [readValue, read]
  rfl

/-- The words for the two flags are read as these. -/
theorem readValue_boolean (flag : Bool) :
    readValue (Truth.ofBool flag).text.toList = .boolean flag := by
  -- Both words are closed texts, and neither is quoted.
  cases flag <;> rfl

/-- What is read as a flag is a word. -/
theorem isWord_of_readBoolean? {text : String} {flag : Bool}
    (read : readBoolean? text = some flag) : IsWord text := by
  -- Either word is read in any case, and a text that upper-cases to a word is a word.
  unfold readBoolean? at read
  split at read
  · rename_i agree
    have same : upperCase text = Keyword.yes.text := agreeIgnoringCase_iff.1 agree
    exact Keyword.isWord_of_upperCase same
  · split at read
    · rename_i agree
      have same : upperCase text = Keyword.no.text := agreeIgnoringCase_iff.1 agree
      exact Keyword.isWord_of_upperCase same
    · cases read

/-- An integer is written with digits behind a minus or nothing. -/
theorem eq_or_isDigit_of_mem_writeInteger {n : Int} {c : Char} (held : c ∈ writeInteger n) :
    c = '-' ∨ c.isDigit = true := by
  -- The text is an optional sign and the decimal digits of the magnitude.
  rw [writeInteger_eq, List.mem_append] at held
  rcases held with sign | digit
  · unfold minusIf at sign
    split at sign
    · exact .inl (List.mem_singleton.1 sign)
    · cases sign
  · exact .inr (Nat.isDigit_of_mem_toDigits (by decide) (by decide) digit)

/-- The text of an integer begins neither as quoted text nor as a word. -/
theorem exists_head_writeInteger (n : Int) :
    ∃ c rest, writeInteger n = c :: rest ∧ c ≠ quoteMark ∧ isWordStart c = false := by
  cases written : writeInteger n with
  | nil => simp [writeInteger_eq, Nat.toDigits_ne_nil] at written
  | cons c rest =>
    refine ⟨c, rest, rfl, ?_⟩
    -- The first character is the sign or a digit, and neither a quote mark nor a letter is one of
    -- them.
    rcases eq_or_isDigit_of_mem_writeInteger (written ▸ List.mem_cons_self) with rfl | digit
    · exact ⟨by decide, by decide⟩
    · have bounds := Numeral.toNat_of_isDigit digit
      constructor
      · rintro rfl
        cases digit
      · apply isWordStart_of_lt (by omega)
        rintro rfl
        cases digit

/-- The digits of a 64-bit integer are read as that integer. -/
theorem readValue_writeInteger (value : Int64) :
    readValue (writeInteger value.toInt) = .number (.long value) := by
  -- Its first character keeps it from being read as a string or as a flag.
  obtain ⟨c, rest, written, noQuote, noWord⟩ := exists_head_writeInteger value.toInt
  have read := readInt64?_writeInteger value
  rw [written] at read ⊢
  have noString : readQuoted? (c :: rest) = none := by simp [readQuoted?, noQuote]
  have noFlag : readBoolean? (String.ofList (c :: rest)) = none := by
    refine Option.eq_none_iff_forall_ne_some.2 fun flag found => ?_
    obtain ⟨first, more, same, start, -⟩ := isWord_of_readBoolean? found
    rw [String.toList_ofList] at same
    cases same
    rw [noWord] at start
    cases start
  rw [readValue, noString, noFlag, read]
  rfl

/-- An integer is written without blanks. -/
theorem isTrimmed_writeInteger (n : Int) : IsTrimmed (writeInteger n) := by
  -- No character of the text is blank, so neither end is.
  refine isTrimmed_of_no_blank fun c held => ?_
  rcases eq_or_isDigit_of_mem_writeInteger held with rfl | digit
  · decide
  · exact isBlank_of_isDigit digit

/-- Quoted text begins and ends with a quote, whatever stands between the quotes. -/
theorem isTrimmed_quoted (content : String) : IsTrimmed (quoted content).toList := by
  -- A quote mark is no blank, and the content is not looked at.
  rw [toList_quoted]
  refine ⟨rfl, ?_⟩
  rw [← List.cons_append, List.getLast?_concat]
  rfl

/-- The words for the two flags have no blanks around them. -/
theorem isTrimmed_ofBool (flag : Bool) : IsTrimmed (Truth.ofBool flag).text.toList := by
  cases flag <;> exact ⟨rfl, rfl⟩

namespace Value

/-- What a value is read back as: integers become 64 bits wide, and floats and outcomes of
conditions are left out. -/
def widened? : Value → Option Value
  -- A floating value may be written like an integer, and a truth is no value of a message.
  | boolean flag => some (.boolean flag)
  | number (.byte n) => some (.number (.long n.toInt64))
  | number (.short n) => some (.number (.long n.toInt64))
  | number (.int n) => some (.number (.long n.toInt64))
  | number (.long n) => some (.number (.long n))
  | number (.float _) | number (.double _) | truth _ => none
  | string content => some (.string content)

variable {value widened : Value}

/-- A value is written as what it is read back as. -/
theorem text_of_widened? (widens : value.widened? = some widened) : widened.text = value.text := by
  -- Widening keeps the integer that a number denotes, and the text is written from the integer.
  cases value with
  | boolean flag =>
    cases widens
    rfl
  | number n =>
    cases n with
    | byte n =>
      cases widens
      simp [text, Number.text]
    | short n =>
      cases widens
      simp [text, Number.text]
    | int n =>
      cases widens
      simp [text, Number.text]
    | long n =>
      cases widens
      rfl
    | float n => cases widens
    | double n => cases widens
  | string content =>
    cases widens
    rfl
  | truth outcome => cases widens

/-- What a value is read back as is a flag, a 64-bit integer or a string. -/
theorem cases_of_widened? (widens : value.widened? = some widened) :
    (∃ flag, widened = .boolean flag) ∨ (∃ n, widened = .number (.long n)) ∨
      ∃ content, widened = .string content := by
  -- One case for each kind of value, and for each width of a number.
  unfold widened? at widens
  split at widens
  · exact .inl ⟨_, (Option.some.inj widens).symm⟩
  · exact .inr (.inl ⟨_, (Option.some.inj widens).symm⟩)
  · exact .inr (.inl ⟨_, (Option.some.inj widens).symm⟩)
  · exact .inr (.inl ⟨_, (Option.some.inj widens).symm⟩)
  · exact .inr (.inl ⟨_, (Option.some.inj widens).symm⟩)
  · cases widens
  · cases widens
  · cases widens
  · exact .inr (.inr ⟨_, (Option.some.inj widens).symm⟩)

/-- The text of a value has no blanks around it and is the value of an assignment. -/
theorem readValue_text (widens : value.widened? = some widened) :
    IsTrimmed value.text.toList ∧ readValue value.text.toList = widened := by
  -- The widened value has the same text, and it is a flag, a long integer or a string.
  rw [← text_of_widened? widens]
  rcases cases_of_widened? widens with ⟨flag, rfl⟩ | ⟨n, rfl⟩ | ⟨content, rfl⟩
  · exact ⟨isTrimmed_ofBool flag, readValue_boolean flag⟩
  · rw [text, Number.text, String.toList_ofList]
    exact ⟨isTrimmed_writeInteger n.toInt, readValue_writeInteger n⟩
  · exact ⟨isTrimmed_quoted content, readValue_quoted content⟩

/-- The text of a value is that of a literal. -/
theorem exists_literal (widens : value.widened? = some widened) :
    ∃ constant : Literal, constant.Canonical ∧ constant.text = value.text ∧
      constant.value = widened := by
  -- The three kinds of widened values are the kinds of canonical literals with the same text.
  rw [← text_of_widened? widens]
  rcases cases_of_widened? widens with ⟨flag, rfl⟩ | ⟨n, rfl⟩ | ⟨content, rfl⟩
  · exact ⟨.boolean flag, trivial, rfl, rfl⟩
  · exact ⟨.long _ n (Numeral.readLong?_text n), Numeral.canonical_text n, rfl, rfl⟩
  · exact ⟨.string content, trivial, rfl, rfl⟩

section

variable [Regex.Engine]

/-- A flag, an integer or a string reads back from its text, with 64 bits for an integer, both as
the value of an assignment to any trimmed name and as a selector that has this value whatever the
names are bound to. -/
theorem text_reads_back (widens : value.widened? = some widened) :
    (∀ name : String, name ≠ "" → '=' ∉ name.toList → IsTrimmed name.toList →
      Assignment.ofText (name ++ "=" ++ value.text) = .ok ⟨name, widened⟩) ∧
    ∃ selector, Selector.ofText value.text = .ok selector ∧
      ∀ mapping, selector.tree.eval mapping = some widened := by
  constructor
  · intro name some noEquals trimmedName
    -- The first equals sign ends the name, and what follows it is the text of the value.
    obtain ⟨trimmed, read⟩ := readValue_text widens
    rw [Assignment.ofText_append some noEquals trimmedName trimmed, read]
  -- As a selector, the text is the rendering of a literal that is settled on every mapping.
  · obtain ⟨constant, canonical, text, rfl⟩ := exists_literal widens
    have reads : (Expr.literal constant).Reads value.text.toList := text ▸ .literal canonical
    exact ⟨⟨value.text, .literal constant⟩,
      Selector.ofText_eq_ok_iff.2 ⟨rfl, Expr.ofText_of_reads reads⟩, fun mapping => rfl⟩

end

/-- The string `='TRUE' ` keeps its quotes, its equals sign and its last blank, and the least byte
becomes an integer of 64 bits. -/
theorem text_reads_back_quotes :
    (Value.string "='TRUE' ").widened? = some (.string "='TRUE' ") ∧
      Assignment.ofText "a b='=''TRUE'' '" = .ok ⟨"a b", .string "='TRUE' "⟩ ∧
      (Value.number (.byte (-128))).widened? = some (.number (.long (-128))) ∧
      ∃ selector, Selector.ofText "-128" = .ok selector ∧
        ∀ mapping, selector.tree.eval mapping = some (.number (.long (-128))) := by
  -- The string holds an equals sign, quote marks and a blank at its end.
  have widens : (Value.string "='TRUE' ").widened? = some (.string "='TRUE' ") := rfl
  have widensByte : (Value.number (.byte (-128))).widened? = some (.number (.long (-128))) := by
    decide
  obtain ⟨assigned, -⟩ := text_reads_back widens
  obtain ⟨-, selected⟩ := text_reads_back widensByte
  exact ⟨widens, assigned "a b" (by decide) (by decide) ⟨by decide, by decide⟩, widensByte,
    selected⟩

end Value

end MessageSelector
