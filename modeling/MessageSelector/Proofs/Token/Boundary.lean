import MessageSelector.Proofs.Token.Spelling

/-! Where tokens end: a token is read the same when the text some way behind it is replaced. -/

namespace MessageSelector

/-- The character goes on with no token, whatever comes before it. -/
def isBoundary (c : Char) : Bool :=
  !(isWordPart c || ['.', quoteMark, '=', '>', '+', '-'].contains c)

/-- Nothing comes next, or a character that goes on with no token. -/
def breaksOff (after : List Char) : Bool :=
  after.head?.all isBoundary

/-- Every blank goes on with no token. -/
theorem isBoundary_of_isBlank {c : Char} (blank : isBlank c = true) : isBoundary c = true := by
  -- The twenty-five codes are tried in turn.
  have each : ∀ code ∈ blankCodes, isBoundary (Char.ofNat code) = true := by decide +kernel
  have held := each c.toNat (mem_blankCodes blank)
  rwa [Char.ofNat_toNat] at held

/-- Blanks before a text break off what comes before them; without blanks the text has to. -/
theorem breaksOff_append_of_blanks {blanks after : List Char} (blank : blanks.all isBlank = true)
    (breaks : blanks = [] → breaksOff after = true) : breaksOff (blanks ++ after) = true := by
  -- The first blank is a boundary; without one, the text behind decides.
  cases blanks with
  | nil => exact breaks rfl
  | cons c rest =>
    simp only [List.all_cons, Bool.and_eq_true] at blank
    exact isBoundary_of_isBlank blank.1

/-- Blanks up to the end of a text go on with no token. -/
theorem breaksOff_of_blank {blanks : List Char} (blank : blanks.all isBlank = true) :
    breaksOff blanks = true := by
  -- The blanks are followed by nothing, and nothing is a boundary as well.
  have breaks : breaksOff (blanks ++ []) = true := breaksOff_append_of_blanks blank fun _ => rfl
  rwa [List.append_nil] at breaks

variable {left tail other : List Char}

/-- A character that goes on with no token has no property that only parts of tokens have. -/
theorem head?_any_of_breaksOff {p : Char → Bool} (part : ∀ c, p c = true → isBoundary c = false)
    (breaks : breaksOff other = true) : other.head?.any p = false := by
  cases other with
  | nil => rfl
  | cons c rest =>
    have boundary : isBoundary c = true := breaks
    show p c = false
    -- A boundary is no part of a token, so the two cannot both hold.
    cases inside : p c with
    | false => rfl
    | true =>
      rw [part c inside] at boundary
      cases boundary

/-- What comes next still is no part of a token when the text some way behind it is replaced. -/
theorem head?_any_replace {p : Char → Bool} (part : ∀ c, p c = true → isBoundary c = false)
    (stop : (left ++ tail).head?.any p = false) (breaks : breaksOff other = true) :
    (left ++ other).head?.any p = false := by
  -- Where nothing is kept before the new text, that text comes next.
  cases left with
  | nil => exact head?_any_of_breaksOff part breaks
  | cons c rest => exact stop

/-- A part of a word is a part of tokens. -/
theorem isBoundary_of_isWordPart {c : Char} (part : isWordPart c = true) :
    isBoundary c = false := by
  -- Boundaries are defined as characters that are no part of a word.
  simp [isBoundary, part]

/-- A digit is a part of tokens. -/
theorem isBoundary_of_isDigit {c : Char} (digit : c.isDigit = true) : isBoundary c = false :=
  isBoundary_of_isWordPart (Numeral.isWordPart_of_isDigit digit)

namespace Numeral

variable {taken : List Char}

/-- Where no digit comes next, none does when all behind is replaced. -/
theorem startsWithDigit_replace (stop : startsWithDigit (left ++ tail) = false)
    (breaks : breaksOff other = true) : startsWithDigit (left ++ other) = false :=
  -- A boundary is no digit, so the exchange begins none.
  head?_any_replace (fun _ => isBoundary_of_isDigit) stop breaks

/-- The same digits are split off when the text some way behind them is replaced. -/
theorem splitDigits_replace (cut : splitDigits (taken ++ (left ++ tail)) = (taken, left ++ tail))
    (breaks : breaksOff other = true) :
    splitDigits (taken ++ (left ++ other)) = (taken, left ++ other) := by
  obtain ⟨run, stop⟩ := Prod.mk.inj cut
  have each : taken.all Char.isDigit = true := by
    rw [← run]
    exact List.all_takeWhile
  -- The digits stop inside of what stays, or else at the boundary that is put in its place.
  have noDigit : (left ++ tail).head?.any Char.isDigit = false := by
    rw [← stop]
    exact head?_any_dropWhile ..
  apply splitDigits_of_stop each
  exact startsWithDigit_replace noDigit breaks

/-- Decimals are only split off at a point. -/
theorem splitDecimals_of_ne {c : Char} (other : c ≠ '.') (rest : List Char) :
    splitDecimals (c :: rest) = ([], c :: rest) := by
  -- The split asks for a point first, and this character is another one.
  unfold splitDecimals
  split
  · rename_i same
    exact absurd (List.cons.inj same).1 other
  · rfl

/-- The same decimals are split off when the text some way behind them is replaced. -/
theorem splitDecimals_replace
    (cut : splitDecimals (taken ++ (left ++ tail)) = (taken, left ++ tail))
    (breaks : breaksOff other = true) :
    splitDecimals (taken ++ (left ++ other)) = (taken, left ++ other) := by
  have shape := decimals_splitDecimals (taken ++ (left ++ tail))
  rw [cut] at shape
  cases shape with
  | @point digits each =>
    rw [List.cons_append, splitDecimals, if_pos (startsWithDigit_append each _)] at cut ⊢
    have run : splitDigits (digits ++ (left ++ tail)) = (digits, left ++ tail) := by
      simpa [Prod.ext_iff] using cut
    rw [splitDigits_replace run breaks]
  | none =>
    rw [List.nil_append] at cut ⊢
    cases left with
    | nil =>
      -- The other text begins with no point.
      cases other with
      | nil => rfl
      | cons c rest =>
        apply splitDecimals_of_ne
        rintro rfl
        cases breaks
    | cons c rest =>
      by_cases point : c = '.'
      · -- A point is left over where no digit comes next, and none does in the new text either.
        subst point
        have noDigit : startsWithDigit (rest ++ tail) = false := by
          cases digit : startsWithDigit (rest ++ tail) with
          | false => rfl
          | true => simp [splitDecimals, digit] at cut
        have still := startsWithDigit_replace noDigit breaks
        simp [splitDecimals, still]
      · exact splitDecimals_of_ne point _

/-- Where no digit comes next, behind a sign or at once, none does when all behind is replaced. -/
theorem startsWithDigit_splitSignMark_replace
    (stop : startsWithDigit (splitSignMark (left ++ tail)).2 = false)
    (breaks : breaksOff other = true) :
    startsWithDigit (splitSignMark (left ++ other)).2 = false := by
  cases left with
  | nil =>
    -- The other text begins with no sign.
    have noSign : splitSignMark other = ([], other) := by
      unfold splitSignMark
      split
      · cases breaks
      · cases breaks
      · rfl
    rw [List.nil_append, noSign]
    exact head?_any_of_breaksOff (fun _ => isBoundary_of_isDigit) breaks
  | cons c rest =>
    by_cases plus : c = '+'
    · subst plus
      exact head?_any_replace (fun _ => isBoundary_of_isDigit) stop breaks
    · by_cases minus : c = '-'
      · subst minus
        exact head?_any_replace (fun _ => isBoundary_of_isDigit) stop breaks
      · -- Without a sign the first character is the one that is no digit.
        have noSign (more : List Char) : splitSignMark (c :: more) = ([], c :: more) := by
          unfold splitSignMark
          split <;> simp_all
        rw [List.cons_append, noSign] at stop ⊢
        exact stop

/-- The same exponent is split off when the text some way behind it is replaced. -/
theorem splitExponent_replace
    (cut : splitExponent (taken ++ (left ++ tail)) = (taken, left ++ tail))
    (breaks : breaksOff other = true) :
    splitExponent (taken ++ (left ++ other)) = (taken, left ++ other) := by
  have shape := exponent_splitExponent (taken ++ (left ++ tail))
  rw [cut] at shape
  cases shape with
  | @letter e sign digits case signed each =>
    rw [List.cons_append, List.append_assoc] at cut ⊢
    simp only [splitExponent, splitSignMark_digits each signed] at cut ⊢
    rw [if_pos ⟨case, startsWithDigit_append each _⟩] at cut ⊢
    have run : splitDigits (digits ++ (left ++ tail)) = (digits, left ++ tail) := by
      simpa [Prod.ext_iff] using cut
    rw [splitDigits_replace run breaks]
  | none =>
    rw [List.nil_append] at cut ⊢
    cases left with
    | nil =>
      -- The other text begins with no letter.
      cases other with
      | nil => rfl
      | cons c rest =>
        have noLetter : ¬(c = 'e' ∨ c = 'E') := by
          rintro (rfl | rfl)
          · cases breaks
          · cases breaks
        simp [splitExponent, noLetter]
    | cons e rest =>
      by_cases letter : e = 'e' ∨ e = 'E'
      · -- The letter is left over where no digit comes next, and none does in the new text.
        have noDigit : startsWithDigit (splitSignMark (rest ++ tail)).2 = false := by
          cases digit : startsWithDigit (splitSignMark (rest ++ tail)).2 with
          | false => rfl
          | true => simp [splitExponent, letter, digit] at cut
        have still := startsWithDigit_splitSignMark_replace noDigit breaks
        simp [splitExponent, still]
      · simp [splitExponent, letter]

/-- What is left is no type suffix that the tail goes on with as a longer word. -/
def splitsNoWord (left tail : List Char) : Prop :=
  ∀ c ∈ typeSuffixes, left = [c] → tail.head?.any isWordPart = false

/-- The same suffix is split off when the text some way behind it is replaced, unless that makes a
suffix of the beginning of a word. -/
theorem splitSuffix_replace
    (cut : splitSuffix (taken ++ (left ++ tail)) = (taken, left ++ tail))
    (whole : splitsNoWord left tail) (breaks : breaksOff other = true) :
    splitSuffix (taken ++ (left ++ other)) = (taken, left ++ other) := by
  have part : ∀ c, isWordPart c = true → isBoundary c = false :=
    fun _ => isBoundary_of_isWordPart
  have shape := suffix_splitSuffix (taken ++ (left ++ tail))
  rw [cut] at shape
  cases shape with
  | @letter c type =>
    rw [List.singleton_append, splitSuffix] at cut
    split at cut
    · rename_i found
      have stop : (left ++ tail).head?.any isWordPart = false := by
        simpa [type] using found
      apply splitSuffix_of_stop (.letter type)
      exact head?_any_replace part stop breaks
    · cases cut
  | none =>
    rw [List.nil_append] at cut ⊢
    cases left with
    | nil =>
      apply splitSuffix_of_stop .none
      exact head?_any_of_breaksOff part breaks
    | cons c rest =>
      rw [List.cons_append, splitSuffix] at cut ⊢
      split at cut
      · cases cut
      · rename_i refused
        apply if_neg
        intro found
        -- A letter that is a suffix now was none before, since it began a longer word.
        obtain ⟨type, stop⟩ : typeSuffixes.contains c = true ∧
            (rest ++ other).head?.any isWordPart = false := by simpa using found
        apply refused
        rw [type, Bool.true_and, Bool.not_eq_true']
        cases rest with
        | nil => exact whole c (List.contains_iff_mem.1 type) rfl
        | cons d rest => exact stop

/-- The same number is split off when the text some way behind it is replaced, unless that makes a
suffix of the beginning of a word. -/
theorem split_replace (cut : split (taken ++ (left ++ tail)) = (taken, left ++ tail))
    (whole : splitsNoWord left tail) (breaks : breaksOff other = true) :
    split (taken ++ (left ++ other)) = (taken, left ++ other) := by
  generalize taken ++ (left ++ tail) = text at cut
  -- Each part leaves the parts after it and the rest of the text.
  cases digits : splitDigits text with
  | mk integer afterInteger =>
  cases point : splitDecimals afterInteger with
  | mk decimals afterDecimals =>
  cases letter : splitExponent afterDecimals with
  | mk exponent afterExponent =>
  cases type : splitSuffix afterExponent with
  | mk suffix after =>
  simp only [split, digits, point, letter, type] at cut
  obtain ⟨rfl, rfl⟩ := Prod.mk.inj cut
  obtain rfl : suffix ++ (left ++ tail) = afterExponent := by
    simpa [type] using splitSuffix_append afterExponent
  rw [← List.append_assoc] at letter
  obtain rfl : exponent ++ ((suffix ++ left) ++ tail) = afterDecimals := by
    simpa [letter] using splitExponent_append afterDecimals
  rw [← List.append_assoc exponent] at point
  obtain rfl : decimals ++ ((exponent ++ (suffix ++ left)) ++ tail) = afterInteger := by
    simpa [point] using splitDecimals_append afterInteger
  rw [← List.append_assoc decimals] at digits
  obtain rfl : integer ++ ((decimals ++ (exponent ++ (suffix ++ left))) ++ tail) = text := by
    simpa [digits] using splitDigits_append text
  -- For each part, what it leaves of the text is kept before the new tail.
  have newDigits := splitDigits_replace digits breaks
  have newPoint := splitDecimals_replace point breaks
  have newLetter := splitExponent_replace letter breaks
  have newType := splitSuffix_replace type whole breaks
  simp only [List.append_assoc] at newDigits newPoint newLetter ⊢
  simp only [split, newDigits, newPoint, newLetter, newType, List.append_assoc]

end Numeral

/-- The closing quote of quoted text is not followed by another quote. -/
theorem head?_of_closeQuote? {written content after : List Char}
    (closed : closeQuote? written = some (content, after)) : after.head? ≠ some quoteMark := by
  -- A quote is passed over with the one behind it, so the last one has none behind it.
  fun_induction closeQuote? written generalizing content with
  | case1 => cases closed
  | case2 =>
    cases closed
    simp
  | case3 => cases closed
  | case4 rest ih =>
    obtain ⟨⟨text, later⟩, inner, same⟩ := Option.map_eq_some_iff.1 closed
    cases same
    exact ih inner
  | case5 d rest other =>
    cases closed
    simpa using other
  | case6 c d rest other ih =>
    obtain ⟨⟨text, later⟩, inner, same⟩ := Option.map_eq_some_iff.1 closed
    cases same
    exact ih inner

/-- The longest mark is scanned, so that what follows it makes no longer one. -/
theorem Mark.endsBefore_of_scan? {text after : List Char} {sign : Mark}
    (found : Mark.scan? text = some (sign, after)) :
    (Token.mark sign).endsBefore after = true := by
  -- Only `<` and `>` are the beginnings of longer marks, which are tried before them.
  unfold Mark.scan? at found
  split at found <;> cases found <;> try rfl
  · cases after with
    | nil => rfl
    | cons c rest => simp_all [Token.endsBefore]
  · cases after with
    | nil => rfl
    | cons c rest => simp_all [Token.endsBefore]

namespace Token

/-- Every token ends where a character follows that goes on with none. -/
theorem endsBefore_of_breaksOff {after : List Char} (breaks : breaksOff after = true)
    (token : Token) : token.endsBefore after = true := by
  cases after with
  | nil =>
    -- At the end of the text nothing can be a part of the token.
    cases token with
    | mark sign => cases sign <;> rfl
    | _ => rfl
  | cons c rest =>
    -- Whatever could go on with one of the kinds of tokens is among the characters left out.
    have boundary : isBoundary c = true := breaks
    simp only [isBoundary, Bool.not_eq_true', Bool.or_eq_false_iff, List.contains_eq_mem,
      decide_eq_false_iff_not, List.mem_cons, List.not_mem_nil, or_false, not_or] at boundary
    obtain ⟨noPart, noPoint, noQuote, noEqual, noGreater, -⟩ := boundary
    cases token with
    | mark sign => cases sign <;> simp [endsBefore, noEqual, noGreater]
    | _ => simp [endsBefore, Numeral.endsBefore, noPart, noPoint, noQuote]

/-- A token ends in the same place when the text some way behind it is replaced. -/
theorem endsBefore_replace {token : Token} (ends : token.endsBefore (left ++ tail) = true)
    (breaks : breaksOff other = true) : token.endsBefore (left ++ other) = true := by
  cases left with
  | nil => exact endsBefore_of_breaksOff breaks token
  | cons c rest =>
    -- No more than the next character is looked at.
    cases token with
    | mark sign => cases sign <;> exact ends
    | _ => exact ends

/-- What is read is a number, or a token that is read up to where no more of it could follow. -/
theorem number_or_endsBefore_of_scan {c : Char} {rest : List Char} {scanned : Scanned}
    (read : Token.scan c rest = .ok scanned) :
    (c ≠ quoteMark ∧ Numeral.starts (c :: rest) = true ∧
        scanned.token = .number (String.ofList scanned.spelling) ∧
        Numeral.split (c :: rest) = (scanned.spelling, scanned.after)) ∨
      scanned.token.endsBefore scanned.after = true := by
  unfold Token.scan at read
  split at read
  -- A string ends with a quote that no other one follows.
  · split at read
    · rename_i closed
      cases read
      right
      simpa [endsBefore] using head?_of_closeQuote? closed
    · cases read
  · split at read
    -- Numbers are left to the caller, since where they end depends on more than one character.
    · rename_i noQuote number
      rw [← Except.ok.inj read]
      exact .inl ⟨noQuote, number, rfl, rfl⟩
    · split at read
      · rw [← Except.ok.inj read]
        right
        -- A word takes every part of a word there is.
        rw [endsBefore_ofWord, head?_any_dropWhile, Bool.not_false]
      · split at read
        · rename_i found
          cases read
          exact .inr (Mark.endsBefore_of_scan? found)
        · cases read

/-- A token is read the same when the text some way behind it is replaced, unless that makes the
suffix of a number of the beginning of a word. -/
theorem scan_replace {c : Char} {rest spelling : List Char} {token : Token}
    (read : Token.scan c rest = .ok ⟨token, spelling, left ++ tail⟩)
    (whole : Numeral.splitsNoWord left tail) (breaks : breaksOff other = true) :
    ∃ more, spelling ++ (left ++ other) = c :: more ∧
      Token.scan c more = .ok ⟨token, spelling, left ++ other⟩ := by
  have text : spelling ++ (left ++ tail) = c :: rest := spelling_append_after read
  obtain ⟨more, rfl⟩ : ∃ more, spelling = c :: more := by
    cases spelling with
    | nil => exact absurd rfl (spelling_ne_nil read)
    | cons first more => exact ⟨more, by rw [(List.cons.inj text).1]⟩
  refine ⟨more ++ (left ++ other), rfl, ?_⟩
  rcases number_or_endsBefore_of_scan read with ⟨noQuote, number, same, cut⟩ | ends
  · -- The number still starts there, and it is split off as before.
    rw [← text] at number cut
    obtain ⟨numeral, written⟩ := Numeral.exists_text_eq_split number
    rw [cut] at written
    have starts := numeral.starts_text_append (left ++ other)
    have again := Numeral.split_replace cut whole breaks
    rw [written, List.cons_append] at starts
    rw [List.cons_append] at again
    simp only at same
    rw [Token.scan, if_neg noQuote, if_pos starts, again, same]
  · -- Any other token ends where it did, and then it is read from its spelling.
    obtain ⟨first, after, same, -, again⟩ :=
      scan_of_spells (spells_of_scan read) (endsBefore_replace ends breaks)
    obtain ⟨rfl, rfl⟩ := List.cons.inj same
    exact again

end Token

end MessageSelector
