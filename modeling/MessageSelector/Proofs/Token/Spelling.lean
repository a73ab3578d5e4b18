import MessageSelector.Identifier
import MessageSelector.Proofs.Token.Lexed
import MessageSelector.Proofs.Text.Case
import MessageSelector.Proofs.Token.Numeral

/-! How tokens are spelled: a spelling is read as its token when no more of it could follow. -/

namespace MessageSelector

/-- The characters with the property White_Space. -/
def blankCodes : List Nat :=
  -- The ranges are written out, so that a single code can be compared with them.
  [0x9, 0xA, 0xB, 0xC, 0xD, 0x20, 0x85, 0xA0, 0x1680, 0x2000, 0x2001, 0x2002, 0x2003, 0x2004,
   0x2005, 0x2006, 0x2007, 0x2008, 0x2009, 0x200A, 0x2028, 0x2029, 0x202F, 0x205F, 0x3000]

/-- The ranges of blanks hold no other character. -/
theorem mem_blankCodes {c : Char} (blank : isBlank c = true) : c.toNat ∈ blankCodes := by
  -- Both sides are inequalities on the code of the character.
  simp only [isBlank, CodeRanges.has, blankRanges, CodeRanges.contains, Bool.and_eq_true,
    Bool.or_eq_true, decide_eq_true_eq, Bool.false_eq_true, or_false] at blank
  simp only [blankCodes, List.mem_cons, List.not_mem_nil, or_false]
  omega

/-- A digit is no blank. -/
theorem isBlank_of_isDigit {c : Char} (digit : c.isDigit = true) : isBlank c = false := by
  have bounds := Numeral.toNat_of_isDigit digit
  cases blank : isBlank c with
  | false => rfl
  | true =>
    -- The codes of the blanks lie below and above those of the digits.
    have held := mem_blankCodes blank
    simp only [blankCodes, List.mem_cons, List.not_mem_nil, or_false] at held
    omega

/-- No blank begins a word. -/
theorem isBlank_of_isWordStart {c : Char} (starts : isWordStart c = true) : isBlank c = false := by
  -- None of the twenty-five codes is in a range of letters.
  have letters : ∀ code ∈ blankCodes, CodeRanges.contains code alphabeticRanges = false := by
    decide +kernel
  cases blank : isBlank c with
  | false => rfl
  | true =>
    have held := mem_blankCodes blank
    have noLetter : isAlphabetic c = false := letters c.toNat held
    -- The two signs that begin words are no blanks either.
    simp only [isWordStart, noLetter, Bool.false_or, Bool.or_eq_true, beq_iff_eq] at starts
    rcases starts with rfl | rfl
    · exact absurd held (by decide)
    · exact absurd held (by decide)

/-- A word begins with the dollar sign or beyond the digits and the signs of operators. -/
theorem eq_or_le_of_isWordStart {c : Char} (starts : isWordStart c = true) :
    c = '$' ∨ 0x41 ≤ c.toNat := by
  simp only [isWordStart, Bool.or_eq_true, beq_iff_eq] at starts
  rcases starts with (letter | rfl) | dollar
  · -- The letters A to Z are the first of the ranges.
    have first : alphabeticRanges = (0x41, 0x5A) :: alphabeticRanges.tail := rfl
    rw [isAlphabetic, CodeRanges.has, first, CodeRanges.contains] at letter
    simp only [Bool.and_eq_true, decide_eq_true_eq] at letter
    exact .inr letter.1
  · exact .inr (by decide)
  · exact .inl dollar

/-- A character below the letters, other than the dollar sign, begins no word. -/
theorem isWordStart_of_lt {c : Char} (below : c.toNat < 0x41) (sign : c ≠ '$') :
    isWordStart c = false := by
  -- Everything that begins words lies at the letters or beyond, but for the dollar sign.
  cases starts : isWordStart c with
  | false => rfl
  | true =>
    rcases eq_or_le_of_isWordStart starts with dollar | beyond
    · exact absurd dollar sign
    · omega

/-- A character that begins a word begins no number. -/
theorem starts_of_isWordStart {c : Char} (starts : isWordStart c = true) (rest : List Char) :
    Numeral.starts (c :: rest) = false := by
  -- A number begins with a point or a digit, and a word with neither.
  unfold Numeral.starts
  split
  · rename_i same
    cases same
    exact absurd starts (by decide)
  · cases digit : c.isDigit with
    | false => simpa [Numeral.startsWithDigit] using digit
    | true =>
      have bounds := Numeral.toNat_of_isDigit digit
      -- The digits come before the letters, and the dollar sign is none of them.
      rcases eq_or_le_of_isWordStart starts with rfl | beyond
      · cases digit
      · omega

/-- Text between quotes is read up to the quote that no other one follows. -/
theorem closeQuote?_append {after : List Char} (content : List Char)
    (ends : after.head? ≠ some quoteMark) :
    closeQuote? (doubleQuotes content ++ quoteMark :: after) = some (content, after) := by
  -- Two quotes in a row are one quote of the content, so the reading goes on behind them.
  induction content with
  | nil =>
    cases after with
    | nil => rfl
    | cons d rest =>
      -- A single quote ends the text, since no second one follows it.
      have other : d ≠ quoteMark := fun same => ends (congrArg some same)
      simp [doubleQuotes, closeQuote?, other]
  | cons c content ih =>
    by_cases quote : c = quoteMark
    · simp [doubleQuotes, quote, closeQuote?, ih]
    · -- Any other character stands for itself; at least the closing quote is left behind it.
      cases left : doubleQuotes content ++ quoteMark :: after with
      | nil => simp at left
      | cons d rest =>
        rw [left] at ih
        simp [doubleQuotes, quote, left, closeQuote?, ih]

/-- The characters are a way to spell the token. -/
inductive Spells : Token → List Char → Prop where
  -- Words are sorted into keywords and identifiers after they have been read.
  | word {c : Char} {rest : List Char} (start : isWordStart c = true)
    (parts : rest.all isWordPart = true) :
    Spells (.ofWord (String.ofList (c :: rest))) (c :: rest)
  | number (numeral : Numeral) : Spells (.number (String.ofList numeral.text)) numeral.text
  | string (content : List Char) :
    Spells (.string (String.ofList content)) (quoteMark :: (doubleQuotes content ++ [quoteMark]))
  | mark (sign : Mark) : Spells (.mark sign) sign.text.toList

/-- What comes next could not be a part of the token before it. -/
def Token.endsBefore : Token → List Char → Bool
  -- Only tokens that the next character could prolong ask for something.
  | identifier _, after | keyword _, after => !after.head?.any isWordPart
  | number _, after => Numeral.endsBefore after
  | string _, after => after.head? != some quoteMark
  | mark .less, after => !after.head?.any ['=', '>'].contains
  | mark .greater, after => !after.head?.any ['='].contains
  | mark _, _ => true
  | endOfInput, _ => true

/-- Words end where no part of a word follows. -/
theorem Token.endsBefore_ofWord (word : String) (after : List Char) :
    (Token.ofWord word).endsBefore after = !after.head?.any isWordPart := by
  -- Keywords and identifiers end alike.
  unfold Token.ofWord
  split <;> rfl

/-- A mark is scanned from its signs, when the next one makes no longer mark of them. -/
theorem Mark.scan?_text {sign : Mark} {after : List Char}
    (ends : (Token.mark sign).endsBefore after = true) :
    Mark.scan? (sign.text.toList ++ after) = some (sign, after) := by
  -- Only `<` and `>` are the beginnings of longer marks.
  cases sign with
  | less =>
    cases after with
    | nil => rfl
    | cons c rest =>
      have out : c ≠ '=' ∧ c ≠ '>' := by simpa [Token.endsBefore] using ends
      simp [Mark.text, Mark.scan?, out]
  | greater =>
    cases after with
    | nil => rfl
    | cons c rest =>
      have out : c ≠ '=' := by simpa [Token.endsBefore] using ends
      simp [Mark.text, Mark.scan?, out]
  | _ => rfl

/-- A character that begins no other kind of token, and so begins a mark if it begins any token. -/
def beginsMark (c : Char) : Prop :=
  -- No other token can begin with such a character.
  isBlank c = false ∧ c ≠ quoteMark ∧ (∀ rest, Numeral.starts (c :: rest) = false) ∧
    isWordStart c = false

/-- The first sign of a mark begins no other kind of token. -/
theorem Mark.text_eq_cons (sign : Mark) :
    ∃ c rest, sign.text.toList = c :: rest ∧ beginsMark c := by
  -- The marks are gone through, and the character of each is looked up in the other kinds.
  cases sign <;>
    exact ⟨_, _, rfl, by decide, by decide, fun rest => rfl,
      isWordStart_of_lt (by decide) (by decide)⟩

/-- A number begins with a digit or a point, which begins no other kind of token. -/
theorem Numeral.text_eq_cons (numeral : Numeral) :
    ∃ c rest, numeral.text = c :: rest ∧ isBlank c = false ∧ c ≠ quoteMark := by
  have number := numeral.starts_text_append []
  rw [List.append_nil] at number
  -- A text that a number starts is not empty.
  cases written : numeral.text with
  | nil =>
    rw [written] at number
    cases number
  | cons c rest =>
    rw [written] at number
    refine ⟨c, rest, rfl, ?_⟩
    unfold Numeral.starts at number
    split at number
    · rename_i same
      cases same
      exact ⟨by decide, by decide⟩
    · have digit : c.isDigit = true := number
      have noQuote : c ≠ quoteMark := by
        intro same
        subst same
        cases digit
      exact ⟨isBlank_of_isDigit digit, noQuote⟩

/-- A character that begins words is read together with all the parts of words after it. -/
theorem scan_of_isWordStart {c : Char} (start : isWordStart c = true) (rest : List Char) :
    Token.scan c rest = .ok
      { token := .ofWord (String.ofList ((c :: rest).takeWhile isWordPart))
        spelling := (c :: rest).takeWhile isWordPart
        after := (c :: rest).dropWhile isWordPart } := by
  -- Such a character is no quote and begins no number.
  have noQuote : c ≠ quoteMark := by
    rintro rfl
    exact absurd start (by decide)
  rw [Token.scan, if_neg noQuote, if_neg (by simp [starts_of_isWordStart start]), if_pos start]

/-- A spelling is read as the token that it spells, when no more of the token could follow. -/
theorem scan_of_spells {token : Token} {spelling after : List Char} (spells : Spells token spelling)
    (ends : token.endsBefore after = true) :
    ∃ c rest, spelling ++ after = c :: rest ∧ isBlank c = false ∧
      Token.scan c rest = .ok ⟨token, spelling, after⟩ := by
  -- The first character decides what is read, and the stop after the spelling how far.
  cases spells with
  | @word c rest start parts =>
    refine ⟨c, rest ++ after, rfl, isBlank_of_isWordStart start, ?_⟩
    have whole : (c :: rest).all isWordPart = true := by
      simp [isWordPart_of_isWordStart start, parts]
    rw [Token.endsBefore_ofWord] at ends
    have stop : after.head?.any isWordPart = false := by simpa using ends
    rw [scan_of_isWordStart start, ← List.cons_append, takeWhile_append_of_stop whole stop,
      dropWhile_append_of_stop whole stop]
  | number numeral =>
    obtain ⟨c, rest, written, noBlank, noQuote⟩ := numeral.text_eq_cons
    have begins := numeral.starts_text_append after
    have cut := numeral.split_text_append ends
    rw [written, List.cons_append] at begins cut
    refine ⟨c, rest ++ after, by rw [written]; rfl, noBlank, ?_⟩
    rw [Token.scan, if_neg noQuote, if_pos begins, cut, written]
  | string content =>
    refine ⟨quoteMark, doubleQuotes content ++ quoteMark :: after, by simp, by decide, ?_⟩
    have other : after.head? ≠ some quoteMark := by simpa [Token.endsBefore] using ends
    rw [Token.scan, if_pos rfl, closeQuote?_append content other]
  | mark sign =>
    obtain ⟨c, rest, written, noBlank, noQuote, noNumber, noWord⟩ := sign.text_eq_cons
    have found := Mark.scan?_text ends
    rw [written, List.cons_append] at found
    refine ⟨c, rest ++ after, by rw [written]; rfl, noBlank, ?_⟩
    rw [Token.scan, if_neg noQuote, if_neg (by simp [noNumber]), if_neg (by simp [noWord]), found]

/-- Each token that is read has a spelling. -/
theorem spells_of_scan {c : Char} {rest : List Char} {scanned : Scanned}
    (read : Token.scan c rest = .ok scanned) : Spells scanned.token scanned.spelling := by
  -- What is cut off the text has the shape that the kind of token asks for.
  unfold Token.scan at read
  split at read
  · split at read <;> cases read
    exact .string _
  · split at read
    · rename_i number
      obtain ⟨numeral, written⟩ := Numeral.exists_text_eq_split number
      have spells := Spells.number numeral
      rw [written] at spells
      rw [← Except.ok.inj read]
      exact spells
    · split at read
      · rename_i start
        have first : isWordPart c = true := isWordPart_of_isWordStart start
        rw [← Except.ok.inj read]
        simp only [List.takeWhile_cons, first, if_true]
        exact .word start List.all_takeWhile
      · split at read <;> cases read
        exact .mark _

/-- A name that words are spelled with: a character that begins words, and parts of words. -/
def IsWord (name : String) : Prop :=
  ∃ c rest, name.toList = c :: rest ∧ isWordStart c = true ∧ rest.all isWordPart = true

/-- Only a word is the name of an identifier in a text. -/
theorem Spells.isWord {name : String} {spelling : List Char}
    (spells : Spells (.identifier name) spelling) : IsWord name := by
  -- The spelling of an identifier can only be that of a word which is no keyword.
  generalize same : Token.identifier name = token at spells
  cases spells with
  | @word c rest start parts =>
    unfold Token.ofWord at same
    split at same
    · cases same
    · cases same
      exact ⟨c, rest, String.toList_ofList, start, parts⟩
  | _ => cases same

/-- Only a number is the text of a number in a text. -/
theorem Spells.exists_numeral {text : String} {spelling : List Char}
    (spells : Spells (.number text) spelling) :
    ∃ numeral : Numeral, text = String.ofList numeral.text := by
  -- Of the four spellings, only that of numbers makes a number.
  generalize same : Token.number text = token at spells
  cases spells with
  | word =>
    unfold Token.ofWord at same
    split at same <;> cases same
  | number numeral =>
    cases same
    exact ⟨numeral, rfl⟩
  | _ => cases same

/-- A word is spelled as it is. -/
theorem IsWord.spells {name : String} (word : IsWord name) :
    Spells (.ofWord name) name.toList := by
  -- A word is a start and further parts.
  obtain ⟨c, rest, written, start, parts⟩ := word
  have spells := Spells.word start parts
  rwa [← written, String.ofList_toList] at spells

/-- Each keyword is a word that is read as the keyword. -/
theorem Keyword.spells (word : Keyword) : Spells (.keyword word) word.text.toList := by
  have read : Token.ofWord word.text = .keyword word := by cases word <;> decide
  -- Letters begin words, and all that keywords are made of is letters.
  have letters : IsWord word.text := by
    cases word <;> exact ⟨_, _, rfl, by decide, by decide⟩
  have spells := letters.spells
  rwa [read] at spells

/-- The words that are read as keywords are the reserved ones. -/
theorem Keyword.isSome_ofText? (word : String) : (ofText? word).isSome = isReserved word := by
  -- Both lists hold the same words, all of them in capitals.
  have listed : ∀ keyword ∈ all,
      keyword.text ∈ reservedWords ∧ upperCase keyword.text = keyword.text := by
    decide
  have known : ∀ reserved ∈ reservedWords, ∃ keyword ∈ all, keyword.text = upperCase reserved := by
    decide
  rw [Bool.eq_iff_iff, ofText?, List.find?_isSome, isReserved, List.any_eq_true]
  simp only [agreeIgnoringCase_iff, beq_iff_eq]
  constructor
  · rintro ⟨keyword, held, same⟩
    obtain ⟨reserved, upper⟩ := listed keyword held
    exact ⟨keyword.text, reserved, by rw [upper, same]⟩
  · rintro ⟨reserved, held, same⟩
    obtain ⟨keyword, member, text⟩ := known reserved held
    exact ⟨keyword, member, by rw [text, same]⟩

/-- No identifier is named by a keyword. -/
theorem Identifier.ofWord_name (identifier : Identifier) :
    Token.ofWord identifier.name = .identifier identifier.name := by
  -- The name is not reserved, and so it is no keyword either.
  have unread : Keyword.ofText? identifier.name = none := by
    rw [← Option.not_isSome_iff_eq_none, Keyword.isSome_ofText?, identifier.unreserved]
    decide
  rw [Token.ofWord, unread]

/-- A name in a text is that of an identifier. -/
theorem Spells.exists_identifier {name : String} {spelling : List Char}
    (spells : Spells (.identifier name) spelling) :
    ∃ identifier : Identifier, identifier.name = name := by
  generalize same : Token.identifier name = token at spells
  cases spells with
  | @word c rest start parts =>
    unfold Token.ofWord at same
    split at same
    · cases same
    · -- A word that is no keyword is not reserved, and it has a first letter.
      rename_i unread
      cases same
      have unreserved : isReserved (String.ofList (c :: rest)) = false := by
        rw [← Keyword.isSome_ofText?, unread]
        rfl
      have nonempty : String.ofList (c :: rest) ≠ "" := by
        intro empty
        simpa using congrArg String.toList empty
      exact ⟨⟨_, nonempty, unreserved⟩, rfl⟩
  | _ => cases same

/-- An identifier whose name is a word is spelled with its name. -/
theorem Identifier.spells {identifier : Identifier} (word : IsWord identifier.name) :
    Spells (.identifier identifier.name) identifier.name.toList := by
  -- The word is read as the identifier, because the name is free.
  have spells := word.spells
  rwa [identifier.ofWord_name] at spells

/-- The text is read as these tokens, from any place on. -/
def Lexes (text : List Char) (tokens : List Token) : Prop :=
  ∀ offset, ∃ lexemes, Lexed ⟨text, offset⟩ lexemes ∧ tokensOf lexemes = tokens ++ [.endOfInput]

namespace Lexes

variable {text after spelling : List Char} {tokens : List Token}

/-- In the empty text there are no tokens. -/
theorem nil : Lexes [] [] :=
  fun offset => ⟨[⟨.endOfInput, offset⟩], .done rfl, rfl⟩

/-- A blank before a text changes none of its tokens. -/
theorem blank {c : Char} (blank : isBlank c = true) (lexes : Lexes text tokens) :
    Lexes (c :: text) tokens := by
  intro offset
  obtain ⟨lexemes, lexed, same⟩ := lexes (offset + 1)
  refine ⟨lexemes, ?_, same⟩
  -- Passing over the blank leads to the same place as starting behind it.
  have skipped : (Cursor.mk (c :: text) offset).skipBlanks =
      (Cursor.mk text (offset + 1)).skipBlanks := by
    simp [Cursor.skipBlanks, Cursor.advance, blank]
    omega
  cases lexed with
  | done visible => exact .done (skipped.trans visible)
  | token visible read later => exact .token (skipped.trans visible) read later

/-- A spelling before a text is a token before those of the text. -/
theorem append {token : Token} (spells : Spells token spelling)
    (ends : token.endsBefore after = true) (lexes : Lexes after tokens) :
    Lexes (spelling ++ after) (token :: tokens) := by
  intro offset
  obtain ⟨c, rest, written, noBlank, read⟩ := scan_of_spells spells ends
  obtain ⟨lexemes, lexed, same⟩ := lexes (offset + spelling.length)
  -- The spelling begins with no blank, so the token stands at the very beginning.
  have visible : (Cursor.mk (spelling ++ after) offset).skipBlanks = ⟨c :: rest, offset⟩ := by
    simp [Cursor.skipBlanks, Cursor.advance, written, noBlank]
  exact ⟨⟨token, offset⟩ :: lexemes, .token visible read lexed, by simp [same]⟩

end Lexes

/-- Each token of a text has a spelling, except for the end of the text. -/
theorem Lexed.exists_spells {cursor : Cursor} {lexemes : List Lexeme}
    (lexed : Lexed cursor lexemes) :
    ∀ token ∈ tokensOf lexemes, token = .endOfInput ∨ ∃ spelling, Spells token spelling := by
  -- Every token but the last was scanned from a character of the text.
  induction lexed with
  | done blank => simp
  | token visible read later ih =>
    intro token held
    rcases List.mem_cons.1 held with rfl | held
    · exact .inr ⟨_, spells_of_scan read⟩
    · exact ih token held

/-- An identifier among the tokens of a text has the name of an identifier. -/
theorem Lexed.exists_identifier {cursor : Cursor} {lexemes : List Lexeme}
    (lexed : Lexed cursor lexemes) {name : String} (held : .identifier name ∈ tokensOf lexemes) :
    ∃ identifier : Identifier, identifier.name = name := by
  -- An identifier is not the end of the input, so it was spelled somewhere in the text.
  rcases lexed.exists_spells _ held with last | ⟨spelling, spells⟩
  · cases last
  · exact spells.exists_identifier

/-- A token that is not the end of the text has a spelling. -/
theorem Cursor.exists_spells_of_next {cursor : Cursor} {lexeme : Lexeme}
    (read : cursor.next.1 = .ok lexeme) (inside : lexeme.token ≠ .endOfInput) :
    ∃ spelling, Spells lexeme.token spelling := by
  -- Behind the blanks there is the end of the text, a fault, or the token that is scanned.
  unfold next at read
  cases left : cursor.skipBlanks.rest with
  | nil =>
    simp only [left] at read
    cases read
    exact absurd rfl inside
  | cons c rest =>
    simp only [left] at read
    cases found : Token.scan c rest with
    | error fault => cases fault <;> simp [found] at read
    | ok scanned =>
      simp only [found] at read
      cases read
      exact ⟨_, spells_of_scan found⟩

end MessageSelector
