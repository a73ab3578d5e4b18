import MessageSelector.Proofs.Text.Case
import MessageSelector.Proofs.Token.Boundary

/-! Texts laid out as tokens: how each is written, the blanks between them, and their places. -/

namespace MessageSelector

/-- The characters are a way to write the token. -/
inductive Token.WrittenAs : Token → List Char → Prop where
  | identifier {name : String} (word : IsWord name)
    (free : ∀ keyword : Keyword, upperCase name ≠ keyword.text) :
    WrittenAs (.identifier name) name.toList
  | number (numeral : Numeral) : WrittenAs (.number (String.ofList numeral.text)) numeral.text
  | string (content : String) : WrittenAs (.string content) (quoted content).toList
  -- The letters of a keyword may be of either case, each for itself.
  | keyword {word : Keyword} {letters : List Char}
    (same : upperCase (String.ofList letters) = word.text) : WrittenAs (.keyword word) letters
  | mark (sign : Mark) : WrittenAs (.mark sign) sign.text.toList

/-- A letter from A to Z begins words in either case. -/
theorem isWordStart_of_toUpper {c : Char} (low : 0x41 ≤ c.toUpper.toNat)
    (high : c.toUpper.toNat ≤ 0x5A) : isWordStart c = true := by
  have letter : 0x41 ≤ c.toNat ∧ c.toNat ≤ 0x5A ∨ 0x61 ≤ c.toNat ∧ c.toNat ≤ 0x7A := by
    rw [toNat_toUpper] at low high
    by_cases lower : 0x61 ≤ c.toNat ∧ c.toNat ≤ 0x7A
    · exact .inr lower
    · -- Whatever is not from a to z stays as it is.
      rw [if_neg lower] at low high
      exact .inl ⟨low, high⟩
  -- The two cases are the first two ranges of the letters.
  have first : alphabeticRanges =
      (0x41, 0x5A) :: (0x61, 0x7A) :: alphabeticRanges.tail.tail := rfl
  have alphabetic : isAlphabetic c = true := by
    rw [isAlphabetic, CodeRanges.has, first, CodeRanges.contains, CodeRanges.contains]
    simp only [Bool.and_eq_true, Bool.or_eq_true, decide_eq_true_eq]
    omega
  simp [isWordStart, alphabetic]

/-- The letters of a keyword make up a word. -/
theorem Keyword.isWord_of_upperCase {word : Keyword} {name : String}
    (same : upperCase name = word.text) : IsWord name := by
  -- In upper case each of them is a letter from A to Z.
  have capitals : (word.text.toList.all fun c => 0x41 ≤ c.toNat ∧ c.toNat ≤ 0x5A) = true := by
    cases word <;> decide
  have letters : name.toList.map Char.toUpper = word.text.toList := by
    rw [← same, upperCase, String.toList_ofList]
  have each : ∀ c ∈ name.toList, isWordStart c = true := by
    intro c held
    have upper : c.toUpper ∈ word.text.toList := by
      rw [← letters]
      exact List.mem_map_of_mem held
    have capital := of_decide_eq_true (List.all_eq_true.1 capitals c.toUpper upper)
    exact isWordStart_of_toUpper capital.1 capital.2
  cases written : name.toList with
  | nil =>
    -- No keyword is the empty word.
    rw [written] at letters
    cases word <;> cases letters
  | cons c rest =>
    rw [written] at each
    refine ⟨c, rest, written, each c (List.mem_cons_self ..), List.all_eq_true.2 ?_⟩
    intro d held
    exact isWordPart_of_isWordStart (each d (List.mem_cons_of_mem c held))

/-- A word that is no keyword in any case of its letters is an identifier. -/
theorem Token.ofWord_of_ne {name : String}
    (free : ∀ keyword : Keyword, upperCase name ≠ keyword.text) :
    Token.ofWord name = .identifier name := by
  have none : Keyword.ofText? name = none := by
    -- The table is searched for the upper-cased word, which is none of its texts.
    apply List.find?_eq_none.2
    intro keyword _ same
    exact free keyword (beq_iff_eq.1 same).symm
  rw [Token.ofWord, none]

/-- A keyword is read from its letters in any case. -/
theorem Token.ofWord_of_upperCase {name : String} {word : Keyword}
    (same : upperCase name = word.text) : Token.ofWord name = .keyword word := by
  have found : Keyword.ofText? name = some word := by
    -- Every keyword is found under its own text.
    rw [Keyword.ofText?, same]
    cases word <;> rfl
  rw [Token.ofWord, found]

/-- The ways to write a token are those to spell it. -/
theorem Token.writtenAs_iff_spells {token : Token} {spelling : List Char} :
    token.WrittenAs spelling ↔ Spells token spelling := by
  constructor
  · intro written
    -- Identifiers and keywords are words, told apart by the table of keywords.
    cases written with
    | identifier word free =>
      have spells := word.spells
      rwa [Token.ofWord_of_ne free] at spells
    | number numeral => exact .number numeral
    | string content =>
      have spells := Spells.string content.toList
      rwa [String.ofList_toList, ← toList_quoted] at spells
    | keyword same =>
      have spells := (Keyword.isWord_of_upperCase same).spells
      rwa [Token.ofWord_of_upperCase same, String.toList_ofList] at spells
    | mark sign => exact .mark sign
  · intro spells
    cases spells with
    | @word c rest start parts =>
      unfold Token.ofWord
      -- A word is a keyword or an identifier, depending on whether the table has it.
      cases found : Keyword.ofText? (String.ofList (c :: rest)) with
      | some word =>
        have same := List.find?_some found
        exact .keyword (beq_iff_eq.1 same).symm
      | none =>
        have free : ∀ keyword : Keyword, upperCase (String.ofList (c :: rest)) ≠ keyword.text := by
          intro keyword same
          have refused := List.find?_eq_none.1 found keyword (by cases keyword <;> decide)
          exact refused (beq_iff_eq.2 same.symm)
        have word : IsWord (String.ofList (c :: rest)) :=
          ⟨c, rest, String.toList_ofList, start, parts⟩
        have written := WrittenAs.identifier word free
        rwa [String.toList_ofList] at written
    | number numeral => exact .number numeral
    | string content =>
      have written := WrittenAs.string (String.ofList content)
      rwa [toList_quoted, String.toList_ofList] at written
    | mark sign => exact .mark sign

/-- A token of a text: how it is written there, and the blanks before it. -/
structure Span where
  -- The two proofs make a span a token that is written correctly behind blanks.
  blanks : List Char
  token : Token
  spelling : List Char
  blank : blanks.all isBlank = true
  written : token.WrittenAs spelling

namespace Span

/-- The characters that the span takes up. -/
def text (span : Span) : List Char :=
  span.blanks ++ span.spelling

/-- The characters that spans take up one after another. -/
def textOf (spans : List Span) : List Char :=
  spans.flatMap text

/-- The tokens of spans that follow each other from an offset on, each at the place where its
spelling starts. -/
def placed : Nat → List Span → List Lexeme
  -- The offset is that of the spelling, so the blanks are counted before it.
  | _, [] => []
  | offset, span :: more =>
    let start := offset + span.blanks.length
    ⟨span.token, start⟩ :: placed (start + span.spelling.length) more

/-- No span takes up no characters. -/
@[simp] theorem textOf_nil : textOf [] = [] :=
  rfl

/-- The first span comes before the others. -/
@[simp] theorem textOf_cons (span : Span) (more : List Span) :
    textOf (span :: more) = span.blanks ++ (span.spelling ++ textOf more) := by
  -- A span is its blanks and then its spelling.
  simp [textOf, text]

/-- Behind a span the later ones are placed at the end of its spelling. -/
theorem add_length_textOf (offset : Nat) (span : Span) (more : List Span) :
    offset + span.blanks.length + span.spelling.length + (textOf more).length =
      offset + (textOf (span :: more)).length := by
  -- The lengths of the parts add up to that of the whole.
  simp only [textOf_cons, List.length_append]
  omega

/-- There is one token for each span. -/
@[simp] theorem length_placed (offset : Nat) (spans : List Span) :
    (placed offset spans).length = spans.length := by
  -- Placing changes offsets only.
  induction spans generalizing offset with
  | nil => rfl
  | cons span more ih => rw [placed, List.length_cons, List.length_cons, ih]

/-- The tokens of spans do not depend on where they are placed. -/
@[simp] theorem tokensOf_placed (offset : Nat) (spans : List Span) :
    tokensOf (placed offset spans) = spans.map Span.token := by
  -- Placing changes offsets only.
  induction spans generalizing offset with
  | nil => rfl
  | cons span more ih => rw [placed, tokensOf_cons, List.map_cons, ih]

/-- A token is spelled by the characters of its span. -/
theorem spells (span : Span) : Spells span.token span.spelling :=
  Token.writtenAs_iff_spells.1 span.written

/-- A token is written with at least one character, and the first of them is no blank. -/
theorem spelling_eq_cons (span : Span) :
    ∃ c rest, span.spelling = c :: rest ∧ isBlank c = false := by
  -- The spelling is read as the token when it stands alone.
  obtain ⟨c, rest, same, visible, -⟩ :=
    scan_of_spells span.spells (span.token.endsBefore_of_breaksOff (show breaksOff [] from rfl))
  exact ⟨c, rest, by rwa [List.append_nil] at same, visible⟩

end Span

/-- A whole text laid out as spans, with blanks behind the last of them. -/
structure Layout where
  -- The blanks behind the last token belong to no span.
  spans : List Span
  ending : List Char
  blank : ending.all isBlank = true

namespace Layout

/-- The text that is laid out. -/
def text (layout : Layout) : List Char :=
  Span.textOf layout.spans ++ layout.ending

/-- The tokens of the spans, and the end of the input at the end of the text. -/
def lexemes (layout : Layout) : List Lexeme :=
  Span.placed 0 layout.spans ++ [⟨.endOfInput, layout.text.length⟩]

/-- Every two tokens have blanks between them. -/
def Apart (layout : Layout) : Prop :=
  ∀ span ∈ layout.spans.tail, span.blanks ≠ []

end Layout

end MessageSelector
