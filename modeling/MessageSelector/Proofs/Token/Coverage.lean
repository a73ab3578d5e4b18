import MessageSelector.Proofs.Token.Steps

/-! Tokenizing loses nothing of a text, and gives back the tokens that a text is written from. -/

namespace MessageSelector

/-- Behind an opening quote no quote closes the text, since a second one follows each that could. -/
def NeverCloses (rest : List Char) : Prop :=
  -- Every quote mark that could end the string is doubled.
  ∀ content after, rest = doubleQuotes content ++ quoteMark :: after →
    after.head? = some quoteMark

/-- The text does not begin with the spelling of any token. -/
def BeginsNoToken (text : List Char) : Prop :=
  ∀ token spelling after, text = spelling ++ after → ¬Token.WrittenAs token spelling

/-- A string that is read to the end of the text without a closing quote is never closed. -/
theorem neverCloses_of_closeQuote? {rest : List Char} (opened : closeQuote? rest = none) :
    NeverCloses rest := by
  intro content after same
  -- If a lone quote mark ended the content, the scanner would have found it.
  by_cases ends : after.head? = some quoteMark
  · exact ends
  · rw [same, closeQuote?_append content ends] at opened
    cases opened

/-- Where the signs of a mark come next, some mark is scanned. -/
theorem Mark.scan?_ne_none (sign : Mark) (after : List Char) :
    Mark.scan? (sign.text.toList ++ after) ≠ none := by
  intro nothing
  cases ends : (Token.mark sign).endsBefore after with
  | true =>
    rw [Mark.scan?_text ends] at nothing
    cases nothing
  | false =>
    -- Where a sign follows that makes a longer mark, that mark is scanned.
    cases sign with
    | less =>
      cases after with
      | nil => cases ends
      | cons c rest =>
        have longer : c = '=' ∨ c = '>' :=
          Decidable.or_iff_not_imp_left.2 (by simpa [Token.endsBefore] using ends)
        rcases longer with rfl | rfl <;> cases nothing
    | greater =>
      cases after with
      | nil => cases ends
      | cons c rest =>
        obtain rfl : c = '=' := by simpa [Token.endsBefore] using ends
        cases nothing
    | _ => cases ends

/-- A character that is refused by every kind of token begins none. -/
theorem beginsNoToken_of_refused {c : Char} {rest : List Char} (noQuote : c ≠ quoteMark)
    (noNumber : Numeral.starts (c :: rest) = false) (noWord : isWordStart c = false)
    (noMark : Mark.scan? (c :: rest) = none) : BeginsNoToken (c :: rest) := by
  intro token spelling after same written
  -- Each kind of token begins in a way that is refused here.
  cases Token.writtenAs_iff_spells.1 written with
  | word start parts =>
    rw [(List.cons.inj same).1] at noWord
    rw [noWord] at start
    cases start
  | number numeral =>
    rw [same, numeral.starts_text_append] at noNumber
    cases noNumber
  | string content => exact noQuote (List.cons.inj same).1
  | mark sign =>
    rw [same] at noMark
    exact sign.scan?_ne_none after noMark

/-- The tokens of a text are at the places where they are written in it, with nothing but blanks
between them and with the end of the input behind them. Where there is a fault the text before it
has the tokens that are read up to there, and what comes there opens a string that is never closed
or begins no token. -/
theorem tokenize_covers (text : String) :
    match tokenize text with
    | .ok lexemes =>
      ∃ layout : Layout, text.toList = layout.text ∧ lexemes = layout.lexemes ∧
        lexemes.Pairwise (·.offset < ·.offset) ∧ Ended lexemes ∧
        ∀ span ∈ layout.spans, span.spelling ≠ []
    | .error error =>
      ∃ (layout : Layout) (c : Char) (rest : List Char),
        text.toList = layout.text ++ c :: rest ∧ error.offset = layout.text.length ∧
        tokenize (String.ofList layout.text) = .ok layout.lexemes ∧
        (Cursor.start text).steps (layout.spans.length + 1) =
          (Span.placed 0 layout.spans).map .ok ++ [.error error] ∧
        ((error.fault = .unterminatedString ∧ c = quoteMark ∧ NeverCloses rest) ∨
          (error.fault = .unexpectedCharacter c ∧ c ≠ quoteMark ∧ isBlank c = false ∧
            BeginsNoToken (c :: rest))) := by
  obtain ⟨layout, reaches | ⟨c, rest, fault, stops⟩⟩ := exists_layout text.toList
  · have read : tokenize text = .ok layout.lexemes := Layout.lexemes_of_reaches reaches
    have lexed := Cursor.lexed_of_lexemes read
    rw [read]
    refine ⟨layout, reaches.text_eq, rfl, lexed.ascending, lexed.ended, ?_⟩
    -- Each token has at least the character that it begins with.
    intro span _ empty
    obtain ⟨c, rest, same, -⟩ := span.spelling_eq_cons
    rw [same] at empty
    cases empty
  · have failed : tokenize text = .error ⟨layout.text.length, fault⟩ := stops.lexemes_eq
    rw [failed]
    refine ⟨layout, c, rest, stops.text_eq, rfl, stops.tokenize_text, ?_, ?_⟩
    · -- The tokens of the layout come first, and the fault right behind them.
      obtain ⟨last, settles⟩ := stops.settles
      have steps := settles.steps_eq
      rwa [List.length_append, List.length_map, Span.length_placed] at steps
    · rcases fault_of_scan stops.refused with
        ⟨rfl, rfl, opened⟩ | ⟨rfl, noQuote, noNumber, noWord, noMark⟩
      · exact .inl ⟨rfl, rfl, neverCloses_of_closeQuote? opened⟩
      · have begins := beginsNoToken_of_refused noQuote noNumber noWord noMark
        exact .inr ⟨rfl, noQuote, stops.visible, begins⟩

/-- Spans are read one after another when blanks stand between every two of them. -/
theorem reaches_of_apart {spans : List Span} {ending : List Char}
    (apart : ∀ span ∈ spans.tail, span.blanks ≠ []) (blank : ending.all isBlank = true) :
    Reaches (Span.textOf spans ++ ending) spans ending := by
  induction spans with
  | nil => exact .here ending
  | cons span more ih =>
    have later := ih fun next held => apart next (List.mem_of_mem_tail held)
    -- The token ends before the blanks of the next one, or before those behind the last one.
    have breaks : breaksOff (Span.textOf more ++ ending) = true := by
      cases more with
      | nil => exact breaksOff_of_blank blank
      | cons next others =>
        rw [Span.textOf_cons, List.append_assoc]
        refine breaksOff_append_of_blanks next.blank fun none => ?_
        exact absurd none (apart next (List.mem_cons_self ..))
    obtain ⟨c, rest, same, -, read⟩ :=
      scan_of_spells span.spells (span.token.endsBefore_of_breaksOff breaks)
    rw [Span.textOf_cons, List.append_assoc, List.append_assoc, same]
    exact .token read later

/-- Tokens that are written with blanks between them are read back, each at the place where it is
written. -/
theorem tokenize_of_apart (layout : Layout) (apart : layout.Apart) :
    tokenize (String.ofList layout.text) = .ok layout.lexemes :=
  -- A blank breaks off every token, so the layout is reached span by span.
  Layout.tokenize_of_reaches (reaches_of_apart apart layout.blank)

/-- The sign `<` and the sign `=` are two tokens when a blank stands between them, and the letter
`L` behind a number is a name of its own. -/
theorem tokenize_less_equal :
    let layout : Layout :=
      { spans :=
          [⟨['\t'], .keyword .not, "nOt".toList, rfl, .keyword rfl⟩,
            ⟨[' '], .string "it's", "'it''s'".toList, rfl, .string "it's"⟩,
            ⟨['\u00A0', '\n'], .mark .less, ['<'], rfl, .mark .less⟩,
            ⟨[' '], .mark .equal, ['='], rfl, .mark .equal⟩,
            ⟨[' '], .number "1.5e+3", "1.5e+3".toList, rfl,
              .number ⟨['1'], ['.', '5'], ['e', '+', '3'], [], rfl, .point rfl,
                .letter (.inl rfl) (.inr (.inl rfl)) rfl, .none, .inl (by decide)⟩⟩,
            ⟨[' '], .identifier "L", ['L'], rfl,
              .identifier ⟨'L', [], rfl, by decide, rfl⟩ fun word => by cases word <;> decide⟩]
        ending := [' ']
        blank := rfl }
    layout.Apart ∧
      tokenize "\tnOt 'it''s'\u00A0\n< = 1.5e+3 L " =
        .ok [⟨.keyword .not, 1⟩, ⟨.string "it's", 5⟩, ⟨.mark .less, 14⟩, ⟨.mark .equal, 16⟩,
          ⟨.number "1.5e+3", 18⟩, ⟨.identifier "L", 25⟩, ⟨.endOfInput, 27⟩] := by
  intro layout
  -- Set apart, the two signs are two tokens, and the letter is no suffix of the number.
  have apart : layout.Apart := by simp [Layout.Apart, layout]
  exact ⟨apart, tokenize_of_apart layout apart⟩

end MessageSelector
