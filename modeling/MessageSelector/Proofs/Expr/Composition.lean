import MessageSelector.Proofs.Expr.RoundTrip
import MessageSelector.Proofs.Token.Steps
import MessageSelector.Regex.Plain

/-! Selectors between brackets: what is read of one on its own is an operand of any other. -/

namespace MessageSelector

/-- Blanks before a text change none of its tokens. -/
theorem Lexes.blanks {blanks text : List Char} {tokens : List Token}
    (blank : blanks.all isBlank = true) (lexes : Lexes text tokens) :
    Lexes (blanks ++ text) tokens := by
  induction blanks with
  | nil => exact lexes
  | cons c rest ih =>
    -- Each blank is passed over on its own, so the induction is on the blanks.
    rw [List.all_cons, Bool.and_eq_true] at blank
    exact .blank blank.1 (ih blank.2)

/-- The tokens of the spans that are passed come before those of what is left. -/
theorem Reaches.lexes {text last : List Char} {spans : List Span} {tokens : List Token}
    (reaches : Reaches text spans last) (lexes : Lexes last tokens) :
    Lexes text (spans.map Span.token ++ tokens) := by
  intro offset
  obtain ⟨lexemes, lexed, same⟩ := lexes (offset + (Span.textOf spans).length)
  -- The tokens that are reached come first, and those of the remaining text are placed after them.
  refine ⟨Span.placed offset spans ++ lexemes, Cursor.lexemes_eq_ok_iff.1 ?_, ?_⟩
  · rw [reaches.lexemes_eq, Cursor.lexemes_eq_ok_iff.2 lexed]
    rfl
  · simp [same]

/-- A text with tokens is read up to its end. -/
theorem exists_reaches_of_lexed {text : List Char} {lexemes : List Lexeme}
    (lexed : Lexed ⟨text, 0⟩ lexemes) :
    ∃ layout : Layout, Reaches text layout.spans layout.ending ∧ lexemes = layout.lexemes := by
  have read := Cursor.lexemes_of_lexed lexed
  obtain ⟨layout, reaches | ⟨c, rest, fault, stops⟩⟩ := exists_layout text
  · rw [Layout.lexemes_of_reaches reaches] at read
    exact ⟨layout, reaches, (Except.ok.inj read).symm⟩
  · -- A text with a fault has no tokens.
    rw [stops.lexemes_eq] at read
    cases read

/-- A text that is read to its end when it stands alone is read the same before a blank, a bracket
or a comma. -/
theorem renders_of_lexed {text : List Char} {lexemes : List Lexeme} {body : List Token}
    (lexed : Lexed ⟨text, 0⟩ lexemes) (same : tokensOf lexemes = body ++ [.endOfInput]) :
    Renders text body := by
  obtain ⟨layout, reaches, rfl⟩ := exists_reaches_of_lexed lexed
  obtain rfl : layout.spans.map Span.token = body := by
    simpa [Layout.lexemes] using same
  intro after more ends lexes
  -- Neither the blanks at the end of the text nor what follows them go on with its last token.
  have breaks := breaksOff_append_of_blanks layout.blank fun _ => breaksOff_of_separates ends
  have again := reaches.replace breaks
  rw [← List.append_assoc, ← Layout.text, ← show text = layout.text from reaches.text_eq] at again
  exact again.lexes (lexes.blanks layout.blank)

namespace Expr

section

variable [Regex.Engine]

/-- Between brackets whatever is read of a text on its own is an operand. -/
theorem reads_bracketed {text : String} {tree : Expr} (read : ofText text = .ok tree) :
    tree.Reads ('(' :: (text.toList ++ [')'])) := by
  -- The text has been read, so its tokens render it and derive the tree.
  obtain ⟨lexemes, body, lexed, same, derived⟩ := exists_derives_of_ofText read
  exact .bracketed (renders_of_lexed lexed same) derived

/-- Selectors that are put between brackets are read as the trees that they have on their own,
whether they stand alone, are negated or are joined. -/
theorem ofText_bracketed {first second : String} {left right : Expr}
    (readLeft : ofText first = .ok left) (readRight : ofText second = .ok right) :
    ofText ("(" ++ first ++ ")") = .ok left ∧
      ofText ("NOT (" ++ first ++ ")") = .ok (.not left) ∧
      ofText ("(" ++ first ++ ") AND (" ++ second ++ ")") = .ok (.connect .and left right) ∧
      ofText ("(" ++ first ++ ") OR (" ++ second ++ ")") = .ok (.connect .or left right) := by
  obtain ⟨tokens, renders, operand⟩ := reads_bracketed readLeft
  obtain ⟨others, rendersRight, operandRight⟩ := reads_bracketed readRight
  -- The closing bracket of the first text ends it before either word.
  have joined (word : Keyword) := renders.spaced ((Renders.keyword word).spaced rendersRight)
  refine ⟨?_, ?_, ?_, ?_⟩
  · exact ofText_of_renders (by simpa using renders) (operand.loosen .or)
  · have negated := (Renders.keyword .not).spaced renders
    have condition := Derives.not operand.negation_of_unary
    refine ofText_of_renders ?_ (.conjunction (.negation condition))
    simpa [Keyword.text] using negated
  · have condition := Derives.and (operand.loosen .and) operandRight.negation_of_unary
    refine ofText_of_renders ?_ (.conjunction condition)
    simpa [Keyword.text] using joined .and
  · have condition := Derives.or (operand.loosen .or) (operandRight.loosen .and)
    refine ofText_of_renders ?_ condition
    simpa [Keyword.text] using joined .or

end

/-- A bracket in a string closes nothing, and the `OR` in the first text stays in its brackets. -/
theorem ofText_bracketed_or :
    let names : Expr := .connect .or (.reference ⟨"a", by decide, by decide⟩)
      (.reference ⟨"b", by decide, by decide⟩)
    let string : Expr := .literal (.string ") OR ")
    ofText "a OR b " = .ok names ∧ ofText "') OR '" = .ok string ∧
      ofText "(a OR b ) AND (') OR ')" = .ok (.connect .and names string) := by
  intro names string
  -- The texts hold a bracket inside of a string and a blank at the end of an operand.
  have first : Lexed (Cursor.start "a OR b ") [⟨.identifier "a", 0⟩, ⟨.keyword .or, 2⟩,
      ⟨.identifier "b", 5⟩, ⟨.endOfInput, 7⟩] :=
    .token rfl rfl (.token rfl rfl (.token rfl rfl (.done rfl)))
  have second : Lexed (Cursor.start "') OR '") [⟨.string ") OR ", 0⟩, ⟨.endOfInput, 7⟩] :=
    .token rfl rfl (.done rfl)
  have a : Derives .unary [.identifier "a"] (.reference ⟨"a", by decide, by decide⟩) :=
    .primary (.reference ⟨"a", by decide, by decide⟩)
  have b : Derives .unary [.identifier "b"] (.reference ⟨"b", by decide, by decide⟩) :=
    .primary (.reference ⟨"b", by decide, by decide⟩)
  have quoted : Derives .unary [.string ") OR "] string := .primary (.string ") OR ")
  have readFirst : ofText "a OR b " = .ok names := by
    rw [ofText, tokenize, Cursor.lexemes_of_lexed first]
    exact ofLexemes_of_derivesSelector ⟨_, rfl, .or (a.loosen .or) (b.loosen .and)⟩
  have readSecond : ofText "') OR '" = .ok string := by
    rw [ofText, tokenize, Cursor.lexemes_of_lexed second]
    exact ofLexemes_of_derivesSelector ⟨_, rfl, quoted.loosen .or⟩
  exact ⟨readFirst, readSecond, (ofText_bracketed readFirst readSecond).2.2.1⟩

end Expr

end MessageSelector
