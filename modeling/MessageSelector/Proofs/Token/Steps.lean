import MessageSelector.Proofs.Token.Layout

/-! Reading a text step by step: the spans that are passed, and where no further step leads on. -/

namespace MessageSelector

/-- Reading a text token by token gives the spans, and leaves the last part of the text. -/
inductive Reaches : List Char → List Span → List Char → Prop where
  -- Every span is scanned in front of the real text behind it, not on its own.
  | here (text : List Char) : Reaches text [] text
  | token {span : Span} {c : Char} {rest after last : List Char} {spans : List Span}
    (read : Token.scan c rest = .ok ⟨span.token, span.spelling, after⟩)
    (later : Reaches after spans last) :
    Reaches (span.blanks ++ c :: rest) (span :: spans) last

/-- No blank begins a token. -/
theorem Span.isBlank_of_scan {span : Span} {c : Char} {rest after : List Char}
    (read : Token.scan c rest = .ok ⟨span.token, span.spelling, after⟩) : isBlank c = false := by
  -- Spellings begin visibly, and this one begins with the character.
  obtain ⟨first, more, same, visible⟩ := span.spelling_eq_cons
  have text : span.spelling ++ after = c :: rest := Token.spelling_append_after read
  rw [same] at text
  rwa [← (List.cons.inj text).1]

namespace Cursor

variable {blanks : List Char}

/-- Blanks are passed over up to a character that is none. -/
theorem skipBlanks_of_visible (blank : blanks.all isBlank = true) {c : Char}
    (visible : isBlank c = false) (rest : List Char) (offset : Nat) :
    (Cursor.mk (blanks ++ c :: rest) offset).skipBlanks = ⟨c :: rest, offset + blanks.length⟩ := by
  -- The blanks are all taken, and the visible character is where the taking stops.
  have stop : (c :: rest).head?.any isBlank = false := visible
  simp only [skipBlanks, advance, takeWhile_append_of_stop blank stop,
    dropWhile_append_of_stop blank stop]

/-- Blanks are passed over up to the end of the text. -/
theorem skipBlanks_of_blank (blank : blanks.all isBlank = true) (offset : Nat) :
    (Cursor.mk blanks offset).skipBlanks = ⟨[], offset + blanks.length⟩ := by
  -- The blanks are all taken, with nothing behind them to stop at.
  have stop : ([] : List Char).head?.any isBlank = false := rfl
  have taken := takeWhile_append_of_stop blank stop
  have left := dropWhile_append_of_stop blank stop
  rw [List.append_nil] at taken left
  simp only [skipBlanks, advance, taken, left]

/-- The first of some results is that of reading once. -/
theorem steps_succ {cursor later : Cursor} {result : Except SyntaxError Lexeme}
    (next : cursor.next = (result, later)) (count : Nat) :
    cursor.steps (count + 1) = result :: later.steps count := by
  -- The first step is that of the cursor, and the others are those of the later one.
  rw [steps, next]

/-- Reading again and again gives the first results in turn, and then the last one for ever. -/
def Settles (cursor : Cursor) (first : List (Except SyntaxError Lexeme))
    (last : Except SyntaxError Lexeme) : Prop :=
  -- Only finite runs are looked at, but those of every length.
  ∀ count, cursor.steps count = (first ++ List.replicate count last).take count

/-- Some result comes before those of the place that it leads to. -/
theorem settles_of_next {cursor later : Cursor} {first : List (Except SyntaxError Lexeme)}
    {result last : Except SyntaxError Lexeme} (next : cursor.next = (result, later))
    (settles : later.Settles first last) : cursor.Settles (result :: first) last := by
  intro count
  cases count with
  | zero => rfl
  | succ count =>
    rw [steps_succ next, settles count, List.cons_append, List.take_succ_cons]
    -- One more of the last results is beyond those that are taken.
    have enough : min (count - first.length) count =
        min (count - first.length) (count + 1) := by omega
    rw [List.take_append, List.take_append, List.take_replicate, List.take_replicate, enough]

/-- A result that leads to a place where it is given again is given for ever. -/
theorem settles_of_next_again {cursor later : Cursor} {last : Except SyntaxError Lexeme}
    (next : cursor.next = (last, later)) (again : later.next = (last, later)) :
    cursor.Settles [] last := by
  intro count
  rw [List.nil_append, List.take_replicate, Nat.min_self]
  -- The place that is reached stays the same, and so does every further result.
  induction count generalizing cursor with
  | zero => rfl
  | succ count ih => rw [steps_succ next, ih again, List.replicate_succ]

/-- The first results are those of reading as often as there are such. -/
theorem Settles.steps_eq {cursor : Cursor} {first : List (Except SyntaxError Lexeme)}
    {last : Except SyntaxError Lexeme} (settles : cursor.Settles first last) :
    cursor.steps first.length = first := by
  -- As many steps as there are first results show exactly these.
  rw [settles, List.take_left]

/-- Where only blanks are left, the end of the text is given for ever. -/
theorem settles_of_blank (blank : blanks.all isBlank = true) (offset : Nat) :
    (Cursor.mk blanks offset).Settles [.ok ⟨.endOfInput, offset + blanks.length⟩]
      (.ok ⟨.endOfInput, offset + blanks.length⟩) := by
  -- The end of the input is told, and the cursor stays at it.
  have next : (Cursor.mk blanks offset).next =
      (.ok ⟨.endOfInput, offset + blanks.length⟩, ⟨[], offset + blanks.length⟩) := by
    simp only [Cursor.next, skipBlanks_of_blank blank]
  exact settles_of_next next (settles_of_next_again rfl rfl)

/-- An unexpected character is told and not passed. -/
theorem next_of_unexpected {cursor : Cursor} {c d : Char} {rest : List Char} {offset : Nat}
    (here : cursor.skipBlanks = ⟨c :: rest, offset⟩)
    (refused : Token.scan c rest = .error (.unexpectedCharacter d)) :
    cursor.next = (.error ⟨offset, .unexpectedCharacter d⟩, ⟨c :: rest, offset⟩) := by
  -- The cursor stays on the character.
  simp only [Cursor.next, here, refused]

/-- A string without an end is told, and all of it is passed. -/
theorem next_of_unterminated {cursor : Cursor} {c : Char} {rest : List Char} {offset : Nat}
    (here : cursor.skipBlanks = ⟨c :: rest, offset⟩)
    (refused : Token.scan c rest = .error .unterminatedString) :
    cursor.next =
      (.error ⟨offset, .unterminatedString⟩, ⟨[], offset + (c :: rest).length⟩) := by
  -- The cursor goes to the end of the text.
  simp only [Cursor.next, here, refused, advance]

end Cursor

namespace Reaches

variable {text last : List Char} {spans : List Span}

/-- The spans and what is left make up the text. -/
theorem text_eq (reaches : Reaches text spans last) : text = Span.textOf spans ++ last := by
  induction reaches with
  | here text => rfl
  -- Each span gives back the text that it was scanned from.
  | token read later ih =>
    rw [← Token.spelling_append_after read, ih]
    simp

/-- The tokens of a text are those of the spans and then those of what is left. -/
theorem lexemes_eq (reaches : Reaches text spans last) (offset : Nat) :
    (Cursor.mk text offset).lexemes =
      (Cursor.mk last (offset + (Span.textOf spans).length)).lexemes.map
        (Span.placed offset spans ++ ·) := by
  induction reaches generalizing offset with
  | here text =>
    show _ = (Cursor.mk text offset).lexemes.map _
    cases (Cursor.mk text offset).lexemes <;> rfl
  | @token span c rest after last spans read later ih =>
    -- One token is scanned off the front, and the rest is placed behind it.
    have visible := Cursor.skipBlanks_of_visible span.blank (Span.isBlank_of_scan read) rest offset
    rw [Cursor.lexemes_of_scan visible read, ih, Span.add_length_textOf]
    cases (Cursor.mk last (offset + (Span.textOf (span :: spans)).length)).lexemes <;> rfl

/-- Reading again and again gives the tokens of the spans, and then what is left is read. -/
theorem settles {first : List (Except SyntaxError Lexeme)} {forever : Except SyntaxError Lexeme}
    (reaches : Reaches text spans last) (offset : Nat)
    (settles : (Cursor.mk last (offset + (Span.textOf spans).length)).Settles first forever) :
    (Cursor.mk text offset).Settles ((Span.placed offset spans).map .ok ++ first) forever := by
  -- Each span is one step, which leads to the place where the next one is read.
  induction reaches generalizing offset with
  | here text => exact settles
  | @token span c rest after last spans read later ih =>
    have visible := Cursor.skipBlanks_of_visible span.blank (Span.isBlank_of_scan read) rest offset
    rw [← Span.add_length_textOf] at settles
    exact Cursor.settles_of_next (Cursor.next_of_scan visible read) (ih _ settles)

/-- A letter that is left behind a number is a type suffix only where no word goes on from it. -/
theorem splitsNoWord (reaches : Reaches text spans last) :
    Numeral.splitsNoWord (Span.textOf spans) last := by
  intro c type single
  have start : isWordStart c = true :=
    List.all_eq_true.1 (show Numeral.typeSuffixes.all isWordStart = true by decide) c type
  cases reaches with
  | here => cases single
  | @token span first rest after last spans read later =>
    obtain ⟨d, more, spelling, -⟩ := span.spelling_eq_cons
    have text := Token.spelling_append_after read
    rw [Span.textOf_cons, spelling] at single
    simp only [spelling] at text
    -- The letter is all of the span, and no other span comes after it.
    obtain ⟨rfl, rfl, nothing⟩ : d = c ∧ more = [] ∧ Span.textOf spans = [] := by
      cases blanks : span.blanks with
      | nil => simpa [blanks] using single
      | cons b bs => simp [blanks] at single
    obtain ⟨rfl, rfl⟩ : d = first ∧ after = rest := by simpa using text
    obtain rfl : after = last := by simpa [nothing] using later.text_eq
    -- Thus a word is read of which the letter is the only part.
    rw [scan_of_isWordStart start] at read
    have stop : (d :: after).dropWhile isWordPart = after :=
      congrArg Scanned.after (Except.ok.inj read)
    rw [← stop]
    exact head?_any_dropWhile ..

/-- The same spans are read when what is left is replaced by text that goes on with no token. -/
theorem replace {other : List Char} (reaches : Reaches text spans last)
    (breaks : breaksOff other = true) : Reaches (Span.textOf spans ++ other) spans other := by
  induction reaches with
  | here text => exact .here other
  | @token span c rest after last spans read later ih =>
    -- The later spans are kept behind the token, so that only text behind them is new.
    rw [later.text_eq] at read
    obtain ⟨more, same, again⟩ := Token.scan_replace read later.splitsNoWord breaks
    rw [Span.textOf_cons, List.append_assoc, List.append_assoc, same]
    exact .token again ih

end Reaches

/-- A character that begins no token opens a string without an end, or begins no kind of token. -/
theorem fault_of_scan {c : Char} {rest : List Char} {fault : Fault}
    (refused : Token.scan c rest = .error fault) :
    (fault = .unterminatedString ∧ c = quoteMark ∧ closeQuote? rest = none) ∨
      (fault = .unexpectedCharacter c ∧ c ≠ quoteMark ∧ Numeral.starts (c :: rest) = false ∧
        isWordStart c = false ∧ Mark.scan? (c :: rest) = none) := by
  -- The kinds of tokens are tried in a fixed order, and only the first and the last can fail.
  unfold Token.scan at refused
  split at refused
  · rename_i quote
    split at refused
    · cases refused
    · rename_i opened
      cases refused
      exact .inl ⟨rfl, quote, opened⟩
  · rename_i noQuote
    split at refused
    · cases refused
    · rename_i noNumber
      split at refused
      · cases refused
      · rename_i noWord
        split at refused
        · cases refused
        · rename_i noMark
          cases refused
          right
          exact ⟨rfl, noQuote, Bool.eq_false_iff.2 noNumber, Bool.eq_false_iff.2 noWord, noMark⟩

/-- A text begins with blanks, and goes on with a character that is none, if it goes on. -/
theorem exists_blanks (text : List Char) :
    ∃ blanks left, text = blanks ++ left ∧ blanks.all isBlank = true ∧
      left.head?.any isBlank = false :=
  -- The blanks in front are taken as far as they go.
  ⟨text.takeWhile isBlank, text.dropWhile isBlank, List.takeWhile_append_dropWhile.symm,
    List.all_takeWhile, head?_any_dropWhile isBlank text⟩

/-- The text is read as the layout up to a character that begins no token. -/
structure Layout.StopsAt (layout : Layout) (text : List Char) (c : Char) (rest : List Char)
    (fault : Fault) : Prop where
  -- The scan fails at a visible character behind the blanks at the end of the layout.
  reaches : Reaches text layout.spans (layout.ending ++ c :: rest)
  visible : isBlank c = false
  refused : Token.scan c rest = .error fault

/-- Every text is read as a layout of all of it, or of all before a character that begins no
token. -/
theorem exists_layout (text : List Char) :
    ∃ layout : Layout, Reaches text layout.spans layout.ending ∨
      ∃ c rest fault, layout.StopsAt text c rest fault := by
  -- Each token takes at least one character, so the text that is left is ever shorter.
  induction size : text.length using Nat.strongRecOn generalizing text with
  | ind length ih =>
    obtain ⟨blanks, left, rfl, blank, stop⟩ := exists_blanks text
    cases left with
    | nil =>
      rw [List.append_nil]
      exact ⟨⟨[], blanks, blank⟩, .inl (.here blanks)⟩
    | cons c rest =>
      cases found : Token.scan c rest with
      | error fault =>
        -- Without a token before it, the fault comes behind the blanks alone.
        exact ⟨⟨[], blanks, blank⟩, .inr ⟨c, rest, fault, .here _, stop, found⟩⟩
      | ok scanned =>
        obtain ⟨token, spelling, after⟩ := scanned
        let span : Span :=
          ⟨blanks, token, spelling, blank, Token.writtenAs_iff_spells.2 (spells_of_scan found)⟩
        have shorter : after.length < length := by
          have lengths := congrArg List.length (Token.spelling_append_after found)
          have some := List.length_pos_iff.2 (Token.spelling_ne_nil found)
          simp only [List.length_append, List.length_cons] at lengths size some
          omega
        have read : Token.scan c rest = .ok ⟨span.token, span.spelling, after⟩ := found
        -- What is left behind the token has a layout, before which the token is put.
        obtain ⟨layout, reaches | ⟨d, more, fault, stops⟩⟩ := ih after.length shorter after rfl
        · exact ⟨⟨span :: layout.spans, layout.ending, layout.blank⟩, .inl (.token read reaches)⟩
        · exact ⟨⟨span :: layout.spans, layout.ending, layout.blank⟩,
            .inr ⟨d, more, fault, .token read stops.reaches, stops.visible, stops.refused⟩⟩

namespace Layout

variable {layout : Layout} {text rest : List Char} {c : Char} {fault : Fault}

/-- The length of a text is that of its spans and of the blanks behind them. -/
theorem length_text (layout : Layout) :
    0 + (Span.textOf layout.spans).length + layout.ending.length = layout.text.length := by
  -- The count starts from nothing, and the text is made of the two parts.
  rw [Layout.text, List.length_append, Nat.zero_add]

/-- A text that is read up to its end has the tokens of its layout. -/
theorem lexemes_of_reaches (reaches : Reaches text layout.spans layout.ending) :
    (Cursor.mk text 0).lexemes = .ok layout.lexemes := by
  -- The spans are scanned, and only blanks remain.
  have blank := Cursor.skipBlanks_of_blank layout.blank (0 + (Span.textOf layout.spans).length)
  rw [reaches.lexemes_eq, Cursor.lexemes_of_nil blank, length_text]
  rfl

/-- The text of a layout that is read as the layout has its tokens. -/
theorem tokenize_of_reaches (reaches : Reaches layout.text layout.spans layout.ending) :
    tokenize (String.ofList layout.text) = .ok layout.lexemes := by
  -- A text is scanned from its first character on.
  rw [tokenize, Cursor.start, String.toList_ofList]
  exact lexemes_of_reaches reaches

/-- Reading to the end of a text gives its tokens, of which the end is given for ever. -/
theorem settles_of_reaches (reaches : Reaches text layout.spans layout.ending) :
    (Cursor.mk text 0).Settles (layout.lexemes.map .ok)
      (.ok ⟨.endOfInput, layout.text.length⟩) := by
  -- The spans come first, and then the end of the input for ever.
  have settles := Cursor.settles_of_blank layout.blank (0 + (Span.textOf layout.spans).length)
  have whole := reaches.settles 0 settles
  rwa [length_text, ← List.map_singleton, ← List.map_append] at whole

namespace StopsAt

/-- The character comes right behind the text that is laid out. -/
theorem text_eq (stops : layout.StopsAt text c rest fault) : text = layout.text ++ c :: rest := by
  rw [stops.reaches.text_eq, Layout.text, List.append_assoc]

/-- The character is reached when the blanks at the end of the layout are passed over. -/
theorem skipBlanks_eq (stops : layout.StopsAt text c rest fault) :
    (Cursor.mk (layout.ending ++ c :: rest) (0 + (Span.textOf layout.spans).length)).skipBlanks =
      ⟨c :: rest, layout.text.length⟩ := by
  -- The blanks at the end of the layout stand before the character.
  rw [Cursor.skipBlanks_of_visible layout.blank stops.visible, length_text]

/-- The text before the character is read on its own as it is read there. -/
theorem tokenize_text (stops : layout.StopsAt text c rest fault) :
    tokenize (String.ofList layout.text) = .ok layout.lexemes := by
  -- Blanks and the end of the text go on with no token.
  have breaks := breaksOff_of_blank layout.blank
  exact tokenize_of_reaches (stops.reaches.replace breaks)

/-- The text has the fault of the character, at the place of the character. -/
theorem lexemes_eq (stops : layout.StopsAt text c rest fault) :
    (Cursor.mk text 0).lexemes = .error ⟨layout.text.length, fault⟩ := by
  -- The tokens before the stop are scanned, and then the error is all that is kept.
  rw [stops.reaches.lexemes_eq, Cursor.lexemes_of_error stops.skipBlanks_eq stops.refused]
  rfl

/-- Reading up to an unexpected character gives the tokens before it and then its fault for
ever. -/
theorem settles_unexpected (stops : layout.StopsAt text c rest (.unexpectedCharacter c)) :
    (Cursor.mk text 0).Settles
      ((Span.placed 0 layout.spans).map .ok ++
        [.error ⟨layout.text.length, .unexpectedCharacter c⟩])
      (.error ⟨layout.text.length, .unexpectedCharacter c⟩) := by
  have first := Cursor.next_of_unexpected stops.skipBlanks_eq stops.refused
  -- The character is still there when it has been told, without blanks before it.
  have here : (Cursor.mk (c :: rest) layout.text.length).skipBlanks =
      ⟨c :: rest, layout.text.length⟩ :=
    Cursor.skipBlanks_of_visible (show ([] : List Char).all isBlank = true from rfl)
      stops.visible rest layout.text.length
  have again := Cursor.next_of_unexpected here stops.refused
  have settles := Cursor.settles_of_next first (Cursor.settles_of_next_again again again)
  exact stops.reaches.settles 0 settles

/-- Reading up to a string without an end gives the tokens before it, its fault once, and then the
end of the text for ever. -/
theorem settles_unterminated (stops : layout.StopsAt text c rest .unterminatedString) :
    (Cursor.mk text 0).Settles
      ((Span.placed 0 layout.spans).map .ok ++
        [.error ⟨layout.text.length, .unterminatedString⟩])
      (.ok ⟨.endOfInput, text.length⟩) := by
  have first := Cursor.next_of_unterminated stops.skipBlanks_eq stops.refused
  -- All that is left of the text was taken for the string.
  have ended : layout.text.length + (c :: rest).length = text.length := by
    rw [stops.text_eq, List.length_append]
  rw [ended] at first
  have settles := Cursor.settles_of_next first (Cursor.settles_of_next_again rfl rfl)
  exact stops.reaches.settles 0 settles

/-- Reading up to a fault gives the tokens before it and then the fault. -/
theorem settles (stops : layout.StopsAt text c rest fault) :
    ∃ last, (Cursor.mk text 0).Settles
      ((Span.placed 0 layout.spans).map .ok ++ [.error ⟨layout.text.length, fault⟩]) last := by
  -- There are two faults of the scanner, and they end in different ways.
  rcases fault_of_scan stops.refused with ⟨rfl, -⟩ | ⟨rfl, -⟩
  · exact ⟨_, stops.settles_unterminated⟩
  · exact ⟨_, stops.settles_unexpected⟩

end StopsAt

end Layout

/-- Reading a text again and again gives its tokens, of which the end is given for ever; or those of
the text before its fault and then the fault, after which an unexpected character is told for ever,
and after a string without an end nothing but the end of the text. -/
theorem settles_start (text : String) :
    match tokenize text with
    | .ok lexemes =>
      (Cursor.start text).Settles (lexemes.map .ok) (.ok ⟨.endOfInput, text.length⟩)
    | .error error =>
      ∃ before,
        tokenize (String.ofList (text.toList.take error.offset)) =
          .ok (before ++ [⟨.endOfInput, error.offset⟩]) ∧
        ((∃ c, error.fault = .unexpectedCharacter c ∧ text.toList[error.offset]? = some c ∧
            (Cursor.start text).Settles (before.map .ok ++ [.error error]) (.error error)) ∨
          (error.fault = .unterminatedString ∧ text.toList[error.offset]? = some quoteMark ∧
            (Cursor.start text).Settles (before.map .ok ++ [.error error])
              (.ok ⟨.endOfInput, text.length⟩))) := by
  obtain ⟨layout, reaches | ⟨c, rest, fault, stops⟩⟩ := exists_layout text.toList
  · have read : tokenize text = .ok layout.lexemes := Layout.lexemes_of_reaches reaches
    have settles := Layout.settles_of_reaches reaches
    have same : text.toList = layout.text := reaches.text_eq
    rw [← same, String.length_toList] at settles
    rw [read]
    exact settles
  · have failed : tokenize text = .error ⟨layout.text.length, fault⟩ := stops.lexemes_eq
    have same := stops.text_eq
    have place : text.toList[layout.text.length]? = some c := by
      rw [same, List.getElem?_append_right (Nat.le_refl _), Nat.sub_self, List.getElem?_cons_zero]
    rw [failed]
    refine ⟨Span.placed 0 layout.spans, ?_, ?_⟩
    · rw [same, List.take_left]
      exact stops.tokenize_text
    · -- Where reading goes on from depends on what begins no token.
      rcases fault_of_scan stops.refused with ⟨rfl, rfl, -⟩ | ⟨rfl, -⟩
      · have settles := stops.settles_unterminated
        rw [String.length_toList] at settles
        exact .inr ⟨rfl, place, settles⟩
      · exact .inl ⟨c, rfl, place, stops.settles_unexpected⟩

end MessageSelector
