import MessageSelector.Proofs.Token.Boundary

/-! Texts put together from parts, whose tokens are those of the parts in turn. -/

namespace MessageSelector

/-- Nothing comes next, or one of the characters that end every word, number and string. -/
def separates (after : List Char) : Bool :=
  after.head?.all [' ', ')', ','].contains

/-- None of these characters goes on with a token. -/
theorem breaksOff_of_separates {after : List Char} (ends : separates after = true) :
    breaksOff after = true := by
  cases after with
  | nil => rfl
  | cons c rest =>
    -- Renderings are followed by a blank, a bracket or a comma, and each of them is a boundary.
    have one : c = ' ' ∨ c = ')' ∨ c = ',' := by
      simpa [separates, List.contains_iff_mem] using ends
    show isBoundary c = true
    rcases one with rfl | rfl | rfl <;> decide

/-- Every token ends where one of these characters follows. -/
theorem endsBefore_of_separates {after : List Char} (ends : separates after = true)
    (token : Token) : token.endsBefore after = true :=
  -- A boundary ends every token.
  token.endsBefore_of_breaksOff (breaksOff_of_separates ends)

/-- The text is read as the tokens wherever one of these characters follows it. -/
def Renders (text : List Char) (tokens : List Token) : Prop :=
  ∀ after more, separates after = true → Lexes after more → Lexes (text ++ after) (tokens ++ more)

namespace Renders

variable {text other : List Char} {tokens others : List Token}

/-- A token is rendered by its spelling. -/
theorem single {token : Token} (spells : Spells token text) : Renders text [token] := by
  -- The token ends before whatever separates it from the next.
  intro after more ends lexes
  exact .append spells (endsBefore_of_separates ends token) lexes

/-- A keyword is rendered by its letters. -/
theorem keyword (word : Keyword) : Renders word.text.toList [.keyword word] :=
  .single word.spells

/-- A mark is rendered by its signs. -/
theorem mark (sign : Mark) : Renders sign.text.toList [.mark sign] :=
  .single (.mark sign)

/-- A string is rendered between quotes. -/
theorem quoted (content : String) : Renders (quoted content).toList [.string content] := by
  -- The quotes are doubled inside of the content, as the spelling asks.
  have spells := Spells.string content.toList
  rw [String.ofList_toList, ← toList_quoted] at spells
  exact .single spells

/-- Two parts are rendered with a blank between them. -/
theorem spaced (first : Renders text tokens) (second : Renders other others) :
    Renders (text ++ ' ' :: other) (tokens ++ others) := by
  intro after more ends lexes
  -- The blank ends the first part, and none of the tokens after it changes.
  have later := Lexes.blank (c := ' ') (by decide) (second after more ends lexes)
  have whole := first (' ' :: (other ++ after)) (others ++ more) rfl later
  simpa using whole

/-- Two parts of a list are rendered with a comma and a blank between them. -/
theorem listed (first : Renders text tokens) (second : Renders other others) :
    Renders (text ++ ',' :: ' ' :: other) (tokens ++ .mark .comma :: others) := by
  intro after more ends lexes
  -- The comma ends the first part, and is a token of its own.
  have later := Lexes.blank (c := ' ') (by decide) (second after more ends lexes)
  have comma := Lexes.append (.mark .comma) rfl later
  have whole := first (',' :: ' ' :: (other ++ after)) _ rfl comma
  simpa using whole

/-- What stands between brackets is rendered between them. -/
theorem bracketed (inner : Renders text tokens) :
    Renders ('(' :: (text ++ [')'])) (.mark .openBracket :: (tokens ++ [.mark .closeBracket])) := by
  intro after more ends lexes
  -- The closing bracket ends what stands before it, whatever follows the whole.
  have closing := Lexes.append (.mark .closeBracket) rfl lexes
  have held := inner (')' :: after) _ rfl closing
  have whole : Lexes ('(' :: (text ++ ')' :: after)) _ := .append (.mark .openBracket) rfl held
  simpa using whole

/-- A minus is rendered right before its operand. -/
theorem minus (operand : Renders text tokens) : Renders ('-' :: text) (.mark .minus :: tokens) := by
  intro after more ends lexes
  -- No longer mark begins with a minus, so the operand may come at once.
  have whole := Lexes.append (.mark .minus) rfl (operand after more ends lexes)
  exact whole

/-- A text that is rendered as tokens is read as them when it stands alone. -/
theorem lexes (renders : Renders text tokens) : Lexes text tokens := by
  -- Nothing follows, and nothing separates as well.
  have whole := renders [] [] rfl .nil
  simpa using whole

end Renders

end MessageSelector
