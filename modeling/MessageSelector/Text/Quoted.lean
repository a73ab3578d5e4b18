/-! Quoted text: a quote at either end, and every quote between them written twice. -/

namespace MessageSelector

/-- The single quote that opens and closes quoted text. -/
def quoteMark : Char := '\x27'

/-- The text with every quote written twice. -/
def doubleQuotes : List Char → List Char
  | [] => []
  | c :: rest =>
    -- Only the quote mark itself needs an escape, so every other character stands as it is.
    if c = quoteMark then quoteMark :: quoteMark :: doubleQuotes rest else c :: doubleQuotes rest

/-- The text as it is written between quotes. -/
def quoted (text : String) : String :=
  String.ofList (quoteMark :: (doubleQuotes text.toList ++ [quoteMark]))

/-- Quoted text is written between two quotes, and each quote in it twice. -/
@[simp] theorem toList_quoted (text : String) :
    (quoted text).toList = quoteMark :: (doubleQuotes text.toList ++ [quoteMark]) :=
  -- The quoted text is built from exactly this list, so reading its characters gives the list back.
  String.toList_ofList

/-- Reads on from an opening quote: the text up to the closing quote, and what follows it. -/
def closeQuote? : List Char → Option (List Char × List Char)
  | [] => none
  | [c] => if c = quoteMark then some ([], []) else none
  | c :: d :: rest =>
    if c = quoteMark then
      -- Only a quote that no second quote follows closes the text.
      if d = quoteMark then (closeQuote? rest).map fun (text, after) => (quoteMark :: text, after)
      else some ([], d :: rest)
    else (closeQuote? (d :: rest)).map fun (text, after) => (c :: text, after)

/-- What is read up to a closing quote is that text with its quotes doubled, and the quote. -/
theorem append_of_closeQuote? {written content after : List Char}
    (closed : closeQuote? written = some (content, after)) :
    doubleQuotes content ++ quoteMark :: after = written := by
  fun_induction closeQuote? written generalizing content with
  | case1 => cases closed
  -- A single quote with nothing behind it closes the string with empty content.
  | case2 => cases closed; rfl
  | case3 => cases closed
  -- A doubled quote is one content character, and doubling it again gives both back.
  | case4 rest ih =>
    obtain ⟨⟨text, later⟩, inner, same⟩ := Option.map_eq_some_iff.1 closed
    cases same
    simp [doubleQuotes, ih inner]
  | case5 d rest other => cases closed; rfl
  -- Any other character is content and is written once.
  | case6 c d rest other ih =>
    obtain ⟨⟨text, later⟩, inner, same⟩ := Option.map_eq_some_iff.1 closed
    cases same
    simp [doubleQuotes, other, ih inner]

/-- The text with every pair of quotes, taken from the left, written once. -/
def mergeQuotes : List Char → List Char
  | [] => []
  | [c] => [c]
  | c :: d :: rest =>
    -- Two neighbouring quote marks stand for one; a lone one is kept.
    if c = quoteMark ∧ d = quoteMark then quoteMark :: mergeQuotes rest
    else c :: mergeQuotes (d :: rest)

/-- A character that is no quote stays before what the rest becomes. -/
theorem mergeQuotes_cons {c : Char} (other : c ≠ quoteMark) (rest : List Char) :
    mergeQuotes (c :: rest) = c :: mergeQuotes rest := by
  -- Only a quote mark looks at its neighbour, so the next character does not matter here.
  cases rest with
  | nil => rfl
  | cons d rest => simp [mergeQuotes, other]

/-- Quotes that have been doubled are merged again, whatever stands between them. -/
@[simp] theorem mergeQuotes_doubleQuotes (text : List Char) :
    mergeQuotes (doubleQuotes text) = text := by
  induction text with
  | nil => rfl
  | cons c rest ih =>
    -- Doubling never puts a quote mark in front of another character, so merging undoes it one by
    -- one.
    by_cases quote : c = quoteMark
    · simp [doubleQuotes, mergeQuotes, quote, ih]
    · rw [doubleQuotes, if_neg quote, mergeQuotes_cons quote, ih]

end MessageSelector
