import MessageSelector.Token.Cursor

/-! Texts and the tokens they are read as, one token after another up to the end of the text. -/

namespace MessageSelector

/-- The tokens of an input without their places. -/
def tokensOf (input : List Lexeme) : List Token :=
  input.map Lexeme.token

/-- What two parts of an input hold is what the whole of them holds. -/
@[simp] theorem tokensOf_append (first second : List Lexeme) :
    tokensOf (first ++ second) = tokensOf first ++ tokensOf second :=
  -- Tokens are taken lexeme by lexeme.
  List.map_append

/-- The tokens of an input are those at its places in turn. -/
@[simp] theorem tokensOf_cons (lexeme : Lexeme) (rest : List Lexeme) :
    tokensOf (lexeme :: rest) = lexeme.token :: tokensOf rest :=
  -- Tokens are taken lexeme by lexeme.
  rfl

/-- There are no tokens where nothing is left. -/
@[simp] theorem tokensOf_nil : tokensOf [] = [] :=
  rfl

/-- The tokens of two parts with a token between them stand at places of the same shape. -/
theorem eq_append_cons_of_tokensOf {placed : List Lexeme} {lefts rights : List Token}
    {token : Token} (tokens : tokensOf placed = lefts ++ token :: rights) :
    ∃ first offset second, placed = first ++ ⟨token, offset⟩ :: second ∧
      tokensOf first = lefts ∧ tokensOf second = rights := by
  -- Forgetting places keeps the shape of the list, so each piece is found at its own places.
  obtain ⟨first, tail, rfl, same, rest⟩ := List.map_eq_append_iff.1 tokens
  obtain ⟨⟨_, offset⟩, second, rfl, rfl, more⟩ := List.map_eq_cons_iff.1 rest
  exact ⟨first, offset, second, rfl, same, more⟩

/-- A token before others stands at a place before theirs. -/
theorem eq_cons_of_tokensOf {placed : List Lexeme} {token : Token} {rest : List Token}
    (tokens : tokensOf placed = token :: rest) :
    ∃ offset more, placed = ⟨token, offset⟩ :: more ∧ tokensOf more = rest := by
  -- The first lexeme carries the token, and the others carry the rest.
  obtain ⟨⟨_, offset⟩, more, rfl, rfl, same⟩ := List.map_eq_cons_iff.1 tokens
  exact ⟨offset, more, rfl, same⟩

/-- A single token stands at a single place. -/
theorem eq_singleton_of_tokensOf {placed : List Lexeme} {token : Token}
    (tokens : tokensOf placed = [token]) : ∃ offset, placed = [⟨token, offset⟩] := by
  -- After the only token no places are left over.
  obtain ⟨offset, more, rfl, nothing⟩ := eq_cons_of_tokensOf tokens
  obtain rfl : more = [] := List.map_eq_nil_iff.1 nothing
  exact ⟨offset, rfl⟩

/-- The end of the input is the last of its tokens, and none of the others. -/
def Ended (input : List Lexeme) : Prop :=
  ∃ body offset, input = body ++ [⟨.endOfInput, offset⟩] ∧ .endOfInput ∉ tokensOf body

/-- A token before an input keeps it ended, unless it is the end itself. -/
theorem Ended.cons {lexeme : Lexeme} {input : List Lexeme} (inside : lexeme.token ≠ .endOfInput)
    (ended : Ended input) : Ended (lexeme :: input) := by
  obtain ⟨body, offset, rfl, others⟩ := ended
  -- The end stays where it was, and the new token is not a second one.
  exact ⟨lexeme :: body, offset, rfl, by simp [inside.symm, others]⟩

/-- Tokens without the end are not all of an ended input. -/
theorem Ended.ne_nil {before rest : List Lexeme} (ended : Ended (before ++ rest))
    (inside : .endOfInput ∉ tokensOf before) : rest ≠ [] := by
  rintro rfl
  -- Else the end would be the last one of the tokens without it.
  obtain ⟨body, offset, same, -⟩ := ended
  rw [List.append_nil] at same
  exact inside (by simp [same])

/-- Up to the first end of an ended input there is all of it. -/
theorem Ended.eq_append {before after : List Lexeme} {lexeme : Lexeme}
    (ended : Ended (before ++ lexeme :: after)) (last : lexeme.token = .endOfInput) :
    after = [] ∧ .endOfInput ∉ tokensOf before := by
  obtain ⟨body, offset, same, others⟩ := ended
  -- The two ways to split the input meet at the end, or one of them runs past the other.
  rcases List.append_eq_append_iff.1 same with ⟨middle, rfl, tail⟩ | ⟨middle, rfl, tail⟩
  · cases middle with
    | nil =>
      cases tail
      exact ⟨rfl, by simpa using others⟩
    | cons first more =>
      cases tail
      -- The end would stand among the tokens before the last.
      exact absurd (by simp [last]) others
  · cases middle with
    | nil =>
      cases tail
      exact ⟨rfl, by simpa using others⟩
    -- Nothing but the last token is left to run into.
    | cons first more => simp at tail

/-- No character begins the end of the input. -/
theorem Token.ne_endOfInput_of_scan {c : Char} {rest : List Char} {scanned : Scanned}
    (read : Token.scan c rest = .ok scanned) : scanned.token ≠ .endOfInput := by
  -- A quote, a number, a word and a mark each give a token of their own kind.
  unfold Token.scan at read
  split at read
  · split at read <;> cases read
    simp
  · split at read
    · rw [← Except.ok.inj read]
      simp
    · split at read
      · rw [← Except.ok.inj read]
        simp only [Token.ofWord]
        split <;> simp
      · split at read <;> cases read
        simp

/-- The tokens are those from a place in a text up to the end of the text. -/
inductive Lexed : Cursor → List Lexeme → Prop where
  -- Each token begins at the first visible character behind the one before.
  | done {cursor : Cursor} {offset : Nat} (blank : cursor.skipBlanks = ⟨[], offset⟩) :
    Lexed cursor [⟨.endOfInput, offset⟩]
  | token {cursor : Cursor} {offset : Nat} {c : Char} {rest spelling after : List Char}
    {token : Token} {more : List Lexeme} (visible : cursor.skipBlanks = ⟨c :: rest, offset⟩)
    (read : Token.scan c rest = .ok ⟨token, spelling, after⟩)
    (later : Lexed ⟨after, offset + spelling.length⟩ more) :
    Lexed cursor (⟨token, offset⟩ :: more)

namespace Cursor

variable {cursor : Cursor} {offset : Nat} {c : Char} {rest : List Char}

/-- At the end of a text its end is the only token. -/
theorem lexemes_of_nil (blank : cursor.skipBlanks = ⟨[], offset⟩) :
    cursor.lexemes = .ok [⟨.endOfInput, offset⟩] := by
  have next : cursor.next.1 = .ok ⟨.endOfInput, offset⟩ := by simp [Cursor.next, blank]
  -- The reading looks at the next token once, and only that token can be the end.
  rw [Cursor.lexemes]
  split
  · rename_i error refused
    rw [next] at refused
    cases refused
  · rename_i lexeme read
    rw [next] at read
    cases read
    simp

/-- Reading a token goes on after its spelling. -/
theorem next_of_scan {scanned : Scanned} (visible : cursor.skipBlanks = ⟨c :: rest, offset⟩)
    (read : Token.scan c rest = .ok scanned) :
    cursor.next =
      (.ok ⟨scanned.token, offset⟩, ⟨scanned.after, offset + scanned.spelling.length⟩) := by
  -- Blanks are passed over first, and then the spelling is consumed.
  simp [Cursor.next, visible, read, Cursor.advance]

/-- A token of a text comes before the tokens that follow its spelling. -/
theorem lexemes_of_scan {scanned : Scanned} (visible : cursor.skipBlanks = ⟨c :: rest, offset⟩)
    (read : Token.scan c rest = .ok scanned) :
    cursor.lexemes =
      (Cursor.mk scanned.after (offset + scanned.spelling.length)).lexemes.map
        (⟨scanned.token, offset⟩ :: ·) := by
  have next := next_of_scan visible read
  have inside := Token.ne_endOfInput_of_scan read
  -- The token is not the end, so the reading goes on from where the token leaves off.
  rw [Cursor.lexemes]
  split
  · rename_i error refused
    rw [next] at refused
    cases refused
  · rename_i lexeme found
    rw [next] at found
    cases found
    simp [inside, next]

/-- A character that begins no token is the fault of the text. -/
theorem lexemes_of_error {fault : Fault} (visible : cursor.skipBlanks = ⟨c :: rest, offset⟩)
    (refused : Token.scan c rest = .error fault) :
    cursor.lexemes = .error ⟨offset, fault⟩ := by
  have next : cursor.next.1 = .error ⟨offset, fault⟩ := by
    cases fault <;> simp [Cursor.next, visible, refused]
  -- A fault is passed on as it is, at the place of the character.
  rw [Cursor.lexemes]
  split
  · rename_i error found
    rw [next] at found
    cases found
    rfl
  · rename_i lexeme read
    rw [next] at read
    cases read

/-- The tokens that are read from a place on are those of the text there. -/
theorem lexed_of_lexemes {lexemes : List Lexeme} (read : cursor.lexemes = .ok lexemes) :
    Lexed cursor lexemes := by
  -- Each token takes at least one character, so the text that is left is ever shorter.
  induction size : cursor.rest.length using Nat.strongRecOn generalizing cursor lexemes with
  | ind length ih =>
    cases visible : cursor.skipBlanks with
    | mk left offset =>
      cases left with
      | nil =>
        -- Only blanks are left of the text.
        rw [lexemes_of_nil visible] at read
        cases read
        exact .done visible
      | cons c rest =>
        cases found : Token.scan c rest with
        | error fault =>
          -- No tokens come of a text with a fault.
          rw [lexemes_of_error visible found] at read
          cases read
        | ok scanned =>
          have next := next_of_scan visible found
          have inside := Token.ne_endOfInput_of_scan found
          have shorter := length_rest_next (congrArg Prod.fst next) inside
          rw [next, size] at shorter
          rw [lexemes_of_scan visible found] at read
          -- The tokens after the spelling are read from the shorter text.
          cases later : (Cursor.mk scanned.after (offset + scanned.spelling.length)).lexemes with
          | error error => simp [later, Except.map] at read
          | ok more =>
            simp only [later, Except.map, Except.ok.injEq] at read
            subst read
            exact .token visible found (ih _ shorter later rfl)

/-- The tokens of a text are read from its place on. -/
theorem lexemes_of_lexed {lexemes : List Lexeme} (lexed : Lexed cursor lexemes) :
    cursor.lexemes = .ok lexemes := by
  induction lexed with
  | done blank => exact lexemes_of_nil blank
  | token visible found later ih =>
    -- The later tokens are read by induction, and this one comes before them.
    rw [lexemes_of_scan visible found, ih]
    rfl

/-- The tokens of a text are what reading it from token to token comes to. -/
theorem lexemes_eq_ok_iff {lexemes : List Lexeme} :
    cursor.lexemes = .ok lexemes ↔ Lexed cursor lexemes :=
  -- The relation and the function agree in both directions.
  ⟨lexed_of_lexemes, lexemes_of_lexed⟩

/-- Blanks are passed over, so what is left never comes before them. -/
theorem offset_le_of_skipBlanks {left : List Char} (skipped : cursor.skipBlanks = ⟨left, offset⟩) :
    cursor.offset ≤ offset := by
  -- Passing over blanks moves the cursor forward.
  have place : cursor.skipBlanks.offset = offset := by rw [skipped]
  have passed : cursor.offset ≤ cursor.skipBlanks.offset := Nat.le_add_right ..
  omega

/-- Passing over blanks leaves the end of the text where it is. -/
theorem length_of_skipBlanks {left : List Char} (skipped : cursor.skipBlanks = ⟨left, offset⟩) :
    offset + left.length = cursor.offset + cursor.rest.length := by
  have whole : cursor.rest.takeWhile isBlank ++ cursor.rest.dropWhile isBlank = cursor.rest :=
    List.takeWhile_append_dropWhile
  have lengths := congrArg List.length whole
  rw [List.length_append] at lengths
  -- The blanks are as many as the places by which the cursor moves on.
  cases skipped
  omega

end Cursor

namespace Lexed

variable {cursor : Cursor} {lexemes : List Lexeme}

/-- The tokens of a text end where the text does. -/
theorem ended (lexed : Lexed cursor lexemes) : Ended lexemes := by
  -- Only the last step gives the end, and every other token comes from a character.
  induction lexed with
  | done blank => exact ⟨[], _, rfl, by simp⟩
  | token visible read later ih => exact .cons (Token.ne_endOfInput_of_scan read) ih

/-- No token comes before the place from which the text is read. -/
theorem offset_le (lexed : Lexed cursor lexemes) :
    ∀ lexeme ∈ lexemes, cursor.offset ≤ lexeme.offset := by
  -- The place moves on over the blanks, and then over the spelling of the token.
  induction lexed with
  | done blank =>
    have passed := Cursor.offset_le_of_skipBlanks blank
    simpa using passed
  | token visible read later ih =>
    have passed := Cursor.offset_le_of_skipBlanks visible
    intro lexeme held
    rcases List.mem_cons.1 held with rfl | held
    · exact passed
    · have beyond := ih lexeme held
      simp only at beyond
      omega

/-- No token comes behind the end of the text. -/
theorem offset_le_length (lexed : Lexed cursor lexemes) :
    ∀ lexeme ∈ lexemes, lexeme.offset ≤ cursor.offset + cursor.rest.length := by
  -- What a token and the blanks before it take of the text they add to the place.
  induction lexed with
  | done blank =>
    have length := Cursor.length_of_skipBlanks blank
    simp only [List.mem_singleton, forall_eq]
    omega
  | token visible read later ih =>
    have length := Cursor.length_of_skipBlanks visible
    have taken := congrArg List.length (Token.spelling_append_after read)
    simp only [List.length_append] at taken
    intro lexeme held
    rcases List.mem_cons.1 held with rfl | held
    · dsimp only
      omega
    · have behind := ih lexeme held
      simp only at behind
      omega

/-- Each token of a text comes at a later place than those before it. -/
theorem ascending (lexed : Lexed cursor lexemes) : lexemes.Pairwise (·.offset < ·.offset) := by
  -- By induction the later tokens ascend, so the first one is compared with each of them.
  induction lexed with
  | done blank => simp
  | token visible read later ih =>
    refine List.pairwise_cons.2 ⟨fun lexeme held => ?_, ih⟩
    -- The spelling of a token lies between its place and that of the next one.
    have some := List.length_pos_iff.2 (Token.spelling_ne_nil read)
    exact Nat.lt_of_lt_of_le (Nat.lt_add_of_pos_right some) (later.offset_le lexeme held)

end Lexed

end MessageSelector
