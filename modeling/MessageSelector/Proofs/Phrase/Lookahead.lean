import MessageSelector.Proofs.Phrase.Reader
import MessageSelector.Proofs.Token.Lexed

/-! Readers look at the tokens they take and at one more, and fail where no phrase can go on. -/

namespace MessageSelector

/-- Inputs that go on alike have the same token to come. -/
theorem Phrase.upcoming_congr {first second : List Lexeme} (same : first.head? = second.head?) :
    upcoming first = upcoming second := by
  -- The token to come is the first one, or the end where there is none.
  cases first <;> cases second <;> simp_all [upcoming]

/-- The fault is that a token stands where no selector can have it. -/
def Fault.isGrammatical : Fault → Bool
  -- The other faults are about the text of one token, not about the order of tokens.
  | expected _ _ | reservedOperand _ => true
  | _ => false

variable [Regex.Engine]

/-- A pattern fits that the tokens have to go on with: any one behind LIKE, and behind ESCAPE the one
that waits for its escape character, with some character that can be seen. -/
structure PatternsFit (tokens : List Token) : Prop where
  -- Tokens that end in neither word ask for nothing, as they can go on without a new pattern.
  started : ∀ front, tokens = front ++ [.keyword .like] →
    ∃ pattern isFound, LikePattern.compile pattern none = .ok isFound
  escaped : ∀ front pattern, tokens = front ++ [.string pattern, .keyword .escape] →
    ∃ c, isBlank c = false ∧ ∃ isFound, LikePattern.compile pattern (some c) = .ok isFound

/-- The last tokens alone tell which patterns have to fit. -/
theorem PatternsFit.of_append {front tokens : List Token} (fit : PatternsFit (front ++ tokens)) :
    PatternsFit tokens where
  -- What the tokens end in, more tokens in front of them end in as well.
  started := by
    rintro before rfl
    exact fit.started (front ++ before) (by simp)
  escaped := by
    rintro before pattern rfl
    exact fit.escaped (front ++ before) pattern (by simp)

namespace Reader

variable {α β : Type}

/-- What a reader does on an input shows in the tokens it takes and the one after them.

The tokens that it takes make up a phrase of the kind that is meant. Where it finds a fault of
grammar, the tokens before that place can be completed to such a phrase, as far as patterns fit. The
end of the input is among none of them. -/
inductive KeepsTo (reader : Reader α) (R : List Token → α → Prop) : List Lexeme → Prop where
  -- The reader looks one token ahead, so what follows it may be exchanged for anything.
  | takes {taken rest : List Lexeme} {value : α} (inside : .endOfInput ∉ tokensOf taken)
    (meant : R (tokensOf taken) value)
    (ahead : ∀ later, later.head? = rest.head? → reader (taken ++ later) = .ok (value, later)) :
    KeepsTo reader R (taken ++ rest)
  | refuses {taken rest : List Lexeme} (error : SyntaxError) (inside : .endOfInput ∉ tokensOf taken)
    (viable : error.fault.isGrammatical = true → error.offset = (Phrase.upcoming rest).offset ∧
      (PatternsFit (tokensOf taken) → ∃ completion value, R (tokensOf taken ++ completion) value))
    (ahead : ∀ later, later.head? = rest.head? → reader (taken ++ later) = .error error) :
    KeepsTo reader R (taken ++ rest)

namespace KeepsTo

variable {first : Reader α} {next : α → Reader β} {reader : Reader β} {input rest : List Lexeme}
  {P : List Token → α → Prop} {Q : α → List Token → β → Prop} {R : List Token → β → Prop}

/-- What is read in the end is a phrase of the kind that is meant. -/
theorem exists_of_ok (keeps : reader.KeepsTo R input) {value : β}
    (read : reader input = .ok (value, rest)) :
    ∃ taken, input = taken ++ rest ∧ R (tokensOf taken) value := by
  -- A success is the first case, since in the second the reader fails on the same input.
  cases keeps with
  | @takes taken left other inside meant ahead =>
    rw [ahead left rfl] at read
    cases read
    exact ⟨taken, rfl, meant⟩
  | @refuses taken left error inside viable ahead =>
    rw [ahead left rfl] at read
    cases read

/-- A reader that takes nothing keeps to phrases of no token. -/
theorem of_ok {value : β} (meant : R [] value)
    (ahead : ∀ later, later.head? = input.head? → reader later = .ok (value, later)) :
    reader.KeepsTo R input := by
  -- This is the first case with no tokens in front.
  have takes : reader.KeepsTo R ([] ++ input) := .takes (by simp) meant ahead
  exact takes

/-- A reader that takes one token keeps to phrases of one token. -/
theorem of_token {lexeme : Lexeme} {value : β} (inside : lexeme.token ≠ .endOfInput)
    (meant : R [lexeme.token] value)
    (takes : ∀ later, reader (lexeme :: later) = .ok (value, later)) :
    reader.KeepsTo R (lexeme :: rest) := by
  -- One token is taken, and the reader does not look behind it.
  have keeps : reader.KeepsTo R ([lexeme] ++ rest) :=
    .takes (by simpa using inside.symm) meant fun later _ => takes later
  exact keeps

/-- A reader that refuses the token to come keeps to phrases that another token would begin. -/
theorem of_refusal (error : SyntaxError) (meant : ∃ completion value, R completion value)
    (place : error.offset = (Phrase.upcoming input).offset)
    (ahead : ∀ later, later.head? = input.head? → reader later = .error error) :
    reader.KeepsTo R input := by
  -- Nothing has been taken when the error is told, so any phrase completes it.
  have refuses : reader.KeepsTo R ([] ++ input) :=
    .refuses error (by simp) (fun _ => ⟨place, fun _ => meant⟩) ahead
  exact refuses

/-- A reader that wants another token keeps to phrases that the token would begin. -/
theorem of_unexpected (wanted : Wanted) (meant : ∃ completion value, R completion value)
    (ahead : ∀ later, later.head? = input.head? → reader later = Phrase.unexpected wanted later) :
    reader.KeepsTo R input := by
  let next := Phrase.upcoming input
  refine .of_refusal ⟨next.offset, .expected wanted next.token⟩ meant rfl fun later same => ?_
  -- The fault names the token to come, which is the same in both inputs.
  rw [ahead later same, Phrase.unexpected, Phrase.upcoming_congr same]

/-- A fault in the tokens that are already taken is none of grammar. -/
theorem of_error {error : SyntaxError} (other : error.fault.isGrammatical = false)
    (ahead : ∀ later, later.head? = input.head? → reader later = .error error) :
    reader.KeepsTo R input := by
  -- The error is no grammatical one, so nothing has to be completed.
  have refuses : reader.KeepsTo R ([] ++ input) :=
    .refuses error (by simp) (fun grammatical => by simp [other] at grammatical) ahead
  exact refuses

/-- A result that does not depend on the input takes no token. -/
theorem of_lift {result : Except SyntaxError β}
    (meant : ∀ value, result = .ok value → R [] value)
    (refusal : ∀ error, result = .error error → error.fault.isGrammatical = false) :
    KeepsTo (liftM result : Reader β) R input := by
  -- Whatever follows, the result is the same and the input is left as it is.
  cases made : result with
  | ok value => exact .of_ok (meant value made) fun later _ => rfl
  | error error => exact .of_error (refusal error made) fun later _ => rfl

/-- Phrases of one kind are kept to where all of them are of another kind. -/
theorem mono {S : List Token → β → Prop} (keeps : reader.KeepsTo S input)
    (meant : ∀ tokens value, S tokens value → R tokens value) : reader.KeepsTo R input := by
  -- What the reader does stays the same, and only what is said of its tokens changes.
  cases keeps with
  | takes inside phrase ahead => exact .takes inside (meant _ _ phrase) ahead
  | refuses error inside viable ahead =>
    refine .refuses error inside (fun grammatical => ?_) ahead
    obtain ⟨place, completable⟩ := viable grammatical
    refine ⟨place, fun fit => ?_⟩
    obtain ⟨completion, value, phrase⟩ := completable fit
    exact ⟨completion, value, meant _ _ phrase⟩

/-- What a phrase begins with is told by the input, unless nothing of the input is taken. -/
theorem mono_head {S : List Token → β → Prop} (keeps : reader.KeepsTo S input)
    (some : ∀ value, ¬S [] value) (fallback : ∃ completion value, R completion value)
    (meant : ∀ tokens value, S tokens value → tokens.head? = (tokensOf input).head? →
      R tokens value) :
    reader.KeepsTo R input := by
  -- Once a token is taken, the phrase and its completions begin with that token.
  cases keeps with
  | @takes taken rest value inside phrase ahead =>
    refine .takes inside (meant _ _ phrase ?_) ahead
    cases taken with
    | nil => exact absurd phrase (some value)
    | cons lexeme more => simp
  | @refuses taken rest error inside viable ahead =>
    refine .refuses error inside (fun grammatical => ?_) ahead
    obtain ⟨place, completable⟩ := viable grammatical
    refine ⟨place, fun fit => ?_⟩
    cases taken with
    -- Before the first token nothing is fixed yet, so another phrase can be had.
    | nil => exact fallback
    | cons lexeme more =>
      obtain ⟨completion, value, phrase⟩ := completable fit
      exact ⟨completion, value, meant _ _ phrase (by simp)⟩

/-- A reader that does what another does keeps to what the other keeps to. -/
theorem congr {other : Reader β} (keeps : other.KeepsTo R input)
    (same : ∀ later, later.head? = input.head? → reader later = other later) :
    reader.KeepsTo R input := by
  -- Inputs that go on alike after the taken tokens begin alike, so both readers agree on them.
  cases keeps with
  | takes inside phrase ahead =>
    refine .takes inside phrase fun later alike => ?_
    rw [same _ (by simp [List.head?_append, alike]), ahead later alike]
  | refuses error inside viable ahead =>
    refine .refuses error inside viable fun later alike => ?_
    rw [same _ (by simp [List.head?_append, alike]), ahead later alike]

/-- Tokens decide what is read after them. -/
theorem after_tokens {other : Reader β} {front : List Lexeme}
    (inside : .endOfInput ∉ tokensOf front)
    (keeps : other.KeepsTo (fun tokens value => R (tokensOf front ++ tokens) value) rest)
    (same : ∀ later, later.head? = rest.head? → reader (front ++ later) = other later) :
    reader.KeepsTo R (front ++ rest) := by
  -- The tokens join those that are taken after them, and none of the lookahead changes.
  cases keeps with
  | @takes taken rest value beyond phrase ahead =>
    rw [← List.append_assoc]
    refine .takes (by simp [inside, beyond]) (by simpa using phrase) fun later alike => ?_
    rw [List.append_assoc, same _ (by simp [List.head?_append, alike]), ahead later alike]
  | @refuses taken rest error beyond viable ahead =>
    rw [← List.append_assoc]
    refine .refuses error (by simp [inside, beyond]) (fun grammatical => ?_) fun later alike => ?_
    · obtain ⟨place, completable⟩ := viable grammatical
      refine ⟨place, fun fit => ?_⟩
      rw [tokensOf_append] at fit ⊢
      simpa using completable fit.of_append
    · rw [List.append_assoc, same _ (by simp [List.head?_append, alike]), ahead later alike]

/-- A token decides what is read after it. -/
theorem after_token {other : Reader β} {lexeme : Lexeme} (inside : lexeme.token ≠ .endOfInput)
    (keeps : other.KeepsTo (fun tokens value => R (lexeme.token :: tokens) value) rest)
    (same : ∀ later, later.head? = rest.head? → reader (lexeme :: later) = other later) :
    reader.KeepsTo R (lexeme :: rest) := by
  -- This is the case of one token in front.
  have after : reader.KeepsTo R ([lexeme] ++ rest) :=
    .after_tokens (by simpa using inside.symm) keeps same
  exact after

/-- Changing what is made of a phrase changes nothing about its tokens. -/
theorem map {f : α → β} (keeps : first.KeepsTo P input)
    (meant : ∀ tokens value, P tokens value → R tokens (f value)) :
    (f <$> first).KeepsTo R input := by
  -- The same tokens are taken, and the completion stands for the changed value.
  cases keeps with
  | takes inside phrase ahead =>
    exact .takes inside (meant _ _ phrase) fun later alike => map_of_ok (ahead later alike)
  | refuses error inside viable ahead =>
    refine .refuses error inside (fun grammatical => ?_) fun later alike =>
      map_of_error (ahead later alike)
    obtain ⟨place, completable⟩ := viable grammatical
    refine ⟨place, fun fit => ?_⟩
    obtain ⟨completion, value, phrase⟩ := completable fit
    exact ⟨completion, f value, meant _ _ phrase⟩

/-- Two readers in turn keep to phrases of two parts.

A fault in the second part leaves a first part to complete, and one in the first part needs a
second part that can follow whatever the first part comes to. -/
theorem bind (keeps : first.KeepsTo P input)
    (follows : ∀ value rest, first input = .ok (value, rest) →
      (next value).KeepsTo (Q value) rest)
    (meant : ∀ tokens value more result,
      P tokens value → Q value more result → R (tokens ++ more) result)
    (completable : ∀ value, ∃ more result, Q value more result) :
    (first >>= next).KeepsTo R input := by
  -- The first part is followed on its own input, and the second part on what the first one leaves.
  cases keeps with
  | @takes taken rest value inside phrase ahead =>
    cases follows value rest (ahead rest rfl) with
    | @takes more rest result others second beyond =>
      rw [← List.append_assoc]
      refine .takes (by simp [inside, others]) (by simpa using meant _ _ _ _ phrase second)
        fun later alike => ?_
      -- What the first part looks at is the first token of the second part, if that has any.
      have joint : (more ++ later).head? = (more ++ rest).head? := by
        simp [List.head?_append, alike]
      rw [List.append_assoc, bind_of_ok (ahead _ joint), beyond later alike]
    | @refuses more rest error others viable beyond =>
      rw [← List.append_assoc]
      refine .refuses error (by simp [inside, others]) (fun grammatical => ?_) fun later alike => ?_
      · -- The completion of the second part completes the whole.
        obtain ⟨place, onward⟩ := viable grammatical
        refine ⟨place, fun fit => ?_⟩
        rw [tokensOf_append] at fit
        obtain ⟨completion, result, second⟩ := onward fit.of_append
        exact ⟨completion, result, by simpa using meant _ _ _ _ phrase second⟩
      · have joint : (more ++ later).head? = (more ++ rest).head? := by
          simp [List.head?_append, alike]
        rw [List.append_assoc, bind_of_ok (ahead _ joint), beyond later alike]
  | @refuses taken rest error inside viable ahead =>
    refine .refuses error inside (fun grammatical => ?_) fun later alike =>
      bind_of_error (ahead later alike)
    obtain ⟨place, front⟩ := viable grammatical
    refine ⟨place, fun fit => ?_⟩
    obtain ⟨completion, value, phrase⟩ := front fit
    -- After the completed first part, any second part will do.
    obtain ⟨more, result, second⟩ := completable value
    exact ⟨completion ++ more, result, by simpa using meant _ _ _ _ phrase second⟩

end KeepsTo

end Reader

end MessageSelector
