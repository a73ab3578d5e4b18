import MessageSelector.LikePattern
import MessageSelector.Proofs.Regex.Plain

/-! What a pattern matches: the texts that can be split into pieces for its positions. -/

namespace MessageSelector

/-- A text in pieces, one for each position of a pattern that is read from the left.

An escaped character stands for itself. Otherwise `_` stands for any one character, `%` for any run
of characters, and every other character for itself. -/
inductive LikePattern.SplitsAlong (escape : Option Char) :
    List Char → List (List Char) → Prop where
  -- The escape character and the first character tell which of the constructors applies.
  | done : SplitsAlong escape [] []
  | escaped {mark c : Char} {pattern : List Char} {pieces : List (List Char)}
    (marked : escape = some mark) (rest : SplitsAlong escape pattern pieces) :
    SplitsAlong escape (mark :: c :: pattern) ([c] :: pieces)
  | anyOne {pattern : List Char} {pieces : List (List Char)} (d : Char)
    (plain : escape ≠ some '_') (rest : SplitsAlong escape pattern pieces) :
    SplitsAlong escape ('_' :: pattern) ([d] :: pieces)
  | anyRun {pattern : List Char} {pieces : List (List Char)} (run : List Char)
    (plain : escape ≠ some '%') (rest : SplitsAlong escape pattern pieces) :
    SplitsAlong escape ('%' :: pattern) (run :: pieces)
  | itself {c : Char} {pattern : List Char} {pieces : List (List Char)} (plain : escape ≠ some c)
    (notOne : c ≠ '_') (notRun : c ≠ '%') (rest : SplitsAlong escape pattern pieces) :
    SplitsAlong escape (c :: pattern) ([c] :: pieces)

/-- Parts one behind the other are written one behind the other. -/
theorem Regex.joinedText_append [Engine] (first second : List Part) :
    joinedText (first ++ second) = joinedText first ++ joinedText second := by
  -- The induction is on the parts in front, as the others are never taken apart.
  induction first with
  | nil => simp [joinedText]
  | cons part first ih => simp [joinedText, ih, String.append_assoc]

/-- A match that ends at the end of the text leaves nothing behind it. -/
theorem Regex.eq_nil_of_matches_finish {dotAll : Bool} {parts : List Part}
    {before taken after : List Char}
    (found : Matches dotAll (parts ++ [.finish]) before taken after) : after = [] := by
  -- Only the last part is bound to the end, so the induction goes through all others.
  induction parts generalizing before taken with
  | nil =>
    obtain ⟨_, rest, -, ⟨-, none⟩, -⟩ := found
    exact (List.append_eq_nil_iff.1 none).2
  | cons part parts ih =>
    obtain ⟨_, _, -, -, later⟩ := found
    exact ih later

/-- An expression that is bound to both ends is found where it matches the whole text. -/
theorem Regex.found_bounded_iff {dotAll : Bool} {parts : List Part} {text : List Char} :
    Found dotAll (.start :: (parts ++ [.finish])) text ↔
      Matches dotAll (parts ++ [.finish]) [] text [] := by
  constructor
  · rintro ⟨_, _, _, rfl, _, taken, rfl, ⟨rfl, rfl⟩, later⟩
    -- Nothing comes before the match, and nothing after it.
    obtain rfl := eq_nil_of_matches_finish later
    simpa using later
  · intro later
    exact ⟨[], text, [], by simp, [], text, rfl, ⟨rfl, rfl⟩, later⟩

namespace LikePattern

open Regex (Part Matches)

/-- The part of an expression that a character is written as when no escape character comes before
it. -/
def plainPart (c : Char) : Part :=
  if c = '_' then .one .dot else if c = '%' then .many .dot else .one (.char c)

/-- The parts of the expression of a pattern, if no escape character is left over at its end. -/
def partsOf (escape : Option Char) : List Char → Option (List Part)
  | [] => some []
  | c :: rest =>
    if some c = escape then
      match rest with
      | [] => none
      -- An escaped character stands for itself, also when it is the escape character.
      | next :: rest => (partsOf escape rest).map (.one (.char next) :: ·)
    else (partsOf escape rest).map (plainPart c :: ·)

variable {escape : Option Char} {pattern : List Char} {pieces : List (List Char)}

/-- A character that no escape character comes before has a part of its own. -/
theorem partsOf_plain {c : Char} (plain : some c ≠ escape) :
    partsOf escape (c :: pattern) = (partsOf escape pattern).map (plainPart c :: ·) := by
  -- The escape character is asked for first, and this character is another one.
  rw [partsOf.eq_def]
  exact if_neg plain

/-- An escape character and the character after it have one part. -/
theorem partsOf_escaped {mark c : Char} (marked : some mark = escape) :
    partsOf escape (mark :: c :: pattern) =
      (partsOf escape pattern).map (.one (.char c) :: ·) := by
  -- The escape character is asked for first, so the next one is never looked at on its own.
  rw [partsOf.eq_def]
  exact if_pos marked

/-- An escape character with nothing after it has no part. -/
theorem partsOf_dangling {mark : Char} (marked : some mark = escape) :
    partsOf escape [mark] = none := by
  -- The escape character asks for a next one, and there is none.
  rw [partsOf.eq_def]
  exact if_pos marked

/-- A pattern without positions has no pieces. -/
theorem splitsAlong_nil_iff : SplitsAlong escape [] pieces ↔ pieces = [] := by
  -- No step begins an empty pattern.
  constructor
  · rintro ⟨⟩
    rfl
  · rintro rfl
    exact .done

/-- The first pieces of a pattern are what a part of an expression takes, wherever they stand. -/
def BeginsWith (escape : Option Char) (part : Part) (pattern rest : List Char) : Prop :=
  -- The text around the piece is arbitrary, as the part must not depend on it.
  ∀ (before after : List Char) (pieces : List (List Char)), SplitsAlong escape pattern pieces ↔
    ∃ piece more, part.Takes true before piece after ∧ SplitsAlong escape rest more ∧
      pieces = piece :: more

/-- An escape character and the character after it have a piece for that character. -/
theorem beginsWith_escaped {mark : Char} (marked : escape = some mark) (c : Char)
    (rest : List Char) : BeginsWith escape (.one (.char c)) (mark :: c :: rest) rest := by
  intro before after pieces
  constructor
  · rintro (_ | ⟨_, split⟩ | ⟨_, plain, _⟩ | ⟨_, plain, _⟩ | ⟨plain, _, _, _⟩)
    · exact ⟨[c], _, ⟨c, rfl, beq_self_eq_true c⟩, split, rfl⟩
    -- No other reading of the escape character is left.
    all_goals exact absurd marked plain
  · rintro ⟨_, more, ⟨d, rfl, same⟩, split, rfl⟩
    obtain rfl := eq_of_beq same
    exact .escaped marked split

/-- Any other character has a piece that its own part takes. -/
theorem beginsWith_plain {c : Char} (plain : escape ≠ some c) (rest : List Char) :
    BeginsWith escape (plainPart c) (c :: rest) rest := by
  intro before after pieces
  constructor
  -- The pattern decides which step comes first, and the escaped one is excluded.
  · rintro (_ | ⟨marked, _⟩ | ⟨d, _, split⟩ | ⟨run, _, split⟩ | ⟨_, notOne, notRun, split⟩)
    · exact absurd marked plain
    · exact ⟨[d], _, ⟨d, rfl, rfl⟩, split, rfl⟩
    · exact ⟨run, _, fun _ _ => rfl, split, rfl⟩
    · refine ⟨[c], _, ?_, split, rfl⟩
      rw [plainPart, if_neg notOne, if_neg notRun]
      exact ⟨c, rfl, beq_self_eq_true c⟩
  · rintro ⟨piece, more, takes, split, rfl⟩
    -- In the other direction the part tells which of the three steps it came from.
    by_cases one : c = '_'
    · subst one
      obtain ⟨d, rfl, -⟩ := takes
      exact .anyOne d plain split
    by_cases many : c = '%'
    · subst many
      exact .anyRun piece plain split
    rw [plainPart, if_neg one, if_neg many] at takes
    obtain ⟨d, rfl, same⟩ := takes
    obtain rfl := eq_of_beq same
    exact .itself plain one many split

/-- A text can be split along a pattern when a part takes its front and the rest can be split. -/
theorem exists_splitsAlong_iff {part : Part} {rest before text : List Char}
    (begins : BeginsWith escape part pattern rest) :
    (∃ pieces, SplitsAlong escape pattern pieces ∧ pieces.flatten = text) ↔
      ∃ piece left, text = piece ++ left ∧ part.Takes true before piece (left ++ []) ∧
        ∃ more, SplitsAlong escape rest more ∧ more.flatten = left := by
  constructor
  -- The first piece is what the part takes, and the others make up what is left.
  · rintro ⟨pieces, split, rfl⟩
    obtain ⟨piece, more, -, splitMore, rfl⟩ := (begins before [] pieces).1 split
    obtain ⟨_, _, takes, -, same⟩ := (begins before (more.flatten ++ []) (piece :: more)).1 split
    cases same
    exact ⟨piece, more.flatten, rfl, takes, more, splitMore, rfl⟩
  -- A piece in front of a splitting is a splitting again.
  · rintro ⟨piece, _, rfl, takes, more, split, rfl⟩
    exact ⟨piece :: more, (begins _ _ _).2 ⟨piece, more, takes, split, rfl⟩, rfl⟩

/-- A part and those behind it match a text to its end where it can be split along the pattern that
the part begins, if those behind it do so along the rest. -/
theorem matches_cons_iff {part : Part} {parts : List Part} {rest before text : List Char}
    (begins : BeginsWith escape part pattern rest)
    (later : ∀ {before left : List Char}, Matches true (parts ++ [.finish]) before left [] ↔
      ∃ more, SplitsAlong escape rest more ∧ more.flatten = left) :
    Matches true (part :: parts ++ [.finish]) before text [] ↔
      ∃ pieces, SplitsAlong escape pattern pieces ∧ pieces.flatten = text := by
  rw [exists_splitsAlong_iff begins]
  -- What is left behind the first piece is matched by the other parts.
  exact exists_congr fun _ => exists_congr fun _ => and_congr_right fun _ =>
    and_congr_right fun _ => later

/-- The parts of a pattern match a text to its end where it can be split along the pattern. -/
theorem matches_iff_splitsAlong {parts : List Part} {before text : List Char}
    (read : partsOf escape pattern = some parts) :
    Matches true (parts ++ [.finish]) before text [] ↔
      ∃ pieces, SplitsAlong escape pattern pieces ∧ pieces.flatten = text := by
  -- The induction follows the reading of the pattern, whose steps take one or two characters.
  fun_induction partsOf escape pattern generalizing parts before text with
  | case1 =>
    cases read
    simp [splitsAlong_nil_iff, Matches, Part.Takes]
  | case2 c dangling => cases read
  | case3 c escaped next rest ih =>
    obtain ⟨more, readMore, rfl⟩ := Option.map_eq_some_iff.1 read
    exact matches_cons_iff (beginsWith_escaped escaped.symm next rest) (ih readMore)
  | case4 c rest plain ih =>
    obtain ⟨more, readMore, rfl⟩ := Option.map_eq_some_iff.1 read
    exact matches_cons_iff (beginsWith_plain (Ne.symm plain) rest) (ih readMore)

section

variable [Regex.Engine]

/-- A character that no escape character comes before is written as its part. -/
theorem pushPlain_eq (out : String) (c : Char) : pushPlain out c = out ++ (plainPart c).text := by
  -- The two wildcards and all other characters are written alike on both sides.
  unfold pushPlain plainPart
  split
  · rfl
  · split <;> rfl

/-- What is written of a pattern are its parts, one behind the other. -/
theorem translateFrom_eq (escape : Option Char) (out : String) (pattern : List Char) :
    translateFrom escape out pattern =
      (partsOf escape pattern).map fun parts => out ++ Regex.joinedText parts := by
  -- The text written so far grows by one part for each character that is read.
  fun_induction translateFrom escape out pattern with
  | case1 => simp [partsOf, Regex.joinedText]
  | case2 out c dangling => rw [partsOf_dangling dangling]; rfl
  | case3 out c escaped next rest ih =>
    rw [ih, partsOf_escaped escaped]
    simp [pushLiteral, Regex.joinedText, Regex.Part.text, Regex.Atom.text, Function.comp_def,
      String.append_assoc]
  | case4 out c rest plain ih =>
    rw [ih, partsOf_plain plain]
    simp [pushPlain_eq, Regex.joinedText, Function.comp_def, String.append_assoc]

/-- The expression of a pattern has the parts of the pattern between two anchors. -/
theorem translate_eq (text : String) (escape : Option Char) :
    translate text escape = match partsOf escape text.toList with
      | some parts => .ok (Regex.textOf true (.start :: (parts ++ [.finish])))
      | none => .error (.danglingEscape text) := by
  rw [translate, translateFrom_eq]
  cases partsOf escape text.toList with
  | none => rfl
  | some parts =>
    -- The flag and the two anchors are what is written around the parts.
    have around : Regex.textOf true (.start :: (parts ++ [.finish])) =
        "(?s)" ++ ("^" ++ (Regex.joinedText parts ++ ("$" ++ ""))) := by
      rw [Regex.textOf, if_pos rfl, Regex.joinedText, Regex.joinedText_append]
      rfl
    have front : "(?s)^" = "(?s)" ++ "^" := rfl
    simp only [Option.map_some, around, front, String.append_empty, String.append_assoc]

variable {text : String}

/-- A pattern that is compiled is compiled from the expression of its parts. -/
theorem exists_parts_of_compile {isFound : String → Bool}
    (compiled : compile text escape = .ok isFound) :
    ∃ parts, partsOf escape text.toList = some parts ∧
      Regex.Engine.compile (Regex.textOf true (.start :: (parts ++ [.finish]))) = .ok isFound := by
  unfold compile at compiled
  rw [translate_eq] at compiled
  cases read : partsOf escape text.toList with
  | none => simp [read] at compiled
  | some parts =>
    -- A reason that the engine gives would be passed on.
    simp only [read] at compiled
    refine ⟨parts, rfl, ?_⟩
    cases made : Regex.Engine.compile (Regex.textOf true (.start :: (parts ++ [.finish]))) with
    | ok other => simpa [made, Except.mapError] using compiled
    | error reason => simp [made, Except.mapError] at compiled

/-- A pattern that is read holds what its own text compiles to. -/
theorem compile_of_ofText {pattern : LikePattern} (read : ofText text escape = .ok pattern) :
    compile text escape = .ok pattern.isFound := by
  -- The match that makes the pattern has this equation at hand.
  unfold ofText at read
  split at read
  · rename_i isFound compiles
    cases read
    exact compiles
  · cases read

/-- The expression of a pattern is compiled exactly if it does not become too large. -/
theorem exists_compile_iff (documented : Regex.Documented) {expression : String}
    (written : translate text escape = .ok expression) :
    (∃ isFound, compile text escape = .ok isFound) ↔
      Regex.Engine.size expression ≤ Regex.sizeLimit := by
  have unfolded : compile text escape =
      (Regex.Engine.compile expression).mapError (.uncompiled text) := by rw [compile, written]
  rw [translate_eq] at written
  split at written <;> cases written
  -- The expression is one of those that are written in parts, which is what the limit is told of.
  rw [← documented.compiles_iff, unfolded]
  cases Regex.Engine.compile _ <;> simp [Except.mapError]

/-- A pattern that is read has parts, and it matches the texts that they match as a whole. -/
theorem exists_parts_of_ofText (documented : Regex.Documented) {pattern : LikePattern}
    (read : ofText text escape = .ok pattern) :
    ∃ parts, partsOf escape text.toList = some parts ∧ ∀ subject,
      pattern.isMatch subject = true ↔ Matches true (parts ++ [.finish]) [] subject.toList [] := by
  obtain ⟨parts, readParts, compiled⟩ := exists_parts_of_compile (compile_of_ofText read)
  refine ⟨parts, readParts, fun subject => ?_⟩
  -- The anchors leave a match of the whole text.
  rw [isMatch, documented.found_iff _ _ _ compiled, Regex.found_bounded_iff]

/-- A text matches a pattern exactly when it can be split into a piece for each position of the
pattern, as that is read from the left. -/
theorem isMatch_iff_splitsAlong (documented : Regex.Documented) {pattern : LikePattern}
    (read : ofText text escape = .ok pattern) (subject : String) :
    pattern.isMatch subject = true ↔
      ∃ pieces, SplitsAlong escape text.toList pieces ∧ pieces.flatten = subject.toList := by
  obtain ⟨parts, readParts, matched⟩ := exists_parts_of_ofText documented read
  -- What the parts match as a whole can be split along the pattern that they were made of.
  rw [matched, matches_iff_splitsAlong readParts]

end

/-- With `%` as the escape character, `%%_%_` is one percent sign, any character and an underscore,
and the text matches across a line end. -/
theorem isMatch_percent_escape :
    translate "%%_%_" (some '%') = .ok "(?s)^%._$" ∧
      ∃ pattern, ofText "%%_%_" (some '%') = .ok pattern ∧ pattern.isMatch "%\n_" = true := by
  refine ⟨by decide, ?_⟩
  -- The escaped signs stand for themselves, and the underscore between them takes the line break.
  have split : SplitsAlong (some '%') "%%_%_".toList [['%'], ['\n'], ['_']] :=
    .escaped rfl (.anyOne '\n' (by decide) (.escaped rfl .done))
  cases read : ofText "%%_%_" (some '%') with
  | ok pattern =>
    exact ⟨pattern, rfl,
      (isMatch_iff_splitsAlong Regex.plain_documented read "%\n_").2 ⟨_, split, rfl⟩⟩
  | error error =>
    have accepted : (ofText "%%_%_" (some '%')).isOk = true := by decide
    rw [read] at accepted
    cases accepted

end LikePattern

end MessageSelector
