import Mathlib.Data.List.Infix
import MessageSelector.Regex.Plain

/-! The engine that matches all ends of a text at once does what is documented of engines. -/

namespace MessageSelector

namespace Regex

namespace Plain

/-- A character that stands for itself is read as such. -/
theorem readParts?_escaped (read : List Part) (c : Char) (rest : List Char) :
    readParts? read (escaped c ++ rest) = readParts? (.one (.char c) :: read) rest := by
  by_cases isMark : isMeta c = true
  · simp [escaped, isMark, readParts?]
  · -- Each of the marks that are read as something else has a meaning of its own.
    have other {mark : Char} (meaning : isMeta mark = true) : c ≠ mark := by
      rintro rfl
      exact isMark meaning
    rw [escaped, if_neg isMark, List.singleton_append, readParts?, if_neg isMark]
    · exact fun _ _ same _ => other (by decide) same
    all_goals exact other (by decide)

/-- The text of a character is that character, escaped where it has to be. -/
theorem toList_text_char (c : Char) : (Atom.char c).text.toList = escaped c := by
  -- Escaping goes character by character, and here there is only one.
  show (escape (String.singleton c)).toList = escaped c
  simp [escape]

/-- An atom is read from its own text. -/
theorem readParts?_atom (read : List Part) (atom : Atom) (rest : List Char) :
    readParts? read (atom.text.toList ++ rest) = readParts? (.one atom :: read) rest := by
  -- A dot is read as itself, and any other character was escaped where it needs to be.
  cases atom with
  | dot => rfl
  | char c => rw [toList_text_char, readParts?_escaped]

/-- A part is read from its own text. -/
theorem readParts?_part (read : List Part) (part : Part) (rest : List Char) :
    readParts? read (part.text.toList ++ rest) = readParts? (part :: read) rest := by
  cases part with
  | start | finish => rfl
  | one atom => exact readParts?_atom read atom rest
  | many atom =>
    -- The atom is read first, and the star behind it repeats it.
    rw [Part.text, String.toList_append, List.append_assoc, readParts?_atom]
    rfl

/-- Parts are read from their own text. -/
theorem readParts?_joinedText (read parts : List Part) :
    readParts? read (joinedText parts).toList = some (read.reverse ++ parts) := by
  -- The parts are read one after the other, and collected in reverse.
  induction parts generalizing read with
  | nil => simp [joinedText, readParts?]
  | cons part parts ih => simp [joinedText, readParts?_part, ih]

/-- Parts are not written with a bracket in front, as a flag is. -/
theorem head?_joinedText (parts : List Part) : (joinedText parts).toList.head? ≠ some '(' := by
  have atomHead (atom : Atom) (rest : List Char) :
      (atom.text.toList ++ rest).head? ≠ some '(' := by
    cases atom with
    | dot => simp [Atom.text]
    | char c =>
      -- A bracket that stands for itself has an escape mark before it.
      rw [toList_text_char, escaped]
      split
      · simp
      · rename_i plain
        rintro ⟨⟩
        exact plain (by decide)
  cases parts with
  | nil => simp [joinedText]
  | cons part parts =>
    rw [joinedText, String.toList_append]
    cases part with
    | start | finish => simp [Part.text]
    | one atom => exact atomHead atom _
    | many atom =>
      rw [Part.text, String.toList_append, List.append_assoc]
      exact atomHead atom _

/-- An expression is read from its own text. -/
theorem readExpression?_textOf (dotAll : Bool) (parts : List Part) :
    readExpression? (textOf dotAll parts).toList = some (dotAll, parts) := by
  cases dotAll with
  | true => simp [textOf, readExpression?, readParts?_joinedText]
  | false =>
    -- Without the flag the parts begin at once, and not with its bracket.
    have noFlag := head?_joinedText parts
    rw [textOf, if_neg (by simp), readExpression?, readParts?_joinedText]
    · rfl
    · intro rest same
      rw [same] at noFlag
      exact noFlag rfl

variable {dotAll : Bool} {text : List Char}

/-- The ends of a text begin with a run of accepted characters and go on as `goesOn` tells. -/
def runs (accepts : Char → Bool) (goesOn : List Char → Bool) : List Char → Bool
  -- The shortest run is tried first, though only whether there is one matters.
  | [] => goesOn []
  | c :: rest => goesOn (c :: rest) || (accepts c && runs accepts goesOn rest)

/-- An end of a text of the given length begins with what a part takes and goes on as `goesOn`
tells. -/
def begins (dotAll : Bool) (part : Part) (length : Nat) (goesOn : List Char → Bool)
    (ending : List Char) : Bool :=
  match part, ending with
  -- The only end that nothing comes before is as long as the text.
  | .start, ending => ending.length == length && goesOn ending
  | .finish, ending => ending.isEmpty && goesOn ending
  | .one atom, c :: rest => atom.accepts dotAll c && goesOn rest
  | .one _, [] => false
  | .many atom, ending => runs (atom.accepts dotAll) goesOn ending

/-- The first end of a text is the text itself. -/
theorem tails_eq_cons (text : List Char) : text.tails = text :: text.tails.tail := by
  cases text <;> simp

/-- The first entry of a row is that of the whole text. -/
theorem headD_tails (text : List Char) (matched : List Char → Bool) :
    (text.tails.map matched).headD false = matched text := by
  -- The first of the tails is the text itself.
  rw [tails_eq_cons]
  rfl

/-- The last entry of a row is that of the empty end. -/
theorem getLastD_tails (text : List Char) (matched : List Char → Bool) :
    (text.tails.map matched).getLastD false = matched [] := by
  induction text with
  | nil => rfl
  -- The last tail is the empty one, for the text as for its rest.
  | cons c text ih =>
    rw [List.tails_cons, List.map_cons]
    rw [tails_eq_cons, List.map_cons] at ih ⊢
    exact ih

/-- An entry is set where a run of accepted characters leads to an entry that is. -/
theorem runRow_tails (accepts : Char → Bool) (text : List Char) (goesOn : List Char → Bool) :
    runRow accepts text (text.tails.map goesOn) = text.tails.map (runs accepts goesOn) := by
  induction text with
  | nil => simp [runRow, runs]
  -- The row of the rest is at hand, and its head says whether the run can go on.
  | cons c text ih =>
    rw [List.tails_cons, List.map_cons, runRow, ih, headD_tails]
    rfl

/-- Only for the whole text is an entry kept that an anchor asks to be at the start. -/
theorem startRow_tails (text : List Char) (goesOn : List Char → Bool) :
    (goesOn text :: text.map fun _ => false) =
      text.tails.map fun ending => ending.length == text.length && goesOn ending := by
  have shorter : ∀ ending ∈ text.tails.tail,
      (ending.length == text.length && goesOn ending) = false := by
    intro ending held
    -- Every end but the first is an end of what comes after the first character.
    cases text with
    | nil => simp at held
    | cons c text =>
      have short := ((List.mem_tails _ _).1 held).length_le
      rw [List.length_cons, beq_eq_false_iff_ne.2 (by omega), Bool.false_and]
  have count : text.tails.tail.length = text.length := by simp
  rw [tails_eq_cons, List.map_cons, List.map_congr_left shorter, List.map_const', List.map_const',
    count]
  simp

/-- A row tells of each end of the text whether it begins with what the part takes and goes on to
an end that the row before it tells of. -/
theorem partRow_tails (part : Part) (text : List Char) (goesOn : List Char → Bool) :
    partRow dotAll part text (text.tails.map goesOn) =
      text.tails.map (begins dotAll part text.length goesOn) := by
  cases part with
  | start =>
    rw [partRow, headD_tails, startRow_tails]
    rfl
  | finish =>
    rw [partRow, getLastD_tails]
    generalize text.length = length
    -- Of all ends the last one is empty.
    induction text with
    | nil => simp [begins]
    | cons c text ih => simpa [begins] using ih
  | one atom =>
    generalize text.length = length
    -- The entries move by one character of the text, so the induction is on the text.
    induction text with
    | nil => simp [partRow, begins]
    | cons c text ih =>
      simp only [partRow] at ih ⊢
      rw [List.tails_cons, List.map_cons, List.map_cons, List.tail_cons, ← ih]
      -- The entry that the first character moves past is that of the rest of the text.
      rw [tails_eq_cons text]
      simp [begins]
  | many atom => exact runRow_tails _ _ _

/-- The rows are filled with what matching from the left finds at each end of the text. -/
theorem foldr_partRow (parts : List Part) (text : List Char) :
    parts.foldr (fun part later => partRow dotAll part text later)
        (true :: text.map fun _ => true) =
      text.tails.map
        (parts.foldr (fun part goesOn => begins dotAll part text.length goesOn) fun _ => true) := by
  -- The parts are worked off from the last, and each row is the answer at every tail.
  induction parts with
  | nil => simp [List.map_const', List.replicate_succ]
  | cons part parts ih => rw [List.foldr_cons, ih, partRow_tails, List.foldr_cons]

/-- A run of accepted characters at the front of a text leads to what is left behind it. -/
theorem runs_iff {accepts : Char → Bool} {goesOn : List Char → Bool} {text : List Char} :
    runs accepts goesOn text = true ↔
      ∃ run rest, text = run ++ rest ∧ (∀ c ∈ run, accepts c = true) ∧ goesOn rest = true := by
  induction text with
  | nil => simp [runs]
  | cons c text ih =>
    rw [runs, Bool.or_eq_true, Bool.and_eq_true, ih]
    constructor
    · rintro (goes | ⟨accepted, run, rest, rfl, all, goes⟩)
      · exact ⟨[], c :: text, rfl, by simp, goes⟩
      · exact ⟨c :: run, rest, rfl, by simpa [accepted] using all, goes⟩
    · rintro ⟨_ | ⟨d, run⟩, rest, same, all, goes⟩
      · exact .inl (by simpa [same] using goes)
      · -- The run has the first character, and the rest of the run is one of the rest.
        obtain ⟨rfl, rfl⟩ := List.cons.inj same
        exact .inr ⟨all c (by simp), run, rest, rfl, fun d held => all d (by simp [held]), goes⟩

/-- An end of a text begins with a part when there is a piece for the part at its front. -/
theorem begins_iff {part : Part} {before ending : List Char} {goesOn : List Char → Bool} :
    begins dotAll part (before ++ ending).length goesOn ending = true ↔
      ∃ piece rest, ending = piece ++ rest ∧ part.Takes dotAll before piece rest ∧
        goesOn rest = true := by
  -- An anchor takes nothing, an atom takes one character, and a run takes as many as it likes.
  cases part with
  | start => simp [begins, Part.Takes]
  | finish => cases ending <;> simp [begins, Part.Takes]
  | one atom => cases ending <;> simp [begins, Part.Takes]
  | many atom => exact runs_iff

/-- Matching from the left finds a match that begins at an end of a text whenever there is one. -/
theorem foldr_begins_iff {parts : List Part} {before ending : List Char} :
    parts.foldr (fun part goesOn => begins dotAll part (before ++ ending).length goesOn)
        (fun _ => true) ending = true ↔
      ∃ taken after, ending = taken ++ after ∧ Matches dotAll parts before taken after := by
  induction parts generalizing before ending with
  | nil => simp [Matches]
  | cons part parts ih =>
    rw [List.foldr_cons, begins_iff]
    constructor
    · rintro ⟨piece, rest, rfl, takes, goes⟩
      -- What comes before the rest of the parts is longer by the piece of this part.
      rw [← List.append_assoc] at goes
      obtain ⟨taken, after, rfl, found⟩ := ih.1 goes
      exact ⟨piece ++ taken, after, by simp, piece, taken, rfl, takes, found⟩
    · rintro ⟨_, after, rfl, piece, taken, rfl, takes, found⟩
      refine ⟨piece, taken ++ after, by simp, takes, ?_⟩
      have goes := ih.2 ⟨taken, after, rfl, found⟩
      simpa using goes

/-- The rows tell whether the text has a match. -/
theorem isFound_iff (parts : List Part) : isFound dotAll parts text = true ↔
    Found dotAll parts text := by
  rw [isFound, foldr_partRow, List.any_map, List.any_eq_true]
  simp only [Function.comp_apply, id_eq, List.mem_tails]
  constructor
  -- A tail where the parts begin divides the text into what stands before, inside and behind.
  · rintro ⟨ending, ⟨before, rfl⟩, goes⟩
    obtain ⟨taken, after, rfl, found⟩ := foldr_begins_iff.1 goes
    exact ⟨before, taken, after, by simp, found⟩
  -- The other way round, what stands before is dropped to give the tail.
  · rintro ⟨before, taken, after, rfl, found⟩
    refine ⟨taken ++ after, ⟨before, by simp⟩, ?_⟩
    rw [List.append_assoc]
    exact foldr_begins_iff.2 ⟨taken, after, rfl, found⟩

/-- An expression is compiled where its size is within the limit. -/
theorem compile_textOf (dotAll : Bool) (parts : List Part) :
    compile (textOf dotAll parts) =
      if partsSize parts ≤ sizeLimit then .ok fun text => isFound dotAll parts text.toList
      else .error s!"Compiled regex exceeds size limit of {sizeLimit} bytes." := by
  -- The expression is read back as the parts it was written from.
  rw [compile, readExpression?_textOf]

/-- The size of an expression is that of its parts. -/
theorem size_textOf (dotAll : Bool) (parts : List Part) :
    size (textOf dotAll parts) = partsSize parts := by
  -- The expression is read back as the parts it was written from.
  rw [size, readExpression?_textOf]

end Plain

/-- The engine does what is documented of engines. -/
theorem plain_documented : @Documented plain := by
  constructor
  · intro dotAll parts isFound compiled text
    -- Only one test can be what the expression compiles to.
    have made : Plain.compile (textOf dotAll parts) = .ok isFound := compiled
    rw [Plain.compile_textOf] at made
    split at made <;> cases made
    exact Plain.isFound_iff parts
  · intro dotAll parts
    show (∃ isFound, Plain.compile (textOf dotAll parts) = .ok isFound) ↔
      Plain.size (textOf dotAll parts) ≤ sizeLimit
    rw [Plain.compile_textOf, Plain.size_textOf]
    split <;> simp_all

end Regex

end MessageSelector
