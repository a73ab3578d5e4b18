import Mathlib.Algebra.Group.Nat.Even
import Mathlib.Data.List.DropRight
import MessageSelector.Expr.Like

/-! Pattern tests: which patterns are read, and that a test is made of the pattern it writes. -/

namespace MessageSelector

/-- How often the character comes at the end of a text, with no other character behind it. -/
def trailingRun (c : Char) (text : List Char) : Nat :=
  (text.rtakeWhile (· == c)).length

/-- A text without characters ends with no run. -/
@[simp] theorem trailingRun_nil (c : Char) : trailingRun c [] = 0 :=
  rfl

/-- A visible character is an escape clause for itself. -/
theorem LikePattern.readEscape_singleton {c : Char} (visible : isBlank c = false) :
    readEscape (String.singleton c) = .ok c := by
  -- There is no blank to trim off at either end.
  have trimmed : trimBlanks (String.singleton c).toList = [c] := by
    simp [trimBlanks, skipBlanks, visible]
  rw [readEscape, trimmed]

variable [Regex.Engine]

namespace LikePattern

/-- Without an escape character every text can be written as an expression. -/
theorem isSome_translateFrom_none (out : String) (text : List Char) :
    (translateFrom none out text).isSome = true := by
  -- Only an escape character can be left over, and there is none.
  fun_induction translateFrom none out text with
  | case1 => rfl
  | case2 out c dangling => cases dangling
  | case3 out c escaped next rest ih => cases escaped
  | case4 out c rest plain ih => exact ih

/-- Without an escape character every pattern has an expression. -/
theorem exists_translate_none (text : String) :
    ∃ expression, translate text none = .ok expression := by
  have scanned := isSome_translateFrom_none "(?s)^" text.toList
  obtain ⟨out, written⟩ := Option.isSome_iff_exists.1 scanned
  -- The anchor at the end is put behind what is written of the text.
  exact ⟨out ++ "$", by rw [translate, written]⟩

/-- A pattern is read from its own text. -/
theorem ofText_text (pattern : LikePattern) :
    ofText pattern.text pattern.escape = .ok pattern := by
  obtain ⟨text, escape, isFound, compiles⟩ := pattern
  -- The pattern holds what its text compiles to, so reading again can give nothing else.
  unfold ofText
  split
  · rename_i found same
    cases compiles.symm.trans same
    rfl
  · rename_i error refused
    cases compiles.symm.trans refused

end LikePattern

/-- The pattern test that an operand, the text of a pattern and an escape clause make. -/
def patternTest (operand : Expr) (pattern : String) (clause : Option String) :
    Except LikeError Expr :=
  -- Both texts are given as string literals, the only constants that the reader accepts.
  Expr.likeOf operand (.literal (.string pattern))
    (clause.map fun escape => .literal (.string escape))

/-- A clause gives the escape character that its text stands for. -/
theorem Expr.readEscapeClause_of_readEscape {text : String} {c : Char}
    (read : LikePattern.readEscape text = .ok c)
    (visible : (some c).all (fun c => !isBlank c) = true) :
    readEscapeClause (some (.literal (.string text))) = .ok ⟨some c, visible⟩ := by
  -- The clause is a string, so its outcome is that of reading the string.
  have value : stringOperand ((Expr.literal (.string text)).eval ∅) = some text := rfl
  simp only [readEscapeClause, value]
  split
  · rename_i error refused
    rw [read] at refused
    cases refused
  · rename_i d found
    cases read.symm.trans found
    rfl

/-- An escape clause of a visible character stands for that character, and none for none. -/
theorem readEscapeClause_singleton (escape : Option Char)
    (visible : escape.all (fun c => !isBlank c) = true) :
    Expr.readEscapeClause ((escape.map String.singleton).map fun text => .literal (.string text)) =
      .ok ⟨escape, visible⟩ := by
  -- A visible character alone is its own trimmed text.
  cases escape with
  | none => rfl
  | some c =>
    have read := LikePattern.readEscape_singleton (c := c) (by simpa using visible)
    exact Expr.readEscapeClause_of_readEscape read visible

/-- A pattern and a clause that gives its escape character make the test of that pattern. -/
theorem Expr.likeOf_of_readEscapeClause (pattern : LikePattern) {clause : Option Expr}
    {visible : pattern.escape.all (fun c => !isBlank c) = true}
    (given : readEscapeClause clause = .ok ⟨pattern.escape, visible⟩) (operand : Expr) :
    likeOf operand (.literal (.string pattern.text)) clause =
      .ok (.like operand pattern visible) := by
  have value : stringOperand ((Expr.literal (.string pattern.text)).eval ∅) = some pattern.text :=
    rfl
  have read := pattern.ofText_text
  simp only [likeOf, value, given]
  -- The pattern compiles again from its own text, and to the same pattern.
  split
  · rename_i error refused
    rw [read] at refused
    cases refused
  · rename_i again found
    cases read.symm.trans found
    rfl

/-- A pattern and its escape character make the test of that pattern. -/
theorem patternTest_text (operand : Expr) (pattern : LikePattern)
    (visible : pattern.escape.all (fun c => !isBlank c) = true) :
    patternTest operand pattern.text (pattern.escape.map String.singleton) =
      .ok (.like operand pattern visible) :=
  -- The text and the escape character of a pattern are enough to make it again.
  Expr.likeOf_of_readEscapeClause pattern
    (readEscapeClause_singleton pattern.escape visible) operand

/-- A clause is read as an escape character, and no clause as none. -/
theorem Expr.eq_none_iff_of_readEscapeClause {clause : Option Expr} {escape : VisibleEscape}
    (given : readEscapeClause clause = .ok escape) : escape.1 = none ↔ clause = none := by
  unfold readEscapeClause at given
  split at given
  · cases given
    simp
  · -- A clause that gives no string is refused, and so is one that gives no character.
    split at given
    · cases given
    · split at given <;> cases given
      simp

/-- A pattern test tests its operand with the pattern that is read, which has an escape character
where the test has a clause. -/
theorem exists_pattern_of_patternTest {operand tree : Expr} {text : String} {clause : Option String}
    (made : patternTest operand text clause = .ok tree) :
    ∃ pattern visible, tree = .like operand pattern visible ∧
      LikePattern.ofText text pattern.escape = .ok pattern ∧
      (pattern.escape = none ↔ clause = none) := by
  unfold patternTest Expr.likeOf at made
  split at made
  · cases made
  · rename_i content value
    obtain rfl : text = content := Option.some.inj value
    split at made
    · cases made
    · rename_i escape given
      split at made
      · cases made
      · rename_i pattern read
        cases made
        -- The pattern keeps the escape character that the clause was read as.
        have kept := LikePattern.escape_eq_of_ofText read
        refine ⟨pattern, _, rfl, by rw [kept]; exact read, ?_⟩
        rw [kept, Expr.eq_none_iff_of_readEscapeClause given, Option.map_eq_none_iff]

/-- A pattern that compiles makes a test, with the clause of an escape character that can be
seen. -/
theorem exists_patternTest_of_compile {text : String} {escape : Option Char}
    {isFound : String → Bool} (compiles : LikePattern.compile text escape = .ok isFound)
    (visible : escape.all (fun c => !isBlank c) = true) (operand : Expr) :
    ∃ tree, patternTest operand text (escape.map String.singleton) = .ok tree :=
  -- The compiled pattern itself is the one that the test is made of.
  ⟨_, patternTest_text operand ⟨text, escape, isFound, compiles⟩ visible⟩

end MessageSelector
