import MessageSelector.Proofs.Expr.Chain
import MessageSelector.Proofs.Expr.Comparison
import MessageSelector.Proofs.Expr.Pattern
import MessageSelector.Proofs.LikePattern
import MessageSelector.Regex.Plain

/-! Membership, pattern and range tests, and the longer conditions that say the same. -/

namespace MessageSelector

/-- A pattern without wildcards and without an escape character has one piece for each of its own
characters. -/
theorem LikePattern.splitsAlong_plain_iff {text : List Char} {pieces : List (List Char)}
    (noRun : '%' ∉ text) (noOne : '_' ∉ text) :
    SplitsAlong none text pieces ↔ pieces = text.map ([·]) := by
  -- Each character is read for itself, as it can be neither escaped nor a wildcard.
  induction text generalizing pieces with
  | nil => exact splitsAlong_nil_iff
  | cons c text ih =>
    have rest {more : List (List Char)} : SplitsAlong none text more ↔ more = text.map ([·]) :=
      ih (List.not_mem_of_not_mem_cons noRun) (List.not_mem_of_not_mem_cons noOne)
    constructor
    · rintro (_ | ⟨marked, _⟩ | _ | _ | ⟨_, _, _, split⟩)
      · cases marked
      · exact absurd List.mem_cons_self noOne
      · exact absurd List.mem_cons_self noRun
      · rw [rest.1 split, List.map_cons]
    · rintro rfl
      exact .itself nofun (List.ne_of_not_mem_cons noOne).symm
        (List.ne_of_not_mem_cons noRun).symm (rest.2 rfl)

/-- A value that is a string is equal to a text when that is the string. -/
theorem Equality.compute_strings_text (value : Option Value) (text : String) :
    strings.compute value (some (.string text)) = stringTest value (· == text) := by
  -- With a string on the right, only the left operand can leave the outcome open.
  rw [compute, stringOperand_eq_some_iff.2 rfl, stringTest]
  cases stringOperand value <;> rfl

/-- Settled conditions of which one suffices are settled together. -/
theorem Truth.or_ofBool (left right : Bool) :
    Truth.or (.ofBool left) (.ofBool right) = .ofBool (left || right) := by
  -- Settled truths are combined as booleans are.
  cases left <;> cases right <;> rfl

/-- Settled conditions of which each is needed are settled together. -/
theorem Truth.andThen_ofBool (left right : Bool) :
    (Truth.ofBool left).andThen (.ofBool right) = .ofBool (left && right) := by
  -- Settled truths are combined as booleans are.
  cases left <;> cases right <;> rfl

/-- A test of a string for one text after another is a test for all of these texts. -/
theorem Connective.outcomeOf_stringTest (value : Option Value) {texts : List String}
    (some : texts ≠ []) :
    outcomeOf .or (texts.map fun text => stringTest value (· == text)) =
      stringTest value texts.contains := by
  unfold stringTest
  cases stringOperand value with
  | none =>
    -- For any other value all the tests are unknown, and there is at least one of them.
    obtain ⟨text, rest, rfl⟩ := List.exists_cons_of_ne_nil some
    simp [outcomeOf]
  | some content =>
    -- The tests of a string are all settled.
    clear some
    induction texts with
    | nil => rfl
    | cons text rest ih =>
      rw [List.map_cons, outcomeOf_cons, ih]
      exact Truth.or_ofBool _ _

/-- A range test is two comparisons of which both are needed, unless it is unknown. Then some
operand is no number, and the comparisons do not both hold. -/
theorem rangeTest_cases (value lower upper : Option Value) :
    let bounds := (Comparison.greaterEqual.outcome value lower).andThen
      (Comparison.lessEqual.outcome value upper)
    rangeTest value lower upper = bounds ∨
      rangeTest value lower upper = .unknown ∧ bounds ≠ .yes := by
  intro bounds
  unfold rangeTest
  split
  · rename_i v l u first second third
    -- No operand of three numbers forces an outcome, and the bounds are compared at once.
    left
    rw [← comparisonOperand_eq_ok_iff] at first second third
    simp only [bounds, Comparison.outcome, first, second, third]
    exact (Truth.andThen_ofBool _ _).symm
  · rename_i noNumbers
    refine .inr ⟨rfl, ?_⟩
    intro holds
    -- Both comparisons would have to hold, which they do of numbers only.
    have above : Comparison.greaterEqual.outcome value lower = .yes := by
      simp only [bounds] at holds
      cases outcome : Comparison.greaterEqual.outcome value lower <;> simp_all [Truth.andThen]
    have below : Comparison.lessEqual.outcome value upper = .yes := by
      simpa [bounds, above, Truth.andThen] using holds
    obtain ⟨v, l, first, second, -⟩ := Comparison.outcome_eq_yes_iff.1 above
    obtain ⟨_, u, -, third, -⟩ := Comparison.outcome_eq_yes_iff.1 below
    exact noNumbers v l u first second third

namespace Expr

section

variable [Regex.Engine]

/-- A chain joins at least one operand. -/
theorem Joins.ne_nil {op : Connective} {operands : List Expr} {tree : Expr}
    (joins : Joins op operands tree) : operands ≠ [] := by
  -- A derivation has at least one leaf, and joining only adds leaves.
  induction joins with
  | operand tree => simp
  | connect first second ihFirst ihSecond => simp [ihFirst]

/-- The equality of a tree and a text. -/
def equalsText (operand : Expr) (text : String) : Expr :=
  .equal .strings operand (.literal (.string text))

/-- The equality of a tree and a text is a test of the value of the tree. -/
theorem truth_equalsText (operand : Expr) (text : String) (mapping : Mapping) :
    (operand.equalsText text).truth mapping = stringTest (operand.eval mapping) (· == text) :=
  -- The text is a string operand on the right of a typed equality.
  Equality.compute_strings_text _ _

/-- A membership test is a chain of equalities for the members, in any order and any number. -/
theorem truth_within {operand tree : Expr} {items alternatives : List String}
    (same : ∀ text, text ∈ alternatives ↔ text ∈ items)
    (joins : Joins .or (alternatives.map operand.equalsText) tree) (mapping : Mapping) :
    (within operand (.ofList items)).truth mapping = tree.truth mapping := by
  -- Both lists hold the same texts, and no alternative is missing because they are joined to a
  -- tree.
  have some : alternatives ≠ [] := by simpa using joins.ne_nil
  have members : (StringSet.ofList items).contains = alternatives.contains := by
    funext text
    simp [StringSet.contains, StringSet.ofList, same]
  calc (within operand (.ofList items)).truth mapping
      = stringTest (operand.eval mapping) (StringSet.ofList items).contains := rfl
    _ = stringTest (operand.eval mapping) alternatives.contains := by rw [members]
    _ = Connective.outcomeOf .or
          (alternatives.map fun text => stringTest (operand.eval mapping) (· == text)) :=
        (Connective.outcomeOf_stringTest _ some).symm
    _ = Connective.outcomeOf .or
          ((alternatives.map operand.equalsText).map fun equality => equality.truth mapping) := by
        simp only [List.map_map, Function.comp_def, truth_equalsText]
    _ = tree.truth mapping := (joins.truthWith_eq mapping.provider ()).symm

/-- A text without wildcards is the only one that a pattern of it matches. -/
theorem isMatch_eq_of_plain (documented : Regex.Documented) {text : String}
    (noRun : '%' ∉ text.toList) (noOne : '_' ∉ text.toList) {pattern : LikePattern}
    (read : LikePattern.ofText text none = .ok pattern) (subject : String) :
    pattern.isMatch subject = (subject == text) := by
  obtain ⟨parts, readParts, matched⟩ := LikePattern.exists_parts_of_ofText documented read
  rw [Bool.eq_iff_iff, matched, LikePattern.matches_iff_splitsAlong readParts]
  -- The pieces are the characters of the pattern, and together they are all of it.
  simp only [LikePattern.splitsAlong_plain_iff noRun noOne, exists_eq_left, beq_iff_eq]
  rw [← List.flatMap_def, List.flatMap_singleton', String.toList_inj, eq_comm]

/-- Without an escape clause a test is made exactly of the patterns that compile. -/
theorem exists_patternTest_iff {operand : Expr} {text : String} :
    (∃ tree, patternTest operand text none = .ok tree) ↔
      ∃ isFound, LikePattern.compile text none = .ok isFound := by
  -- The test carries nothing but the pattern, so it exists when the pattern compiles.
  constructor
  · rintro ⟨tree, made⟩
    obtain ⟨pattern, -, -, read, noEscape⟩ := exists_pattern_of_patternTest made
    rw [noEscape.2 rfl] at read
    exact ⟨_, LikePattern.compile_of_ofText read⟩
  · rintro ⟨isFound, compiles⟩
    exact exists_patternTest_of_compile compiles rfl operand

/-- A pattern test without wildcards is an equality with the text of the pattern. -/
theorem truth_patternTest_plain (documented : Regex.Documented) {operand tree : Expr}
    {text : String} (noRun : '%' ∉ text.toList) (noOne : '_' ∉ text.toList)
    (made : patternTest operand text none = .ok tree) (mapping : Mapping) :
    tree.truth mapping = (operand.equalsText text).truth mapping := by
  obtain ⟨pattern, visible, rfl, read, noEscape⟩ := exists_pattern_of_patternTest made
  rw [noEscape.2 rfl] at read
  rw [truth_equalsText]
  show stringTest (operand.eval mapping) pattern.isMatch = _
  -- Both sides test the value of the operand for the same one text.
  rw [funext (isMatch_eq_of_plain documented noRun noOne read)]

/-- The outcome of a range test is told by the values of its operands. -/
theorem truth_between (value lower upper : Expr) (mapping : Mapping) :
    (between value lower upper).truth mapping =
      rangeTest (value.eval mapping) (lower.eval mapping) (upper.eval mapping) :=
  -- The range test is the whole meaning of the node.
  rfl

/-- The comparisons that a range test stands for. -/
def inBounds (value lower upper : Expr) : Expr :=
  .connect .and (.compare .greaterEqual value lower) (.compare .lessEqual value upper)

/-- A range test has the outcome of its two comparisons, unless it is unknown. -/
theorem truth_between_cases (value lower upper : Expr) (mapping : Mapping) :
    (between value lower upper).truth mapping = (inBounds value lower upper).truth mapping ∨
      (between value lower upper).truth mapping = .unknown ∧
        (inBounds value lower upper).truth mapping ≠ .yes := by
  -- The expansion is a conjunction, which is settled by its first bound that fails.
  have bounds : (inBounds value lower upper).truth mapping =
      ((compare .greaterEqual value lower).truth mapping).andThen
        ((compare .lessEqual value upper).truth mapping) :=
    truthWith_connect mapping.provider () .and _ _
  rw [bounds, truth_between, truth_compare, truth_compare]
  exact rangeTest_cases _ _ _

/-- Membership, pattern and range tests have the outcomes of the conditions that say the same. For
membership this is a chain of equalities in any order and with any repetitions, and for a range two
comparisons; but these can be false where the range test is unknown. A pattern without wildcards
makes a test unless its expression is too large, and the test is an equality. -/
theorem truth_expansions (mapping : Mapping) :
    (∀ (operand tree : Expr) (items alternatives : List String),
        (∀ text, text ∈ alternatives ↔ text ∈ items) →
        Joins .or (alternatives.map operand.equalsText) tree →
          (within operand (.ofList items)).truth mapping = tree.truth mapping) ∧
      (Regex.Documented → ∀ (operand : Expr) (text : String),
        '%' ∉ text.toList → '_' ∉ text.toList →
        (∃ expression, LikePattern.translate text none = .ok expression ∧
          ((∃ tree, patternTest operand text none = .ok tree) ↔
            Regex.Engine.size expression ≤ Regex.sizeLimit)) ∧
        ∀ tree, patternTest operand text none = .ok tree →
          tree.truth mapping = (operand.equalsText text).truth mapping) ∧
      ∀ value lower upper : Expr,
        ((between value lower upper).truth mapping = .yes ↔
            (inBounds value lower upper).truth mapping = .yes) ∧
          ((between value lower upper).truth mapping = .no →
            (inBounds value lower upper).truth mapping = .no) ∧
          ((inBounds value lower upper).truth mapping = .unknown →
            (between value lower upper).truth mapping = .unknown) := by
  refine ⟨?_, ?_, ?_⟩
  · intro operand tree items alternatives same joins
    exact truth_within same joins mapping
  · intro documented operand text noRun noOne
    obtain ⟨expression, written⟩ := LikePattern.exists_translate_none text
    exact ⟨⟨expression, written,
        exists_patternTest_iff.trans (LikePattern.exists_compile_iff documented written)⟩,
      fun tree made => truth_patternTest_plain documented noRun noOne made mapping⟩
  · intro value lower upper
    rcases truth_between_cases value lower upper mapping with same | ⟨undecided, fails⟩
    · rw [same]
      exact ⟨Iff.rfl, id, id⟩
    · -- An unknown range test promises nothing but that the comparisons do not both hold.
      rw [undecided]
      simp [fails]

end

/-- With `a` bound to a string, `a IN ('y', 'x', 'y')` and `a LIKE 'x.'` have the outcomes of
`a = 'x' OR a = 'y'` and `a = 'x.'`. Between 1 and 2, not-a-number is not and what a string negates
to is unknown, by the range test and by its comparisons. -/
theorem truth_expansions_bound :
    let a : Expr := .reference ⟨"a", by decide, by decide⟩
    let mapping : Mapping := Std.HashMap.insert ∅ "a" (.string "x.")
    let zero : Expr := .literal (.long "0" 0 (by decide))
    let one : Expr := .literal (.long "1" 1 (by decide))
    let two : Expr := .literal (.long "2" 2 (by decide))
    let notANumber : Expr := .arithmetic .divide zero zero
    let negated : Expr := .negate (.literal (.string "x"))
    (within a (.ofList ["y", "x", "y"])).truth mapping =
        (connect .or (a.equalsText "x") (a.equalsText "y")).truth mapping ∧
      LikePattern.translate "x." none = .ok "(?s)^x\\.$" ∧
      (∃ tree, patternTest a "x." none = .ok tree ∧
        tree.truth mapping = (a.equalsText "x.").truth mapping) ∧
      (between notANumber one two).truth mapping = .no ∧
      (inBounds notANumber one two).truth mapping = .no ∧
      (inBounds negated one two).truth mapping = .unknown ∧
      (between negated one two).truth mapping = .unknown := by
  intro a mapping zero one two notANumber negated
  -- A member given twice, a pattern with a dot, and two ranges over what is no number.
  obtain ⟨membership, pattern, bounds⟩ := truth_expansions mapping
  obtain ⟨⟨expression, written, made⟩, same⟩ :=
    pattern Regex.plain_documented a "x." (by decide) (by decide)
  have known : LikePattern.translate "x." none = .ok "(?s)^x\\.$" := by decide
  cases known.symm.trans written
  obtain ⟨tree, test⟩ := made.2 (by decide)
  have joins : Joins .or (["x", "y"].map a.equalsText)
      (connect .or (a.equalsText "x") (a.equalsText "y")) :=
    .connect (.operand _) (.operand _)
  have fails : (between notANumber one two).truth mapping = .no := by decide
  have undecided : (inBounds negated one two).truth mapping = .unknown := by decide
  exact ⟨membership a _ ["y", "x", "y"] ["x", "y"] (by simp [or_comm]) joins,
    known, ⟨tree, test, same tree test⟩, fails, (bounds notANumber one two).2.1 fails, undecided,
    (bounds negated one two).2.2 undecided⟩

end Expr

end MessageSelector
