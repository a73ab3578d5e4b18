import MessageSelector.Expr.Evaluation
import MessageSelector.Regex.Plain

/-! Questions: which identifiers an evaluation asks for, and that only their answers count. -/

namespace MessageSelector

namespace Asked

variable {κ κ' α β : Type} (provider : Provider κ) (token : κ) (other : Provider κ') (again : κ')

/-- Where another provider gives the same answers to the questions of the first evaluation, the
second one asks for the same identifiers and comes to the same result. -/
def RepeatedBy (first : Asked κ α) (second : Asked κ' α) : Prop :=
  -- Only the answers to questions that were asked have to agree.
  (∀ question ∈ first.questions,
      other question.identifier again = provider question.identifier token) →
    second.questions.map Question.identifier = first.questions.map Question.identifier ∧
      second.result = first.result

namespace RepeatedBy

variable {provider token other again}

/-- Results that need no questions repeat themselves. -/
theorem pure (value : α) : RepeatedBy provider token other again (pure value) (pure value) :=
  fun _ => ⟨rfl, rfl⟩

/-- A question is repeated, and its answer with it. -/
theorem ask (identifier : Identifier) :
    RepeatedBy provider token other again (provider.ask token identifier)
      (other.ask again identifier) := by
  -- The only question is the one asked, so the answers agree on it.
  intro agree
  exact ⟨rfl, agree ⟨identifier, token⟩ (List.mem_singleton_self _)⟩

/-- Evaluations in turn are repeated when each of them is. -/
theorem bind {first : Asked κ α} {second : Asked κ' α} {next : α → Asked κ β}
    {nextSecond : α → Asked κ' β} (repeated : RepeatedBy provider token other again first second)
    (onward : ∀ result, RepeatedBy provider token other again (next result) (nextSecond result)) :
    RepeatedBy provider token other again (first >>= next) (second >>= nextSecond) := by
  intro agree
  -- With the same result of the first evaluation the second one starts out alike.
  obtain ⟨agreeFirst, agreeNext⟩ := List.forall_mem_append.1 agree
  obtain ⟨sameQuestions, sameResult⟩ := repeated agreeFirst
  obtain ⟨sameOnward, sameEnd⟩ := onward first.result agreeNext
  simp [sameResult, sameQuestions, sameOnward, sameEnd]

end RepeatedBy

end Asked

/-- A comparison goes on from a number. -/
theorem comparisonOperand_of_number? {value : Option Value} {number : Number}
    (reads : value.bind Value.number? = some number) :
    comparisonOperand value = .ok number.toDouble := by
  -- A number is a comparable operand, and no other value reads as a number.
  cases value with
  | none => cases reads
  | some held =>
    cases held with
    | number n =>
      cases reads
      rfl
    | _ => cases reads

/-- A comparison is settled by anything that is no number. -/
theorem exists_forced_of_number?_none {value : Option Value}
    (reads : value.bind Value.number? = none) :
    ∃ forced, comparisonOperand value = .error forced := by
  -- Which truth is forced depends on the kind of value, so the kinds are gone through.
  cases value with
  | none => exact ⟨_, rfl⟩
  | some held =>
    cases held with
    | number n => cases reads
    | truth truth => cases truth <;> exact ⟨_, rfl⟩
    | boolean flag => exact ⟨_, rfl⟩
    | string text => exact ⟨_, rfl⟩

section

variable [Regex.Engine]

/-- What a left operand has to come to for the right operand beside it to be evaluated. -/
inductive Guard where
  -- The three guards are those of comparisons, conjunctions and disjunctions.
  | number (left : Expr)
  | holds (left : Expr)
  | holdsNot (left : Expr)

/-- The left operand comes to what the guard asks of it, with the values of a provider. -/
def Guard.isOpen {κ : Type} (provider : Provider κ) (token : κ) : Guard → Bool
  -- A guard looks at the left operand alone, which has been evaluated by then.
  | number left => ((left.evalWith provider token).bind Value.number?).isSome
  | holds left => left.truthWith provider token == .yes
  | holdsNot left => left.truthWith provider token != .yes

/-- An identifier at a leaf of a tree, with the guards of the right operands that it stands in. -/
structure Occurrence where
  -- The outermost guard comes first, since it is decided first.
  identifier : Identifier
  guards : List Guard

namespace Occurrence

variable {κ : Type} (provider : Provider κ) (token : κ)

/-- The occurrence in a right operand that has a guard of its own. -/
def behind (guard : Guard) (occurrence : Occurrence) : Occurrence :=
  { occurrence with guards := guard :: occurrence.guards }

/-- No guard keeps an evaluation from the occurrence. -/
def isReached (occurrence : Occurrence) : Bool :=
  occurrence.guards.all (·.isOpen provider token)

/-- The questions for those of the occurrences that are reached, in their order. -/
def reachedQuestions (occurrences : List Occurrence) : List (Question κ) :=
  -- The token is that of the evaluation, so it is the same in all of the questions.
  (occurrences.filter (·.isReached provider token)).map fun occurrence =>
    ⟨occurrence.identifier, token⟩

@[simp] theorem reachedQuestions_append (first second : List Occurrence) :
    reachedQuestions provider token (first ++ second) =
      reachedQuestions provider token first ++ reachedQuestions provider token second := by
  -- Whether an occurrence is reached does not depend on its neighbours.
  simp [reachedQuestions]

/-- Behind a guard everything is reached as before, or nothing is. -/
@[simp] theorem reachedQuestions_behind (guard : Guard) (occurrences : List Occurrence) :
    reachedQuestions provider token (occurrences.map (behind guard)) =
      if guard.isOpen provider token then reachedQuestions provider token occurrences else [] := by
  -- A closed guard hides everything behind it, and an open one changes nothing.
  cases opened : guard.isOpen provider token <;>
    simp [reachedQuestions, List.filter_map, Function.comp_def, isReached, behind, opened]

end Occurrence

namespace Expr

/-- The leaves of a tree that are identifiers, from left to right, with their guards. -/
def guardedOccurrences : Expr → List Occurrence
  -- Only comparisons and connectives can leave their right operand out.
  | literal _ => []
  | reference identifier => [⟨identifier, []⟩]
  | arithmetic _ left right | equal _ left right =>
    left.guardedOccurrences ++ right.guardedOccurrences
  | compare _ left right =>
    left.guardedOccurrences ++ right.guardedOccurrences.map (.behind (.number left))
  | connect .and left right =>
    left.guardedOccurrences ++ right.guardedOccurrences.map (.behind (.holds left))
  | connect .or left right =>
    left.guardedOccurrences ++ right.guardedOccurrences.map (.behind (.holdsNot left))
  | negate operand | not operand | within operand _ | like operand _ _ | isNull operand =>
    operand.guardedOccurrences
  | between value lower upper =>
    value.guardedOccurrences ++ lower.guardedOccurrences ++ upper.guardedOccurrences

/-- Guards take no identifier away from a tree and add none. -/
theorem map_guardedOccurrences (tree : Expr) :
    tree.guardedOccurrences.map Occurrence.identifier = tree.occurrences := by
  -- Putting an occurrence behind a guard keeps its identifier.
  have behind (guard : Guard) : Occurrence.identifier ∘ Occurrence.behind guard =
      Occurrence.identifier := rfl
  induction tree with
  | connect op left right ihLeft ihRight =>
    cases op <;> simp [guardedOccurrences, occurrences, behind, ihLeft, ihRight]
  | _ => simp_all [guardedOccurrences, occurrences]

section

variable {κ : Type} (provider : Provider κ) (token : κ)

/-- The right side of a comparison is asked for when the left side is a number. -/
theorem questionsWith_compare (op : Comparison) (left right : Expr) :
    (compare op left right).questionsWith provider token =
      left.questionsWith provider token ++
        if (Guard.number left).isOpen provider token then right.questionsWith provider token
        else [] := by
  cases number : (left.askWith provider token).result.bind Value.number? with
  | none =>
    obtain ⟨forced, settles⟩ := exists_forced_of_number?_none number
    simp [questionsWith, askWith, Guard.isOpen, evalWith, number, settles]
  | some n =>
    have opened : (Guard.number left).isOpen provider token = true := by
      simp [Guard.isOpen, evalWith, number]
    have goesOn := comparisonOperand_of_number? number
    simp only [questionsWith, askWith, Asked.questions_bind, goesOn, opened]
    -- Nothing is asked once both values are known.
    split <;> simp

/-- The right side of AND is asked for when the left side holds. -/
theorem questionsWith_and (left right : Expr) :
    (connect .and left right).questionsWith provider token =
      left.questionsWith provider token ++
        if (Guard.holds left).isOpen provider token then right.questionsWith provider token
        else [] := by
  -- The right operand is evaluated only after TRUE.
  cases outcome : Truth.ofValue (left.askWith provider token).result <;>
    simp [questionsWith, askWith, Guard.isOpen, truthWith, evalWith, outcome]

/-- The right side of OR is asked for when the left side does not hold. -/
theorem questionsWith_or (left right : Expr) :
    (connect .or left right).questionsWith provider token =
      left.questionsWith provider token ++
        if (Guard.holdsNot left).isOpen provider token then right.questionsWith provider token
        else [] := by
  -- The right operand is evaluated unless the left one is TRUE.
  cases outcome : Truth.ofValue (left.askWith provider token).result <;>
    simp [questionsWith, askWith, Guard.isOpen, truthWith, evalWith, outcome]

/-- An evaluation asks once for each occurrence that it reaches, from left to right. -/
theorem questionsWith_eq_reachedQuestions (tree : Expr) :
    tree.questionsWith provider token =
      Occurrence.reachedQuestions provider token tree.guardedOccurrences := by
  induction tree with
  | literal constant => rfl
  | reference identifier => rfl
  | compare op left right ihLeft ihRight =>
    simp [questionsWith_compare, guardedOccurrences, ihLeft, ihRight]
  | connect op left right ihLeft ihRight =>
    cases op with
    | and => simp [questionsWith_and, guardedOccurrences, ihLeft, ihRight]
    | or => simp [questionsWith_or, guardedOccurrences, ihLeft, ihRight]
  -- All other operators ask for all of their operands.
  | _ => simp_all [questionsWith, askWith, guardedOccurrences]

/-- Evaluations of one tree repeat each other as long as the providers agree. -/
theorem askWith_repeatedBy {κ' : Type} (other : Provider κ') (again : κ') (tree : Expr) :
    Asked.RepeatedBy provider token other again (tree.askWith provider token)
      (tree.askWith other again) := by
  induction tree with
  | literal constant => exact .pure _
  | reference identifier => exact .ask identifier
  | arithmetic op left right ihLeft ihRight | equal family left right ihLeft ihRight =>
    simp only [askWith]
    exact .bind ihLeft fun l => .bind ihRight fun r => .pure _
  | compare op left right ihLeft ihRight =>
    simp only [askWith]
    refine .bind ihLeft fun l => ?_
    -- The value of the left side decides in both evaluations whether the right side is evaluated.
    cases comparisonOperand l with
    | error forced => exact .pure _
    | ok number =>
      refine .bind ihRight fun r => ?_
      cases comparisonOperand r with
      | error forced => exact .pure _
      | ok number => exact .pure _
  | connect op left right ihLeft ihRight =>
    cases op with
    | and =>
      simp only [askWith]
      refine .bind ihLeft fun l => ?_
      cases Truth.ofValue l with
      | yes => exact .bind ihRight fun r => .pure _
      | no => exact .pure _
      | unknown => exact .pure _
    | or =>
      simp only [askWith]
      refine .bind ihLeft fun l => ?_
      cases Truth.ofValue l with
      | yes => exact .pure _
      | no => exact .bind ihRight fun r => .pure _
      | unknown => exact .bind ihRight fun r => .pure _
  | between value lower upper ihValue ihLower ihUpper =>
    simp only [askWith]
    exact .bind ihValue fun v => .bind ihLower fun l => .bind ihUpper fun u => .pure _
  | negate operand ih | not operand ih | within operand set ih | like operand pattern visible ih
  | isNull operand ih =>
    simp only [askWith]
    exact .bind ih fun result => .pure _

/-- Nobody is asked for an identifier that is not in the tree. -/
theorem identifier_mem_occurrences {tree : Expr} {question : Question κ}
    (asked : question ∈ tree.questionsWith provider token) :
    question.identifier ∈ tree.occurrences := by
  -- Every question belongs to an occurrence that is reached.
  rw [questionsWith_eq_reachedQuestions, Occurrence.reachedQuestions, List.mem_map] at asked
  obtain ⟨occurrence, reached, rfl⟩ := asked
  rw [← map_guardedOccurrences]
  exact List.mem_map_of_mem (List.mem_filter.1 reached).1

/-- Providers that agree on the identifiers of a tree give it the same value. -/
theorem evalWith_congr {κ' : Type} (other : Provider κ') (again : κ') {tree : Expr}
    (agree : ∀ identifier ∈ tree.identifiers,
      other identifier again = provider identifier token) :
    tree.evalWith other again = tree.evalWith provider token := by
  -- The questions are among the identifiers, so agreement on these is enough.
  refine (askWith_repeatedBy provider token other again tree fun question asked => ?_).2
  have occurs := identifier_mem_occurrences provider token asked
  exact agree question.identifier (mem_firstOccurrences.2 occurs)

end

/-- An evaluation asks once for each identifier of the tree, from left to right, except for those
behind a guard that its values leave shut; and another provider that answers these questions alike
is asked the same and leads to the same value. -/
theorem questionsWith_eq_filter {κ : Type} (tree : Expr) (provider : Provider κ) (token : κ) :
    tree.guardedOccurrences.map Occurrence.identifier = tree.occurrences ∧
      tree.questionsWith provider token =
        (tree.guardedOccurrences.filter (·.isReached provider token)).map (fun occurrence =>
          ⟨occurrence.identifier, token⟩) ∧
      ∀ {κ' : Type} (other : Provider κ') (again : κ'),
        (∀ question ∈ tree.questionsWith provider token,
          other question.identifier again = provider question.identifier token) →
        (tree.questionsWith other again).map Question.identifier =
            (tree.questionsWith provider token).map Question.identifier ∧
          tree.evalWith other again = tree.evalWith provider token := by
  refine ⟨map_guardedOccurrences tree, questionsWith_eq_reachedQuestions provider token tree, ?_⟩
  -- A provider with the same answers leads to the same questions, one after the other.
  intro κ' other again agree
  exact askWith_repeatedBy provider token other again tree agree

end Expr

end

namespace Expr

/-- In `a > b OR c IS NULL` nobody is asked for `b` when `a` is a string, so `b` does not count. -/
theorem questionsWith_or_isNull :
    let a : Identifier := ⟨"a", by decide, by decide⟩
    let b : Identifier := ⟨"b", by decide, by decide⟩
    let c : Identifier := ⟨"c", by decide, by decide⟩
    let tree : Expr := .connect .or (.compare .greater (.reference a) (.reference b))
      (.isNull (.reference c))
    let provider : Provider Nat := fun identifier _ =>
      if identifier = a then some (.string "x") else none
    let other : Provider Unit := fun identifier _ =>
      if identifier = c then none else some (.string "x")
    tree.questionsWith provider 7 = [⟨a, 7⟩, ⟨c, 7⟩] ∧
      (tree.questionsWith other ()).map Question.identifier = [a, c] ∧
      tree.evalWith other () = tree.evalWith provider 7 := by
  intro a b c tree provider other
  -- The string closes the comparison, so b is never asked for.
  have asked : tree.questionsWith provider 7 = [⟨a, 7⟩, ⟨c, 7⟩] := by decide
  obtain ⟨-, -, repeated⟩ := questionsWith_eq_filter tree provider 7
  have agree : ∀ question ∈ tree.questionsWith provider 7,
      other question.identifier () = provider question.identifier 7 := by
    rw [asked]
    decide
  obtain ⟨same, value⟩ := repeated other () agree
  exact ⟨asked, by rw [same, asked]; rfl, value⟩

end Expr

end MessageSelector
