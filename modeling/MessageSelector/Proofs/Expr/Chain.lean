import MessageSelector.Proofs.Expr.Questions
import MessageSelector.Proofs.Expr.Valuation
import MessageSelector.Regex.Plain

/-! Chains of conditions: operands that one connective joins, however they are bracketed. -/

namespace MessageSelector

/-- The items up to the first one that stops and with it, or all of them when none stops. -/
def upToFirst {α : Type} (stops : α → Bool) : List α → List α
  -- The item that stops the walk is still part of it.
  | [] => []
  | item :: rest => if stops item then [item] else item :: upToFirst stops rest

/-- Items that come later count when none of the earlier ones stops. -/
theorem upToFirst_append {α : Type} (stops : α → Bool) (first second : List α) :
    upToFirst stops (first ++ second) =
      upToFirst stops first ++ if first.any stops then [] else upToFirst stops second := by
  induction first with
  | nil => rfl
  | cons item rest ih =>
    rw [List.cons_append, upToFirst, upToFirst, List.any_cons]
    -- An item that stops ends both lists, and any other one stands at the front of both.
    cases stops item with
    | true => rfl
    | false => simp [ih]

namespace Connective

/-- The right side is left out after a left side with this outcome. -/
def isSettledBy : Connective → Truth → Bool
  -- A conjunction goes on only after TRUE, so UNKNOWN settles it as well.
  | and, left => left != .yes
  | or, left => left == .yes

/-- The outcome of two sides, of which the left one comes first. -/
def outcome : Connective → Truth → Truth → Truth
  -- Only the conjunction takes the order of its operands into account.
  | and => Truth.andThen
  | or => Truth.or

/-- The outcome of any number of operands: that of the first one that does not hold for AND, and for
OR the best one, where to hold is better than to be unknown and that is better than to fail. -/
def outcomeOf : Connective → List Truth → Truth
  -- The first operand that is not TRUE decides a conjunction; a disjunction looks at all of them.
  | and, truths => (truths.find? (· != .yes)).getD .yes
  | or, truths =>
    if truths.contains .yes then .yes
    else if truths.contains .unknown then .unknown
    else .no

/-- The outcome of no operands is a left side that makes no difference. -/
theorem outcome_outcomeOf_nil (op : Connective) (truth : Truth) :
    op.outcome (op.outcomeOf []) truth = truth := by
  -- No operands are TRUE for AND and FALSE for OR, and neither of these decides.
  cases op with
  | and => rfl
  | or => cases truth <;> rfl

/-- The first of the operands is a left side, and all the others together are a right side. -/
theorem outcomeOf_cons (op : Connective) (truth : Truth) (rest : List Truth) :
    op.outcomeOf (truth :: rest) = op.outcome truth (op.outcomeOf rest) := by
  cases op with
  | and => cases truth <;> rfl
  | or =>
    -- Which outcomes the others have decides all that is left open by the first one.
    by_cases holds : Truth.yes ∈ rest <;> by_cases undecided : Truth.unknown ∈ rest <;>
      cases truth <;> simp [outcomeOf, outcome, Truth.or, holds, undecided]

/-- A single operand has its own outcome. -/
theorem outcomeOf_singleton (op : Connective) (truth : Truth) : op.outcomeOf [truth] = truth := by
  cases op <;> cases truth <;> rfl

/-- Of three sides it makes no difference which two of them are bracketed. -/
theorem outcome_assoc (op : Connective) (first second third : Truth) :
    op.outcome (op.outcome first second) third = op.outcome first (op.outcome second third) := by
  -- Three operands have twenty-seven outcomes for either connective.
  cases op <;> cases first <;> cases second <;> cases third <;> rfl

/-- Two runs of operands have the outcome that two sides have with the outcomes of the runs. -/
theorem outcomeOf_append (op : Connective) (first second : List Truth) :
    op.outcomeOf (first ++ second) = op.outcome (op.outcomeOf first) (op.outcomeOf second) := by
  -- Associativity moves the operands of the first list over one by one.
  induction first with
  | nil => rw [List.nil_append, outcome_outcomeOf_nil]
  | cons truth rest ih => rw [List.cons_append, outcomeOf_cons, ih, outcomeOf_cons, outcome_assoc]

/-- The outcome of a run of operands settles a chain when that of one of them does. -/
theorem isSettledBy_outcomeOf (op : Connective) (truths : List Truth) :
    op.isSettledBy (op.outcomeOf truths) = truths.any op.isSettledBy := by
  induction truths with
  | nil => cases op <;> rfl
  | cons truth rest ih =>
    -- The first operand and the others are two sides of the connective.
    rw [outcomeOf_cons, List.any_cons, ← ih]
    cases op <;> cases truth <;> cases outcomeOf _ rest <;> rfl

/-- In which order the operands of OR come makes no difference to its outcome. -/
theorem outcomeOf_or_of_perm {first second : List Truth} (same : first.Perm second) :
    outcomeOf .or first = outcomeOf .or second := by
  -- A disjunction depends only on which truths occur, not on where.
  have yes : first.contains Truth.yes = second.contains Truth.yes := by
    simp [List.contains_eq_mem, same.mem_iff]
  have unknown : first.contains Truth.unknown = second.contains Truth.unknown := by
    simp [List.contains_eq_mem, same.mem_iff]
  rw [outcomeOf, outcomeOf, yes, unknown]

end Connective

namespace Expr

section

variable [Regex.Engine]

/-- The tree joins the operands, in this order and in some bracketing, by one connective. -/
inductive Joins (op : Connective) : List Expr → Expr → Prop where
  -- Every way of bracketing the operands is one derivation.
  | operand (tree : Expr) : Joins op [tree] tree
  | connect {lefts rights : List Expr} {left right : Expr} (first : Joins op lefts left)
    (second : Joins op rights right) : Joins op (lefts ++ rights) (.connect op left right)

section

variable {κ : Type} (provider : Provider κ) (token : κ)

/-- The outcome of a connective is told by the outcomes of its sides. -/
theorem truthWith_connect (op : Connective) (left right : Expr) :
    (connect op left right).truthWith provider token =
      op.outcome (left.truthWith provider token) (right.truthWith provider token) := by
  -- Read as conditions, the values of the operands are combined by the connective.
  rw [truthWith, truthWith, truthWith, evalWith_eq_valueBy, evalWith_eq_valueBy,
    evalWith_eq_valueBy]
  cases op <;> rfl

/-- The right side of a connective is asked for unless the left side settles it. -/
theorem questionsWith_connect (op : Connective) (left right : Expr) :
    (connect op left right).questionsWith provider token =
      left.questionsWith provider token ++
        if op.isSettledBy (left.truthWith provider token) then []
        else right.questionsWith provider token := by
  -- Each connective has a guard, which is shut exactly where the left side settles it.
  cases op with
  | and =>
    rw [questionsWith_and, Guard.isOpen, Connective.isSettledBy]
    cases left.truthWith provider token <;> rfl
  | or =>
    rw [questionsWith_or, Guard.isOpen, Connective.isSettledBy]
    cases left.truthWith provider token <;> rfl

namespace Joins

variable {op : Connective} {operands : List Expr} {tree : Expr}

/-- The outcome of a chain is told by those of its operands. -/
theorem truthWith_eq (joins : Joins op operands tree) :
    tree.truthWith provider token =
      op.outcomeOf (operands.map fun operand => operand.truthWith provider token) := by
  -- Each connective in the tree splits the operands into two runs.
  induction joins with
  | operand tree => rw [List.map_singleton, Connective.outcomeOf_singleton]
  | connect first second ihFirst ihSecond =>
    rw [truthWith_connect, ihFirst, ihSecond, ← Connective.outcomeOf_append, ← List.map_append]

/-- A chain asks for its operands up to the first one that settles it. -/
theorem questionsWith_eq (joins : Joins op operands tree) :
    tree.questionsWith provider token =
      (upToFirst (fun operand => op.isSettledBy (operand.truthWith provider token))
        operands).flatMap fun operand => operand.questionsWith provider token := by
  induction joins with
  | operand tree => simp [upToFirst]
  | @connect lefts rights left right first second ihFirst ihSecond =>
    -- The left side settles the connective when one of its operands settles the chain.
    have settled : op.isSettledBy (left.truthWith provider token) =
        lefts.any fun operand => op.isSettledBy (operand.truthWith provider token) := by
      rw [first.truthWith_eq, Connective.isSettledBy_outcomeOf, List.any_map]
      rfl
    rw [questionsWith_connect, settled, ihFirst, ihSecond, upToFirst_append, List.flatMap_append]
    split <;> rfl

end Joins

end

/-- A chain has the outcome that its operands have together, and it asks for what they ask for up
to the first one that settles it, whichever way it is bracketed. The operands of OR can also come in
any order without making a difference to the outcome. -/
theorem outcome_of_joins {κ : Type} (provider : Provider κ) (token : κ) {op : Connective}
    {operands : List Expr} {tree : Expr} (joins : Joins op operands tree) :
    tree.truthWith provider token =
        op.outcomeOf (operands.map fun operand => operand.truthWith provider token) ∧
      tree.questionsWith provider token =
        (upToFirst (fun operand => op.isSettledBy (operand.truthWith provider token))
          operands).flatMap (fun operand => operand.questionsWith provider token) ∧
      ∀ {others : List Expr} {other : Expr}, op = .or → others.Perm operands →
        Joins op others other → other.truthWith provider token = tree.truthWith provider token := by
  refine ⟨joins.truthWith_eq provider token, joins.questionsWith_eq provider token, ?_⟩
  -- Both bracketings have the outcome of their operands as a list, and the lists are permutations.
  rintro others other rfl moved rejoins
  rw [rejoins.truthWith_eq, joins.truthWith_eq]
  exact Connective.outcomeOf_or_of_perm (moved.map _)

end

/-- With nothing but `a` bound, `a AND (b AND c)` is unknown once `b` is asked for, and
`(b OR c) OR a` holds once all three are, as `a OR (b OR c)` does. -/
theorem outcome_of_joins_unbound :
    let a : Identifier := ⟨"a", by decide, by decide⟩
    let b : Identifier := ⟨"b", by decide, by decide⟩
    let c : Identifier := ⟨"c", by decide, by decide⟩
    let provider : Provider Nat := fun identifier _ =>
      if identifier = a then some (.boolean true) else none
    let both : Expr := .connect .and (.reference a) (.connect .and (.reference b) (.reference c))
    let any : Expr := .connect .or (.connect .or (.reference b) (.reference c)) (.reference a)
    let moved : Expr := .connect .or (.reference a) (.connect .or (.reference b) (.reference c))
    both.truthWith provider 7 = .unknown ∧
      both.questionsWith provider 7 = [⟨a, 7⟩, ⟨b, 7⟩] ∧
      any.truthWith provider 7 = .yes ∧
      any.questionsWith provider 7 = [⟨b, 7⟩, ⟨c, 7⟩, ⟨a, 7⟩] ∧
      moved.truthWith provider 7 = any.truthWith provider 7 := by
  intro a b c provider both any moved
  -- Only one of the three names is bound, so the conjunction is settled by the second operand.
  have joinsBoth : Joins .and [.reference a, .reference b, .reference c] both :=
    .connect (.operand _) (.connect (.operand _) (.operand _))
  have joinsAny : Joins .or [.reference b, .reference c, .reference a] any :=
    .connect (.connect (.operand _) (.operand _)) (.operand _)
  have joinsMoved : Joins .or [.reference a, .reference b, .reference c] moved :=
    .connect (.operand _) (.connect (.operand _) (.operand _))
  obtain ⟨outcome, asked, -⟩ := outcome_of_joins provider 7 joinsBoth
  obtain ⟨holds, askedAll, reordered⟩ := outcome_of_joins provider 7 joinsAny
  refine ⟨outcome.trans (by decide), asked.trans (by decide), holds.trans (by decide),
    askedAll.trans (by decide), reordered rfl ?_ joinsMoved⟩
  exact (List.perm_append_singleton _ _).symm

end Expr

end MessageSelector
