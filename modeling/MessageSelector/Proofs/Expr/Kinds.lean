import MessageSelector.Proofs.Expr.Valuation
import MessageSelector.Regex.Plain
import MessageSelector.Selector

/-! Kinds: what a tree tells, before any name is bound, of the values that it comes to. -/

namespace MessageSelector

/-- A tree of the kind may come to the value, or to none. -/
inductive Kind.Admits : Kind → Option Value → Prop where
  | flag (flag : Bool) : Admits .boolean (some (.boolean flag))
  | condition (truth : Truth) : Admits .boolean (some (.truth truth))
  | number (number : Number) : Admits .numeric (some (.number number))
  -- Arithmetic on anything but numbers is unknown.
  | unknown : Admits .numeric (some (.truth .unknown))
  | text (text : String) : Admits .string (some (.string text))
  | any (value : Option Value) : Admits .any value

namespace Kind.Admits

variable {kind : Kind} {value : Option Value}

/-- A constant has a value of its kind. -/
theorem literal (constant : Literal) : constant.kind.Admits (some constant.value) := by
  -- The kind of a literal is read from its constructor, as its value is.
  cases constant with
  | boolean flag => exact .flag flag
  | long text value reads => exact .number _
  | double text value reads => exact .number _
  | string content => exact .text content

/-- Arithmetic comes to a number, or it is unknown. -/
theorem arithmetic (op : Arithmetic) (left right : Option Value) :
    Admits .numeric (some (op.evaluate left right)) := by
  -- The result is a number, or UNKNOWN when an operand is none.
  unfold Arithmetic.evaluate
  split
  · exact .number _
  · exact .unknown

/-- A change of sign comes to a number, or it is unknown. -/
theorem negated (operand : Option Value) : Admits .numeric (some (negateValue operand)) := by
  -- The result is a number, or UNKNOWN when the operand is none.
  unfold negateValue
  split
  · exact .number _
  · exact .unknown

/-- Only what may have any value may have none. -/
theorem eq_any (admits : kind.Admits none) : kind = .any := by
  -- Every other kind asks for a value to be there.
  cases admits with
  | any => rfl

/-- Numbers and strings are no conditions. -/
theorem truth_eq_unknown (admits : kind.Admits value)
    (noCondition : kind = .numeric ∨ kind = .string) : Truth.ofValue value = .unknown := by
  -- Numbers, strings and the open truth are no conditions; the other values have other kinds.
  cases admits with
  | number | unknown | text => rfl
  | flag | condition | any => rcases noCondition with other | other <;> cases other

end Kind.Admits

namespace Expr

section

variable [Regex.Engine]

variable {κ : Type} {provider : Provider κ} {token : κ} {tree : Expr} {mapping : Mapping}

/-- Only a reference can stand for values of any kind. -/
theorem eq_reference_of_kind (any : tree.kind = .any) :
    ∃ identifier, tree = .reference identifier := by
  -- Literals have a kind of their own, and so has the result of every operator.
  cases tree with
  | reference identifier => exact ⟨identifier, rfl⟩
  | literal constant => cases constant <;> simp [Expr.kind, Literal.kind] at any
  | _ => simp [Expr.kind] at any

/-- The kind of a tree admits its value, whatever the identifiers stand for. -/
theorem admits_valueBy (conjunction : Truth → Truth → Truth) (bound : Identifier → Option Value)
    (tree : Expr) : tree.kind.Admits (tree.valueBy conjunction bound) := by
  -- The outermost operator alone fixes what can come out, so no operand is looked at.
  cases tree with
  | literal constant => exact .literal constant
  | reference identifier => exact .any _
  | arithmetic op left right => exact .arithmetic op _ _
  | negate operand => exact .negated _
  | connect op left right => cases op <;> exact .condition _
  | compare | not | equal | between | within | like | isNull => exact .condition _

/-- The kind of a tree admits its value with any provider. -/
theorem admits_evalWith (tree : Expr) (provider : Provider κ) (token : κ) :
    tree.kind.Admits (tree.evalWith provider token) := by
  -- Evaluation is bottom-up, and the kinds are admitted on the way.
  rw [evalWith_eq_valueBy]
  exact admits_valueBy _ _ tree

/-- Only an identifier that the provider has no value for is without a value. -/
theorem evalWith_eq_none_iff : tree.evalWith provider token = none ↔
    ∃ identifier, tree = .reference identifier ∧ provider identifier token = none := by
  -- Only the kind of an identifier admits an absent value.
  constructor
  · intro absent
    have admits := tree.admits_evalWith provider token
    rw [absent] at admits
    obtain ⟨identifier, rfl⟩ := eq_reference_of_kind admits.eq_any
    exact ⟨identifier, rfl, absent⟩
  · rintro ⟨identifier, rfl, absent⟩
    exact absent

/-- The tree is an identifier that the mapping does not bind. -/
def IsUnbound (tree : Expr) (mapping : Mapping) : Prop :=
  ∃ identifier : Identifier, tree = .reference identifier ∧ mapping[identifier.name]? = none

/-- A test for absence is settled by whether the operand has a value. -/
theorem truth_isNull (tree : Expr) (mapping : Mapping) :
    (isNull tree).truth mapping = .ofBool (tree.eval mapping).isNone :=
  -- The node holds a settled truth, which is read back as a condition.
  rfl

/-- A tree comes to a value that its kind admits, where only identifiers are of any kind and only
those that are not bound come to no value. So a test for absence holds of an unbound identifier and
is false of everything else, and a selector that is a number or a string is unknown and never
matches. -/
theorem eval_of_kind (tree : Expr) (mapping : Mapping) :
    tree.kind.Admits (tree.eval mapping) ∧
      (tree.kind = .any ↔ ∃ identifier, tree = .reference identifier) ∧
      (tree.eval mapping = none ↔ tree.IsUnbound mapping) ∧
      (tree.IsUnbound mapping → (isNull tree).truth mapping = .yes) ∧
      (¬tree.IsUnbound mapping → (isNull tree).truth mapping = .no) ∧
      (tree.kind = .numeric ∨ tree.kind = .string → tree.truth mapping = .unknown ∧
        ∀ selector : Selector, selector.tree = tree → selector.isMatch mapping = false ∧
          ∀ {κ : Type} (provider : Provider κ) (token : κ),
            selector.isMatchWith provider token = false) := by
  have absent_iff : tree.eval mapping = none ↔ tree.IsUnbound mapping := evalWith_eq_none_iff
  -- Which trees can be absent decides everything but the first part and the last.
  refine ⟨tree.admits_evalWith _ _, ⟨eq_reference_of_kind, ?_⟩, absent_iff, fun unbound => ?_,
    fun bound => ?_, fun noCondition => ?_⟩
  · rintro ⟨identifier, rfl⟩
    rfl
  · rw [truth_isNull, absent_iff.2 unbound]
    rfl
  · rw [truth_isNull, Option.isNone_eq_false_iff.2 (Option.isSome_iff_ne_none.2 ?_)]
    · rfl
    · exact fun absent => bound (absent_iff.1 absent)
  -- Numbers and strings are no conditions under any provider, so no selector made of them matches.
  · have undecided {κ : Type} (provider : Provider κ) (token : κ) :
        tree.truthWith provider token = .unknown :=
      (tree.admits_evalWith provider token).truth_eq_unknown noCondition
    refine ⟨undecided mapping.provider (), ?_⟩
    rintro selector rfl
    refine ⟨?_, fun provider token => ?_⟩
    · rw [Selector.isMatch, Selector.truth, truth, eval, ← truthWith, undecided]
      rfl
    · rw [Selector.isMatchWith, Selector.truthWith, undecided]
      rfl

end

/-- With nothing bound, `a IS NULL` holds and `a + 1 IS NULL` is false, and `a + 1` is unknown. -/
theorem eval_of_kind_sum :
    let a : Expr := .reference ⟨"a", by decide, by decide⟩
    let sum : Expr := .arithmetic .add a (.literal (.long "1" 1 (by decide)))
    a.IsUnbound ∅ ∧ (isNull a).truth ∅ = .yes ∧ ¬sum.IsUnbound ∅ ∧ (isNull sum).truth ∅ = .no ∧
      sum.kind = .numeric ∧ sum.truth ∅ = .unknown := by
  intro a sum
  -- An unbound name is absent, while a sum over it is UNKNOWN and so not absent.
  have unbound : a.IsUnbound ∅ := ⟨_, rfl, by simp⟩
  have bound : ¬sum.IsUnbound ∅ := by
    rintro ⟨identifier, same, -⟩
    nomatch same
  obtain ⟨-, -, -, holds, -, -⟩ := eval_of_kind a ∅
  obtain ⟨-, -, -, -, fails, undecided⟩ := eval_of_kind sum ∅
  exact ⟨unbound, holds unbound, bound, fails bound, rfl, (undecided (.inl rfl)).1⟩

end Expr

end MessageSelector
