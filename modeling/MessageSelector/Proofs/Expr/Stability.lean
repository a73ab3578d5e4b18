import MessageSelector.Proofs.Expr.Information
import MessageSelector.Regex.Plain
import MessageSelector.Selector

/-! Settled outcomes last: neither values that arrive later nor an AND that looks at both of its
sides can change them. -/

namespace MessageSelector

/-- What a mapping binds, a wider one binds to the same value, and it may bind more. -/
def Mapping.IsPartOf (mapping wider : Mapping) : Prop :=
  ∀ (name : String) (value : Value), mapping[name]? = some value → wider[name]? = some value

namespace Expr

section

variable [Regex.Engine]

/-- The outcome of a tree in an evaluation that treats the two sides of AND alike. -/
def symmetricTruth (tree : Expr) (mapping : Mapping) : Truth :=
  .ofValue (tree.valueBy Truth.and fun identifier => mapping[identifier.name]?)

/-- Where nothing is tested for absence, a wider mapping tells no less of the tree. -/
theorem eval_approximates {tree : Expr} {mapping wider : Mapping}
    (untested : tree.absenceTests = []) (part : mapping.IsPartOf wider) :
    Value.Approximates (tree.eval mapping) (tree.eval wider) := by
  rw [eval_eq_valueBy, eval_eq_valueBy]
  refine valueBy_approximates Truth.Approximates.andThen (fun identifier => ?_) tree ?_
  · -- A name that is bound keeps its value, and one that is not tells nothing.
    cases bound : mapping[identifier.name]? with
    | none => exact .untold (.inl rfl) _
    | some value =>
      rw [part _ _ bound]
      exact .same _
  · simp [untested]

/-- A tree that tests no identifier for absence keeps its value, its outcome and what is selected by
it or by its opposite, once they are settled, whatever is bound in addition. -/
theorem eval_of_wider {tree : Expr} {mapping wider : Mapping} (untested : tree.absenceTests = [])
    (part : mapping.IsPartOf wider) :
    (tree.eval mapping ≠ none → tree.eval mapping ≠ some (.truth .unknown) →
        tree.eval wider = tree.eval mapping) ∧
      (tree.truth mapping ≠ .unknown → tree.truth wider = tree.truth mapping) ∧
      ∀ selector : Selector, selector.tree = tree ∨ selector.tree = .not tree →
        selector.isMatch mapping = true → selector.isMatch wider = true := by
  have approximates := eval_approximates untested part
  refine ⟨approximates.eq_of_told, approximates.truth.eq_of_ne_unknown, ?_⟩
  intro selector same matched
  -- The opposite of a tree tests nothing that the tree does not test.
  have untested : selector.tree.absenceTests = [] := by
    rcases same with same | same <;> rw [same] <;> exact untested
  have holds := Selector.isMatch_iff.1 matched
  have kept := (eval_approximates untested part).truth.eq_of_ne_unknown
    (show selector.tree.truth mapping ≠ .unknown by simp [holds])
  exact Selector.isMatch_iff.2 (kept.trans holds)

end

/-- With `a` bound, `b > 1 OR a = 'x'` holds already, and it goes on to hold when `b` is bound. -/
theorem truth_or_of_wider :
    let one : Expr := .literal (.long "1" 1 (by decide))
    let tree : Expr := .connect .or (.compare .greater (.reference ⟨"b", by decide, by decide⟩) one)
      (.equal .strings (.reference ⟨"a", by decide, by decide⟩) (.literal (.string "x")))
    let mapping : Mapping := Std.HashMap.insert ∅ "a" (.string "x")
    let wider : Mapping := mapping.insert "b" (.boolean true)
    tree.absenceTests = [] ∧ mapping.IsPartOf wider ∧ tree.truth mapping = .yes ∧
      tree.truth wider = .yes := by
  intro one tree mapping wider
  have part : mapping.IsPartOf wider := by
    intro name value bound
    have other : name ≠ "b" := by
      rintro rfl
      simp [mapping] at bound
    simpa [wider, Std.HashMap.getElem?_insert, other.symm] using bound
  have holds : tree.truth mapping = .yes := by
    have unbound : mapping["b"]? = none := by simp [mapping]
    have bound : mapping["a"]? = some (.string "x") := by simp [mapping]
    -- The comparison is unknown, and the other side of OR suffices.
    rw [truth, eval_eq_valueBy]
    simp only [tree, valueBy, unbound, bound]
    rfl
  have settled : tree.truth mapping ≠ .unknown := by simp [holds]
  exact ⟨rfl, part, holds, ((eval_of_wider rfl part).2.1 settled).trans holds⟩

section

variable [Regex.Engine]

/-- An outcome that is settled is the one that an AND which looks at both of its sides leads to. -/
theorem symmetricTruth_of_settled (tree : Expr) (mapping : Mapping) :
    tree.truth mapping =
        .ofValue (tree.valueBy Truth.andThen fun identifier => mapping[identifier.name]?) ∧
      (tree.truth mapping ≠ .unknown → tree.symmetricTruth mapping = tree.truth mapping) := by
  -- The stepwise conjunction approximates the symmetric one, node by node up the tree.
  have approximates := valueBy_approximates Truth.Approximates.andThen_and
    (fun identifier : Identifier => .same mapping[identifier.name]?) tree (fun _ _ => rfl)
  rw [truth, eval_eq_valueBy]
  exact ⟨rfl, approximates.truth.eq_of_ne_unknown⟩

end

/-- In `b > 1 AND FALSE OR TRUE` the two ways to take AND differ on the left of OR alone. -/
theorem symmetricTruth_or :
    let one : Expr := .literal (.long "1" 1 (by decide))
    let greater : Expr := .compare .greater (.reference ⟨"b", by decide, by decide⟩) one
    let both : Expr := .connect .and greater (.literal (.boolean false))
    let tree : Expr := .connect .or both (.literal (.boolean true))
    both.truth ∅ = .unknown ∧ both.symmetricTruth ∅ = .no ∧ tree.truth ∅ ≠ .unknown ∧
      tree.symmetricTruth ∅ = tree.truth ∅ := by
  intro one greater both tree
  -- The comparison is open, which settles the stepwise conjunction but not the symmetric one.
  have unbound :
      (fun identifier : Identifier => (∅ : Mapping)[identifier.name]?) = fun _ => none := by
    funext identifier
    simp
  have undecided : both.truth ∅ = .unknown := by
    rw [truth, eval_eq_valueBy, unbound]
    rfl
  have decided : both.symmetricTruth ∅ = .no := by
    rw [symmetricTruth, unbound]
    rfl
  have settled : tree.truth ∅ ≠ .unknown := by
    rw [truth, eval_eq_valueBy, unbound]
    decide
  exact ⟨undecided, decided, settled, (symmetricTruth_of_settled tree ∅).2 settled⟩

end Expr

end MessageSelector
