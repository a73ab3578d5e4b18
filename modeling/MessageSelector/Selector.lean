import MessageSelector.Phrase.Reading

/-! Selectors: a text together with the tree that it reads as. -/

namespace MessageSelector

variable [Regex.Engine]

/-- The text of a selector and its tree. -/
structure Selector where
  -- The text is kept as it was given, although the tree determines a rendering of its own.
  text : String
  tree : Expr
deriving DecidableEq

namespace Selector

/-- Reads the text of a selector. -/
def ofText (text : String) : Except SyntaxError Selector :=
  (Expr.ofText text).map fun tree => { text, tree }

/-- A text reads as the selector that has this text and the tree that the text reads as. -/
theorem ofText_eq_ok_iff {text : String} {selector : Selector} :
    ofText text = .ok selector ↔
      selector.text = text ∧ Expr.ofText text = .ok selector.tree := by
  -- A selector is its own text with the tree that is read of it.
  obtain ⟨known, tree⟩ := selector
  cases read : Expr.ofText text <;> simp [ofText, read, Except.map, eq_comm]

/-- The selector of a tree, whose text is the tree as it is written. -/
def ofExpr (tree : Expr) : Selector :=
  { text := tree.written, tree }

/-- The outcome with the values of a mapping. -/
def truth (selector : Selector) (mapping : Mapping) : Truth :=
  selector.tree.truth mapping

/-- The outcome with the values of a provider. -/
def truthWith {κ : Type} (selector : Selector) (provider : Provider κ) (token : κ) : Truth :=
  selector.tree.truthWith provider token

/-- A selector matches only where it holds: what is unknown is not selected. -/
def isMatch (selector : Selector) (mapping : Mapping) : Bool :=
  (selector.truth mapping).isTrue

/-- A selector matches exactly where its tree holds. -/
theorem isMatch_iff {selector : Selector} {mapping : Mapping} :
    selector.isMatch mapping = true ↔ selector.tree.truth mapping = .yes := by
  -- Of the three outcomes only one selects.
  simp [isMatch, truth, Truth.isTrue]

/-- A selector matches the values of a provider only where it holds with them. -/
def isMatchWith {κ : Type} (selector : Selector) (provider : Provider κ) (token : κ) : Bool :=
  (selector.truthWith provider token).isTrue

end Selector

end MessageSelector
