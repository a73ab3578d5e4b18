import MessageSelector.Identifier
import MessageSelector.Interner
import MessageSelector.Literal

/-! The leaves of trees, of which all but the strings are shared by everyone who asks for them. -/

namespace MessageSelector

/-- Where the instance of a leaf comes from. -/
inductive LeafSource where
  | identifiers
  | booleans
  | longs
  | doubles
  | strings
deriving DecidableEq, Repr

/-- A leaf handed out by one of the sources. -/
structure Leaf (α : Type) where
  source : LeafSource
  shared : Shared α

namespace Leaf

/-- What the leaf is, whoever else holds it. -/
def value {α : Type} (leaf : Leaf α) : α :=
  leaf.shared.value

/-- What tells the instance of the leaf from all others. -/
def instanceKey {α : Type} (leaf : Leaf α) : LeafSource × Nat :=
  (leaf.source, leaf.shared.serial)

end Leaf

/-- The leaves handed out so far: a table for each kind that is shared, and a count of strings. -/
structure Leaves where
  identifiers : Interner Identifier
  booleans : Interner Literal
  longs : Interner Literal
  doubles : Interner Literal
  -- Strings are never shared, so it is enough to count them.
  strings : Nat

namespace Leaves

/-- No leaf has been handed out. -/
def empty : Leaves :=
  { identifiers := .empty, booleans := .empty, longs := .empty, doubles := .empty, strings := 0 }

/-- The leaf that a request hands out. -/
def handedOut {ε α : Type} (source : LeafSource) (handout : Handout ε α) : Except ε (Leaf α) :=
  handout.result.map fun shared => ⟨source, shared⟩

/-- The identifier of a name. -/
def identifier (leaves : Leaves) (name : String) :
    Except IdentifierError (Leaf Identifier) × Leaves :=
  -- Only the table of identifiers changes, and it does so only for a new name.
  let (handout, identifiers) := leaves.identifiers.intern name fun _ => Identifier.ofName name
  (handedOut .identifiers handout, { leaves with identifiers })

/-- The boolean literal of a text; texts that differ in case have different instances. -/
def boolean (leaves : Leaves) (text : String) : Except LiteralError (Leaf Literal) × Leaves :=
  -- The text is the key as it is given, so the two cases of a word are two instances.
  let (handout, booleans) := leaves.booleans.intern text fun _ => Literal.ofBoolean text
  (handedOut .booleans handout, { leaves with booleans })

/-- The integer literal of a text. -/
def long (leaves : Leaves) (text : String) : Except LiteralError (Leaf Literal) × Leaves :=
  let (handout, longs) := leaves.longs.intern text fun _ => Literal.ofLong text
  (handedOut .longs handout, { leaves with longs })

/-- The float literal of a text. -/
def double (leaves : Leaves) (text : String) : Except LiteralError (Leaf Literal) × Leaves :=
  let (handout, doubles) := leaves.doubles.intern text fun _ => Literal.ofDouble text
  (handedOut .doubles handout, { leaves with doubles })

/-- A string literal, of which every request makes a new instance. -/
def string (leaves : Leaves) (content : String) : Leaf Literal × Leaves :=
  (⟨.strings, leaves.strings, .string content⟩, { leaves with strings := leaves.strings + 1 })

end Leaves

end MessageSelector
