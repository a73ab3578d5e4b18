import MessageSelector.Phrase.Basic
import MessageSelector.Proofs.Expr.Kinds
import MessageSelector.Proofs.Expr.Pattern

/-! The grammar of selectors, in which every derivation stands for a tree. -/

namespace MessageSelector

/-- The signs that put two numbers into an order. -/
inductive Orders : Mark → Comparison → Prop where
  -- Equality and its negation are no orders, because they depend on the types of their operands.
  | less : Orders .less .less
  | lessEqual : Orders .lessEqual .lessEqual
  | greater : Orders .greater .greater
  | greaterEqual : Orders .greaterEqual .greaterEqual

/-- The word NOT where a test is negated. -/
def notWord (negated : Bool) : List Token :=
  if negated then [.keyword .not] else []

/-- Strings with a comma before each of them. -/
def commaStrings (items : List String) : List Token :=
  items.flatMap fun item => [.mark .comma, .string item]

/-- An escape clause, or nothing. -/
def escapeWords : Option String → List Token
  -- A clause that is missing has no tokens.
  | none => []
  | some escape => [.keyword .escape, .string escape]

/-- The tokens begin with a number. -/
def BeginsWithNumber (tokens : List Token) : Prop :=
  ∃ text rest, tokens = .number text :: rest

variable [Regex.Engine]

/-- The tree of an equality: strings before booleans, and numbers unless both sides are names. -/
inductive Equates : Expr → Expr → Expr → Prop where
  -- The kinds are looked at in the order of the constructors, strings first.
  | strings {left right : Expr} (string : left.kind = .string ∨ right.kind = .string) :
    Equates left right (.equal .strings left right)
  | booleans {left right : Expr} (noString : left.kind ≠ .string ∧ right.kind ≠ .string)
    (boolean : left.kind = .boolean ∨ right.kind = .boolean) :
    Equates left right (.equal .booleans left right)
  | names (left right : Identifier) :
    Equates (.reference left) (.reference right)
      (.equal .untyped (.reference left) (.reference right))
  | numbers {left right : Expr} (noString : left.kind ≠ .string ∧ right.kind ≠ .string)
    (noBoolean : left.kind ≠ .boolean ∧ right.kind ≠ .boolean)
    (number : left.kind = .numeric ∨ right.kind = .numeric) :
    Equates left right (.compare .equal left right)

/-- An equality has exactly one tree, which is the one that the kinds of its sides tell. -/
theorem equates_iff {left right tree : Expr} :
    Equates left right tree ↔ tree = .equality left right := by
  constructor
  · intro equates
    -- Each rule gives the kinds of the sides, and the kinds pick the family.
    unfold Expr.equality
    cases equates with
    | strings string =>
      cases leftKind : left.kind <;> cases rightKind : right.kind <;>
        simp_all [Equality.ofKinds?]
    | booleans noString boolean =>
      cases leftKind : left.kind <;> cases rightKind : right.kind <;>
        simp_all [Equality.ofKinds?]
    | names => rfl
    | numbers noString noBoolean number =>
      cases leftKind : left.kind <;> cases rightKind : right.kind <;>
        simp_all [Equality.ofKinds?]
  · intro same
    subst same
    unfold Expr.equality
    -- The families are told apart by the sixteen pairs of kinds.
    cases leftKind : left.kind <;> cases rightKind : right.kind <;>
      simp only [Equality.ofKinds?] <;>
      first
      | exact .strings (by simp [leftKind, rightKind])
      | exact .booleans (by simp [leftKind, rightKind]) (by simp [leftKind, rightKind])
      | exact .numbers (by simp [leftKind, rightKind]) (by simp [leftKind, rightKind])
          (by simp [leftKind, rightKind])
      | skip
    -- What is left are two sides of any kind, and both of them are names.
    obtain ⟨first, rfl⟩ := Expr.eq_reference_of_kind leftKind
    obtain ⟨second, rfl⟩ := Expr.eq_reference_of_kind rightKind
    exact .names first second

/-- The test, or the negation of it. -/
def negatedIf (negated : Bool) (test : Expr) : Expr :=
  if negated then .not test else test

/-- The tokens make up a phrase of the rank, which stands for the tree. -/
inductive Derives : Rank → List Token → Expr → Prop where
  | conjunction {tokens : List Token} {tree : Expr} :
    Derives (.chain .and) tokens tree → Derives (.chain .or) tokens tree
  | or {lefts rights : List Token} {left right : Expr} :
    Derives (.chain .or) lefts left → Derives (.chain .and) rights right →
      Derives (.chain .or) (lefts ++ .keyword .or :: rights) (.connect .or left right)
  | negation {tokens : List Token} {tree : Expr} :
    Derives .negation tokens tree → Derives (.chain .and) tokens tree
  | and {lefts rights : List Token} {left right : Expr} :
    Derives (.chain .and) lefts left → Derives .negation rights right →
      Derives (.chain .and) (lefts ++ .keyword .and :: rights) (.connect .and left right)
  | not {tokens : List Token} {tree : Expr} :
    Derives .negation tokens tree → Derives .negation (.keyword .not :: tokens) (.not tree)
  | predicate {tokens : List Token} {tree : Expr} :
    Derives .predicate tokens tree → Derives .negation tokens tree
  | equal {lefts rights : List Token} {left right tree : Expr} :
    Derives (.chain .sum) lefts left → Derives (.chain .sum) rights right →
      Equates left right tree → Derives .predicate (lefts ++ .mark .equal :: rights) tree
  | notEqual {lefts rights : List Token} {left right tree : Expr} :
    Derives (.chain .sum) lefts left → Derives (.chain .sum) rights right →
      Equates left right tree →
        Derives .predicate (lefts ++ .mark .notEqual :: rights) (.not tree)
  | order {lefts rights : List Token} {left right : Expr} {sign : Mark} {op : Comparison} :
    Derives (.chain .sum) lefts left → Orders sign op → Derives (.chain .sum) rights right →
      Derives .predicate (lefts ++ .mark sign :: rights) (.compare op left right)
  | between {values lowers uppers : List Token} {value lower upper : Expr} (negated : Bool) :
    Derives (.chain .sum) values value → Derives (.chain .sum) lowers lower →
      Derives (.chain .sum) uppers upper →
        Derives .predicate
          (values ++ (notWord negated ++ .keyword .between :: lowers ++ .keyword .and :: uppers))
          (negatedIf negated (.between value lower upper))
  | within {tokens : List Token} {operand : Expr} (negated : Bool) (first : String)
    (more : List String) :
    Derives (.chain .sum) tokens operand →
      Derives .predicate
        (tokens ++ (notWord negated ++ .keyword .within :: .mark .openBracket :: .string first ::
          (commaStrings more ++ [.mark .closeBracket])))
        (negatedIf negated (.within operand (.ofList (first :: more))))
  | like {tokens : List Token} {operand tree : Expr} (negated : Bool) (pattern : String)
    (clause : Option String) :
    Derives (.chain .sum) tokens operand → patternTest operand pattern clause = .ok tree →
      Derives .predicate
        (tokens ++ (notWord negated ++ .keyword .like :: .string pattern :: escapeWords clause))
        (negatedIf negated tree)
  | isNull {tokens : List Token} {operand : Expr} (negated : Bool) :
    Derives (.chain .sum) tokens operand →
      Derives .predicate (tokens ++ .keyword .is :: (notWord negated ++ [.keyword .null]))
        (negatedIf negated (.isNull operand))
  | sum {tokens : List Token} {tree : Expr} :
    Derives (.chain .sum) tokens tree → Derives .predicate tokens tree
  | add {lefts rights : List Token} {left right : Expr} :
    Derives (.chain .sum) lefts left → Derives (.chain .product) rights right →
      Derives (.chain .sum) (lefts ++ .mark .plus :: rights) (.arithmetic .add left right)
  | subtract {lefts rights : List Token} {left right : Expr} :
    Derives (.chain .sum) lefts left → Derives (.chain .product) rights right →
      Derives (.chain .sum) (lefts ++ .mark .minus :: rights) (.arithmetic .subtract left right)
  | product {tokens : List Token} {tree : Expr} :
    Derives (.chain .product) tokens tree → Derives (.chain .sum) tokens tree
  | multiply {lefts rights : List Token} {left right : Expr} :
    Derives (.chain .product) lefts left → Derives .unary rights right →
      Derives (.chain .product) (lefts ++ .mark .star :: rights)
        (.arithmetic .multiply left right)
  | divide {lefts rights : List Token} {left right : Expr} :
    Derives (.chain .product) lefts left → Derives .unary rights right →
      Derives (.chain .product) (lefts ++ .mark .slash :: rights) (.arithmetic .divide left right)
  | unary {tokens : List Token} {tree : Expr} :
    Derives .unary tokens tree → Derives (.chain .product) tokens tree
  | plus {tokens : List Token} {tree : Expr} :
    Derives .unary tokens tree → Derives .unary (.mark .plus :: tokens) tree
  -- A minus next to a number is a part of that number and negates nothing.
  | minus {tokens : List Token} {tree : Expr} :
    Derives .unary tokens tree → ¬BeginsWithNumber tokens →
      Derives .unary (.mark .minus :: tokens) (.negate tree)
  | signedNumber {text : String} {constant : Literal} :
    Literal.ofNumeral ("-" ++ text) = .ok constant →
      Derives .unary [.mark .minus, .number text] (.literal constant)
  | primary {tokens : List Token} {tree : Expr} :
    Derives .primary tokens tree → Derives .unary tokens tree
  | number {text : String} {constant : Literal} :
    Literal.ofNumeral text = .ok constant → Derives .primary [.number text] (.literal constant)
  | string (content : String) :
    Derives .primary [.string content] (.literal (.string content))
  | yes : Derives .primary [.keyword .yes] (.literal (.boolean true))
  | no : Derives .primary [.keyword .no] (.literal (.boolean false))
  | reference (identifier : Identifier) :
    Derives .primary [.identifier identifier.name] (.reference identifier)
  | brackets {tokens : List Token} {tree : Expr} :
    Derives (.chain .or) tokens tree →
      Derives .primary (.mark .openBracket :: (tokens ++ [.mark .closeBracket])) tree

namespace Derives

/-- An operand of a chain is a chain of its own. -/
theorem operand {chain : Chain} {tokens : List Token} {tree : Expr}
    (derived : Derives chain.operand tokens tree) : Derives (.chain chain) tokens tree := by
  -- Every chain has a rule for a single operand.
  cases chain with
  | or => exact .conjunction derived
  | and => exact .negation derived
  | sum => exact .product derived
  | product => exact .unary derived

/-- A token that joins operands of a chain makes the chain longer by the next operand. -/
theorem join {chain : Chain} {token : Token} {node : Expr → Expr → Expr}
    {lefts rights : List Token} {left right : Expr} (joins : chain.join? token = some node)
    (derivedLeft : Derives (.chain chain) lefts left)
    (derivedRight : Derives chain.operand rights right) :
    Derives (.chain chain) (lefts ++ token :: rights) (node left right) := by
  -- Six tokens join operands, and each of them has a rule.
  unfold Chain.join? at joins
  split at joins <;> cases joins
  · exact .or derivedLeft derivedRight
  · exact .and derivedLeft derivedRight
  · exact .add derivedLeft derivedRight
  · exact .subtract derivedLeft derivedRight
  · exact .multiply derivedLeft derivedRight
  · exact .divide derivedLeft derivedRight

/-- A sign of comparison between two sums makes a predicate. -/
theorem comparison {token : Token} {node : Expr → Expr → Expr} {lefts rights : List Token}
    {left right : Expr} (sign : comparison? token = some node)
    (derivedLeft : Derives (.chain .sum) lefts left)
    (derivedRight : Derives (.chain .sum) rights right) :
    Derives .predicate (lefts ++ token :: rights) (node left right) := by
  -- Six signs compare, and each of them has a rule.
  unfold comparison? at sign
  split at sign <;> cases sign
  · exact .equal derivedLeft derivedRight (equates_iff.2 rfl)
  · exact .notEqual derivedLeft derivedRight (equates_iff.2 rfl)
  · exact .order derivedLeft .less derivedRight
  · exact .order derivedLeft .lessEqual derivedRight
  · exact .order derivedLeft .greater derivedRight
  · exact .order derivedLeft .greaterEqual derivedRight

/-- A predicate is a condition. -/
theorem condition {tokens : List Token} {tree : Expr} (derived : Derives .predicate tokens tree) :
    Derives (.chain .or) tokens tree :=
  -- Every level of the grammar contains the ones below it.
  .conjunction (.negation (.predicate derived))

/-- A unary phrase can stand behind NOT. -/
theorem negation_of_unary {tokens : List Token} {tree : Expr}
    (derived : Derives .unary tokens tree) : Derives .negation tokens tree :=
  -- A unary is a product, a sum and a predicate of one operand.
  .predicate (.sum (.product (.unary derived)))

/-- A unary phrase is a chain of every kind, since chains of one operand are that operand. -/
theorem loosen {tokens : List Token} {tree : Expr} (derived : Derives .unary tokens tree)
    (chain : Chain) : Derives (.chain chain) tokens tree := by
  -- Each rank takes in the next tighter one, from products out to conditions.
  cases chain with
  | or => exact .conjunction (.negation derived.negation_of_unary)
  | and => exact .negation derived.negation_of_unary
  | sum => exact .product (.unary derived)
  | product => exact .unary derived

/-- The end of the input is a part of no phrase. -/
theorem endOfInput_notMem {rank : Rank} {tokens : List Token} {tree : Expr}
    (derived : Derives rank tokens tree) : .endOfInput ∉ tokens := by
  -- No rule has the end among its own tokens.
  induction derived with
  | like negated pattern clause operand made ih =>
    cases negated <;> cases clause <;> simp [notWord, escapeWords, ih]
  | between negated value lower upper ihValue ihLower ihUpper =>
    cases negated <;> simp [notWord, ihValue, ihLower, ihUpper]
  | within negated first more operand ih =>
    cases negated <;> simp [notWord, commaStrings, ih]
  | isNull negated operand ih => cases negated <;> simp [notWord, ih]
  | _ => simp_all

/-- A phrase has at least one token. -/
theorem ne_nil {rank : Rank} {tokens : List Token} {tree : Expr}
    (derived : Derives rank tokens tree) : tokens ≠ [] := by
  -- Every rule has a token of its own or takes in a phrase that has one.
  induction derived with
  | _ => simp_all

end Derives

/-- The tokens are a whole selector up to its end, which stands for the tree. -/
def DerivesSelector (tokens : List Token) (tree : Expr) : Prop :=
  ∃ body, tokens = body ++ [.endOfInput] ∧ Derives (.chain .or) body tree

end MessageSelector
