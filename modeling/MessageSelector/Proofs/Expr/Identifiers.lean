import MessageSelector.Proofs.Distinct
import MessageSelector.Proofs.Expr.Questions
import MessageSelector.Proofs.Leaves
import MessageSelector.Regex.Plain

/-! The identifiers of a tree: where they stand in it, how their instances are collected, and that
an evaluation depends on nothing else. -/

namespace MessageSelector

namespace Expr

section

variable [Regex.Engine]

/-- The operands of a tree from left to right; a leaf has none. -/
def operands : Expr → List Expr
  -- The operands are listed in the order in which the rendering shows them.
  | literal _ | reference _ => []
  | arithmetic _ left right | compare _ left right | connect _ left right | equal _ left right =>
    [left, right]
  | negate operand | not operand | within operand _ | like operand _ _ | isNull operand =>
    [operand]
  | between value lower upper => [value, lower, upper]

/-- The part of a tree at the end of a path, each step of which is the number of an operand. -/
def part? : List Nat → Expr → Option Expr
  -- A step that points past the last operand leads nowhere.
  | [], tree => some tree
  | step :: path, tree => tree.operands[step]?.bind (part? path)

/-- The path leads to a leaf that is the identifier. -/
def LeadsTo (tree : Expr) (path : List Nat) (identifier : Identifier) : Prop :=
  tree.part? path = some (.reference identifier)

/-- Some leaf of the first identifier stands to the left of all leaves of the second one. -/
def ComesBefore (tree : Expr) (earlier later : Identifier) : Prop :=
  -- Paths are compared step by step, so the smaller one lies further to the left.
  ∃ path, tree.LeadsTo path earlier ∧
    ∀ other, tree.LeadsTo other later → List.Lex (· < ·) path other

/-- What holds of every identifier, and of every other tree when it holds of its operands, holds of
all trees. -/
theorem operands_induction {motive : Expr → Prop}
    (reference : ∀ identifier, motive (.reference identifier))
    (inner : ∀ tree : Expr, (∀ identifier, tree ≠ .reference identifier) →
      (∀ operand ∈ tree.operands, motive operand) → motive tree)
    (tree : Expr) : motive tree := by
  induction tree with
  | reference identifier => exact reference identifier
  -- Every other node is an inner one, and its hypotheses are those of its operands.
  | _ =>
    refine inner _ ?_ ?_
    · intro identifier same
      cases same
    · simp [operands, *]

/-- Only the empty path leads from a leaf anywhere. -/
theorem leadsTo_reference_iff {leaf identifier : Identifier} {path : List Nat} :
    (reference leaf).LeadsTo path identifier ↔ path = [] ∧ leaf = identifier := by
  -- A reference has no operands, so no path can take a step from it.
  cases path with
  | nil => simp [LeadsTo, part?]
  | cons step path => simp [LeadsTo, part?, operands]

section

variable {tree : Expr} (inner : ∀ identifier, tree ≠ .reference identifier)
include inner

/-- A tree that is no identifier has those of its operands, in their order. -/
theorem occurrences_eq_flatMap : tree.occurrences = tree.operands.flatMap occurrences := by
  -- Each constructor names its operands one by one, and the list has them in the same order.
  cases tree with
  | reference identifier => exact absurd rfl (inner identifier)
  | _ => simp [operands, occurrences]

/-- A tree that is no identifier is constant if its operands are. -/
theorem isConstant_eq_all : tree.isConstant = tree.operands.all isConstant := by
  -- Each constructor names its operands one by one, and the list has the same ones.
  cases tree with
  | reference identifier => exact absurd rfl (inner identifier)
  | _ => simp [operands, isConstant, Bool.and_assoc]

/-- From any other tree a path to an identifier goes through an operand. -/
theorem leadsTo_iff_of_inner {path : List Nat} {identifier : Identifier} :
    tree.LeadsTo path identifier ↔
      ∃ step rest operand, path = step :: rest ∧ tree.operands[step]? = some operand ∧
        operand.LeadsTo rest identifier := by
  -- The empty path leads to the node itself, which is no identifier.
  cases path with
  | nil => simp [LeadsTo, part?, inner identifier]
  | cons step path => simp [LeadsTo, part?, Option.bind_eq_some_iff]

end

/-- The constant trees are those in which no identifier occurs. -/
theorem isConstant_iff_occurrences (tree : Expr) :
    tree.isConstant = true ↔ tree.occurrences = [] := by
  induction tree using operands_induction with
  | reference identifier => simp [isConstant, occurrences]
  -- No operand has an occurrence exactly when every one of them is constant.
  | inner tree inner ih =>
    rw [isConstant_eq_all inner, occurrences_eq_flatMap inner, List.all_eq_true,
      List.flatMap_eq_nil_iff]
    exact forall₂_congr ih

/-- The identifiers that occur in a tree are those to which a path leads. -/
theorem mem_occurrences_iff {tree : Expr} {identifier : Identifier} :
    identifier ∈ tree.occurrences ↔ ∃ path, tree.LeadsTo path identifier := by
  induction tree using operands_induction with
  | reference leaf => simp [occurrences, leadsTo_reference_iff, eq_comm]
  | inner tree inner ih =>
    rw [occurrences_eq_flatMap inner, List.mem_flatMap]
    constructor
    -- The occurrence lies in one of the operands, whose place is the first step.
    · rintro ⟨operand, isOperand, occurs⟩
      obtain ⟨step, found⟩ := List.mem_iff_getElem?.1 isOperand
      obtain ⟨path, leads⟩ := (ih operand isOperand).1 occurs
      exact ⟨step :: path, (leadsTo_iff_of_inner inner).2 ⟨step, path, operand, rfl, found, leads⟩⟩
    -- The first step names the operand, and the rest of the path stays inside of it.
    · rintro ⟨path, leads⟩
      obtain ⟨step, rest, operand, -, found, leads⟩ := (leadsTo_iff_of_inner inner).1 leads
      have isOperand := List.mem_of_getElem? found
      exact ⟨operand, isOperand, (ih operand isOperand).2 ⟨rest, leads⟩⟩

/-- Among trees side by side, what comes before within one of them comes before in all of them. -/
theorem exists_leftmost {trees : List Expr} {earlier later : Identifier}
    (inside : ∀ tree ∈ trees, tree.occurrences.idxOf earlier < tree.occurrences.idxOf later →
      tree.ComesBefore earlier later)
    (before : (trees.flatMap occurrences).idxOf earlier < (trees.flatMap occurrences).idxOf later) :
    ∃ (step : Nat) (tree : Expr) (path : List Nat),
      trees[step]? = some tree ∧ tree.LeadsTo path earlier ∧
        ∀ (other : Nat) (otherTree : Expr) (otherPath : List Nat),
          trees[other]? = some otherTree → otherTree.LeadsTo otherPath later →
            List.Lex (· < ·) (step :: path) (other :: otherPath) := by
  induction trees with
  | nil => simp at before
  | cons tree rest ih =>
    rw [List.flatMap_cons, List.idxOf_append, List.idxOf_append] at before
    by_cases occurs : earlier ∈ tree.occurrences
    · -- The later identifier comes further on in the first tree, or not in it at all.
      have within : tree.occurrences.idxOf earlier < tree.occurrences.idxOf later := by
        have bound := List.idxOf_lt_length_iff.2 occurs
        by_cases occursToo : later ∈ tree.occurrences
        · rwa [if_pos occurs, if_pos occursToo] at before
        · rwa [List.idxOf_eq_length occursToo]
      obtain ⟨path, leads, leftmost⟩ := inside tree List.mem_cons_self within
      refine ⟨0, tree, path, rfl, leads, ?_⟩
      intro other otherTree otherPath found leadsToo
      cases other with
      | zero =>
        cases found
        exact .cons (leftmost otherPath leadsToo)
      | succ other => exact .rel (Nat.succ_pos other)
    · -- Neither identifier is in the first tree.
      have absent : later ∉ tree.occurrences := by
        intro occursToo
        have bound := List.idxOf_lt_length_iff.2 occursToo
        rw [if_neg occurs, if_pos occursToo] at before
        omega
      rw [if_neg occurs, if_neg absent] at before
      obtain ⟨step, first, path, found, leads, leftmost⟩ :=
        ih (fun tree isTree => inside tree (List.mem_cons_of_mem _ isTree)) (by omega)
      refine ⟨step + 1, first, path, found, leads, ?_⟩
      intro other otherTree otherPath found leadsToo
      cases other with
      | zero =>
        cases found
        exact absurd (mem_occurrences_iff.2 ⟨otherPath, leadsToo⟩) absent
      | succ other =>
        -- One more tree to the left adds one to the first step of both paths.
        cases leftmost other otherTree otherPath found leadsToo with
        | rel less => exact .rel (Nat.succ_lt_succ less)
        | cons before => exact .cons before

/-- An identifier that occurs first is first on the paths of the tree. -/
theorem comesBefore_of_idxOf_lt {tree : Expr} {earlier later : Identifier}
    (before : tree.occurrences.idxOf earlier < tree.occurrences.idxOf later) :
    tree.ComesBefore earlier later := by
  induction tree using operands_induction with
  | reference leaf =>
    -- The one leaf is the earlier identifier, and the later one is nowhere.
    have occurs : earlier ∈ (reference leaf).occurrences :=
      List.idxOf_lt_length_iff.1 (before.trans_le List.idxOf_le_length)
    have same : leaf = earlier := (List.mem_singleton.1 occurs).symm
    have other : leaf ≠ later := by
      rintro rfl
      simp [same] at before
    refine ⟨[], leadsTo_reference_iff.2 ⟨rfl, same⟩, fun path leads => ?_⟩
    exact absurd (leadsTo_reference_iff.1 leads).2 other
  | inner tree inner ih =>
    rw [occurrences_eq_flatMap inner] at before
    obtain ⟨step, operand, path, found, leads, leftmost⟩ := exists_leftmost ih before
    refine ⟨step :: path, (leadsTo_iff_of_inner inner).2 ⟨step, path, operand, rfl, found, leads⟩,
      fun other leadsToo => ?_⟩
    obtain ⟨step, rest, operand, rfl, found, leadsToo⟩ := (leadsTo_iff_of_inner inner).1 leadsToo
    exact leftmost step operand rest found leadsToo

end

end Expr

namespace Leaves

/-- One of the requests was handed this identifier. -/
def HandsOut (requests : List LeafRequest) (leaf : Leaf Identifier) : Prop :=
  -- The leaf may have been handed out anywhere in the run, not only by its last request.
  ∃ before name later, requests = before ++ ⟨.identifiers, name⟩ :: later ∧
    ((after before).identifier name).1 = .ok leaf

variable {requests : List LeafRequest} {leaf other : Leaf Identifier}

/-- A request for an identifier is handed the one with the name that was asked for. -/
theorem Faithful.name_identifier {leaves : Leaves} (faithful : leaves.Faithful) {name : String}
    (handed : (leaves.identifier name).1 = .ok leaf) : leaf.value.name = name := by
  have made := faithful.identifiers.result_intern name
  have given : handedOut .identifiers
      (leaves.identifiers.intern name fun _ => Identifier.ofName name).1 = .ok leaf := handed
  rw [handedOut] at given
  -- A leaf was handed out, so the identifier was made from the name it was asked for.
  cases result : (leaves.identifiers.intern name fun _ => Identifier.ofName name).1.result with
  | error error =>
    rw [result] at given
    cases given
  | ok shared =>
    rw [result] at given made
    cases given
    exact Identifier.name_of_ofName made.symm

/-- An identifier that has been handed out is kept for its name. -/
theorem HandsOut.kept (handed : HandsOut requests leaf) :
    leaf.instanceKey.1 = .identifiers ∧
      (after requests).serial? ⟨.identifiers, leaf.value.name⟩ = some leaf.instanceKey.2 := by
  obtain ⟨before, name, later, rfl, handed⟩ := handed
  -- The request that handed the leaf out entered its serial number, and later ones keep it.
  have served : ((after before).serve ⟨.identifiers, name⟩).1 = .ok (leaf.map .inl) := by
    rw [serve, viewed, handed]
    rfl
  obtain ⟨source, kept⟩ := instanceKey_serve served
  have keptFor := kept LeafSource.noConfusion
  rw [← after_concat] at keptFor
  refine ⟨source, ?_⟩
  rw [(faithful_after before).name_identifier handed, List.append_cons]
  exact serial?_after_append keptFor later

/-- Identifiers that have been handed out are one instance exactly if they are equal. -/
theorem HandsOut.instanceKey_eq_iff (handed : HandsOut requests leaf)
    (handedToo : HandsOut requests other) :
    leaf.instanceKey = other.instanceKey ↔ leaf.value = other.value := by
  obtain ⟨source, kept⟩ := handed.kept
  obtain ⟨sourceToo, keptToo⟩ := handedToo.kept
  constructor
  · intro same
    -- No instance is kept for two names.
    rw [← same] at keptToo
    have requestsAgree := (faithful_after requests).request_eq kept keptToo rfl
    exact Identifier.eq_of_name_eq (congrArg LeafRequest.text requestsAgree)
  · intro same
    rw [same, keptToo] at kept
    exact Prod.ext (source.trans sourceToo.symm) (Option.some.inj kept).symm

/-- Collected by instance, identifiers that have been handed out are the first ones of each name. -/
theorem map_collectBy_instanceKey {leaves : List (Leaf Identifier)}
    (handed : ∀ leaf ∈ leaves, HandsOut requests leaf) :
    (leaves.foldl (collectBy Leaf.instanceKey) []).map Leaf.value =
      firstOccurrences (leaves.map Leaf.value) := by
  -- Among leaves of one run, the same instance means the same value, so both tests keep the same
  -- leaves.
  have collected := map_foldl_collectBy Leaf.instanceKey Leaf.value [] leaves
    fun leaf held other heldToo =>
      (handed leaf held).instanceKey_eq_iff (handed other heldToo)
  simpa using collected

end Leaves

namespace Expr

section

variable [Regex.Engine]

/-- A constant tree has one value for all providers and asks none of them. -/
theorem exists_value_of_isConstant {tree : Expr} (constant : tree.isConstant = true) :
    ∃ value, ∀ {κ : Type} (provider : Provider κ) (token : κ),
      tree.evalWith provider token = value ∧ tree.questionsWith provider token = [] := by
  have empty : tree.occurrences = [] := (isConstant_iff_occurrences tree).1 constant
  -- Without occurrences there is nothing that two providers could answer differently.
  have none (identifier : Identifier) : identifier ∉ tree.occurrences := by simp [empty]
  refine ⟨tree.eval ∅, fun provider token => ⟨?_, ?_⟩⟩
  · apply evalWith_congr
    intro identifier held
    exact absurd (mem_firstOccurrences.1 held) (none identifier)
  · apply List.eq_nil_iff_forall_not_mem.2
    intro question asked
    exact none _ (identifier_mem_occurrences provider token asked)

/-- The identifiers of a tree are those at its leaves, each name once and in the order of the
leftmost leaves, also when they are collected by instance; a tree is constant if it has none. An
evaluation asks for no others and depends on nothing else, so that a constant tree has one value
and asks for nothing. -/
theorem identifiers_describe (tree : Expr) :
    (tree.identifiers.map Identifier.name).Nodup ∧
    (∀ identifier, identifier ∈ tree.identifiers ↔ ∃ path, tree.LeadsTo path identifier) ∧
    tree.identifiers.Pairwise tree.ComesBefore ∧
    (∀ (requests : List LeafRequest) (leaves : List (Leaf Identifier)),
      (∀ leaf ∈ leaves, Leaves.HandsOut requests leaf) →
      leaves.map Leaf.value = tree.occurrences →
      (leaves.foldl (collectBy Leaf.instanceKey) []).map Leaf.value = tree.identifiers) ∧
    (tree.isConstant = true ↔ tree.identifiers = []) ∧
    (∀ {κ : Type} (provider : Provider κ) (token : κ),
      ∀ question ∈ tree.questionsWith provider token,
        question.identifier ∈ tree.identifiers) ∧
    (∀ mapping other : Mapping,
      (∀ name ∈ tree.identifiers.map Identifier.name, mapping[name]? = other[name]?) →
      tree.eval mapping = tree.eval other) ∧
    (tree.isConstant = true → ∃ value, (∀ mapping, tree.eval mapping = value) ∧
      ∀ {κ : Type} (provider : Provider κ) (token : κ),
        tree.evalWith provider token = value ∧ tree.questionsWith provider token = []) := by
  refine ⟨?names, ?leaves, ?order, ?instances, ?constant, ?asked, ?agree, ?value⟩
  -- Identifiers without repetition have names without repetition, as the name determines the rest.
  case names =>
    exact (nodup_firstOccurrences _).map fun _ _ same => Identifier.eq_of_name_eq same
  case leaves =>
    intro identifier
    rw [identifiers, mem_firstOccurrences, mem_occurrences_iff]
  case order => exact (pairwise_firstOccurrences _).imp comesBefore_of_idxOf_lt
  case instances =>
    intro requests leaves handed values
    rw [Leaves.map_collectBy_instanceKey handed, values, identifiers]
  case constant =>
    rw [isConstant_iff_occurrences, identifiers, firstOccurrences_eq_nil_iff]
  case asked =>
    intro κ provider token question asked
    exact mem_firstOccurrences.2 (identifier_mem_occurrences provider token asked)
  -- A mapping answers by name, so agreement on the names is agreement of the providers.
  case agree =>
    intro mapping other agree
    apply evalWith_congr
    intro identifier held
    exact agree identifier.name (List.mem_map_of_mem held)
  case value =>
    intro constant
    obtain ⟨value, same⟩ := exists_value_of_isConstant constant
    exact ⟨value, fun mapping => (same mapping.provider ()).1, same⟩

end

/-- In `b > a OR b IS NULL` the name `b` comes first and is listed once, though two leaves refer to
its one instance; a binding of `c` does not count, and `NOT TRUE` has its value without any. -/
theorem identifiers_describe_or_isNull :
    let a : Identifier := ⟨"a", by decide, by decide⟩
    let b : Identifier := ⟨"b", by decide, by decide⟩
    let tree : Expr := .connect .or (.compare .greater (.reference b) (.reference a))
      (.isNull (.reference b))
    let constant : Expr := .not (.literal (.boolean true))
    let requests : List LeafRequest := [⟨.identifiers, "a"⟩, ⟨.identifiers, "b"⟩]
    let leaves : List (Leaf Identifier) :=
      [⟨.identifiers, 1, b⟩, ⟨.identifiers, 0, a⟩, ⟨.identifiers, 1, b⟩]
    let other : Mapping := (∅ : Mapping).insert "c" (.boolean true)
    (∀ leaf ∈ leaves, Leaves.HandsOut requests leaf) ∧
      leaves.map Leaf.value = tree.occurrences ∧
      (leaves.foldl (collectBy Leaf.instanceKey) []).map Leaf.value = tree.identifiers ∧
      tree.identifiers = [b, a] ∧ tree.ComesBefore b a ∧
      (∀ name ∈ tree.identifiers.map Identifier.name, (∅ : Mapping)[name]? = other[name]?) ∧
      tree.eval ∅ = tree.eval other ∧
      constant.isConstant = true ∧ constant.eval ∅ = constant.eval other := by
  intro a b tree constant requests leaves other
  -- The leaf of b was made second but stands in the tree twice, around that of a.
  have madeA : Identifier.ofName "a" = .ok a := a.ofName_name
  have madeB : Identifier.ofName "b" = .ok b := b.ofName_name
  have handsA : Leaves.HandsOut requests ⟨.identifiers, 0, a⟩ := by
    refine ⟨[], "a", [⟨.identifiers, "b"⟩], rfl, ?_⟩
    simp [Leaves.after, Leaves.empty, Leaves.identifier, Leaves.handedOut, Interner.intern,
      Interner.empty, Interner.size, Except.map, madeA]
  have handsB : Leaves.HandsOut requests ⟨.identifiers, 1, b⟩ := by
    refine ⟨[⟨.identifiers, "a"⟩], "b", [], rfl, ?_⟩
    simp [Leaves.after, Leaves.empty, Leaves.serve_identifiers, Leaves.viewed, Leaves.identifier,
      Leaves.handedOut, Interner.intern, Interner.empty, Interner.size, Except.map,
      Std.HashMap.size_insert, madeA, madeB]
  have handed : ∀ leaf ∈ leaves, Leaves.HandsOut requests leaf := by
    simp only [leaves, List.forall_mem_cons]
    exact ⟨handsB, handsA, handsB, List.forall_mem_nil _⟩
  have listed : tree.identifiers = [b, a] := by decide
  have agree : ∀ name ∈ tree.identifiers.map Identifier.name,
      (∅ : Mapping)[name]? = other[name]? := by
    rw [listed]
    simp [other, a, b, Std.HashMap.getElem?_insert]
  obtain ⟨-, -, order, instances, -, -, same, -⟩ := identifiers_describe tree
  obtain ⟨-, -, -, -, -, -, -, value⟩ := identifiers_describe constant
  obtain ⟨outcome, always, -⟩ := value rfl
  rw [listed] at order
  exact ⟨handed, rfl, instances requests leaves handed rfl, listed,
    (List.pairwise_cons.1 order).1 a (List.mem_singleton_self a), agree, same ∅ other agree, rfl,
    (always ∅).trans (always other).symm⟩

end Expr

end MessageSelector
