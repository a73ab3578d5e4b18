import MessageSelector.Proofs.Distinct
import MessageSelector.StringSet
import Mathlib.Data.Finset.Card

/-! Sets of strings as they are collected: the members in their order and the table in which they
are looked up stay in step, so that what is written is what is tested. -/

namespace MessageSelector

namespace StringSet

/-- Sets with the same members are the same. -/
theorem eq_of_members_eq {first second : StringSet} (same : first.members = second.members) :
    first = second := by
  -- A set is determined by its list, since the rest of it is a proof.
  cases first
  cases second
  cases same
  rfl

/-- A set while its items are added one by one: its members in order, and a table of the same
strings. -/
@[ext]
structure Collected where
  -- The list has the order and the table answers the lookups.
  members : List String
  table : Finset String

namespace Collected

/-- Nothing is collected yet. -/
def empty : Collected :=
  ⟨[], ∅⟩

/-- Adds an item to the table, and also to the members if it is new to the table. -/
def add (collected : Collected) (item : String) : Collected where
  -- The table is asked before it is extended, so the first occurrence wins.
  members := if item ∈ collected.table then collected.members else collected.members ++ [item]
  table := insert item collected.table

/-- All items of a list, added from left to right. -/
def ofList (items : List String) : Collected :=
  items.foldl add empty

/-- The members are the strings of the table, each of them once. -/
structure InStep (collected : Collected) : Prop where
  -- The table holds exactly the texts of the list.
  nodup : collected.members.Nodup
  mem_iff : ∀ text, text ∈ collected.table ↔ text ∈ collected.members

/-- Without any items there is nothing to differ in. -/
theorem inStep_empty : InStep empty where
  nodup := List.nodup_nil
  mem_iff text := by simp [empty]

/-- Adding an item keeps the members and the table in step. -/
theorem InStep.add {collected : Collected} (inStep : collected.InStep) (item : String) :
    (collected.add item).InStep := by
  by_cases known : item ∈ collected.table
  · -- An item that is known changes neither of them.
    have held := (inStep.mem_iff item).1 known
    constructor
    · rw [Collected.add, if_pos known]
      exact inStep.nodup
    · intro text
      rw [Collected.add, if_pos known, Finset.insert_eq_of_mem known]
      exact inStep.mem_iff text
  · -- A new item comes behind all others, of which none is the same.
    have fresh : item ∉ collected.members := mt (inStep.mem_iff item).2 known
    constructor
    · rw [Collected.add, if_neg known, ← List.concat_eq_append]
      exact inStep.nodup.concat fresh
    · intro text
      rw [Collected.add, if_neg known, Finset.mem_insert, inStep.mem_iff, List.mem_append,
        List.mem_singleton, or_comm]

/-- A member is added where no member is the same. -/
theorem InStep.members_add {collected : Collected} (inStep : collected.InStep) (item : String) :
    (collected.add item).members = collectBy id collected.members item := by
  -- Asking the table is asking the list, which is what the plain traversal does.
  have known : (item ∈ collected.table) ↔ collected.members.any (id · == id item) = true := by
    rw [inStep.mem_iff, List.any_eq_true]
    simp
  simp only [Collected.add, collectBy, known]

/-- Adding items one by one keeps the members and the table in step, and adds those members that
are new. -/
theorem InStep.foldl {collected : Collected} (inStep : collected.InStep) (items : List String) :
    (items.foldl Collected.add collected).InStep ∧
      (items.foldl Collected.add collected).members =
        items.foldl (collectBy id) collected.members := by
  induction items generalizing collected with
  | nil => exact ⟨inStep, rfl⟩
  | cons item rest ih =>
    -- One item is added on both sides, and the two stay in step.
    rw [List.foldl_cons, List.foldl_cons, ← inStep.members_add item]
    exact ih (inStep.add item)

/-- A list of items is collected with members and table in step. -/
theorem inStep_ofList (items : List String) : (ofList items).InStep :=
  (inStep_empty.foldl items).1

/-- The members that are collected are those of the set. -/
theorem members_ofList (items : List String) :
    (ofList items).members = (StringSet.ofList items).members := by
  have collected := map_foldl_collectBy (id : String → String) id [] items fun _ _ _ _ => Iff.rfl
  -- The loop starts from an empty list and an empty table, which are in step.
  rw [ofList, (inStep_empty.foldl items).2]
  simpa [empty, StringSet.ofList] using collected

/-- What is found in the table is a member of the set. -/
theorem mem_table_ofList_iff {items : List String} {text : String} :
    text ∈ (ofList items).table ↔ text ∈ (StringSet.ofList items).members := by
  -- The table and the list are in step at the end of the loop.
  rw [(inStep_ofList items).mem_iff, members_ofList]

/-- Two lists are collected alike where they make the same set. -/
theorem ofList_eq_iff {items other : List String} :
    ofList items = ofList other ↔ StringSet.ofList items = StringSet.ofList other := by
  constructor
  · intro same
    apply eq_of_members_eq
    rw [← members_ofList, same, members_ofList]
  · -- The tables say nothing that the members do not say.
    intro same
    apply Collected.ext
    · rw [members_ofList, members_ofList, same]
    · ext text
      rw [mem_table_ofList_iff, mem_table_ofList_iff, same]

end Collected

/-- A set made of a list has the distinct items in the order in which they come first. -/
theorem keepsFirst_members (items : List String) : KeepsFirst items (ofList items).members :=
  keepsFirst_firstOccurrences items

/-- The members of a set and its table are collected in step: the members are the distinct items of
the list in the order in which they come first, and the items are what is found. Collecting the
members once more changes nothing, and two lists make the same set if their distinct items come
first in the same order, so that the same items in another order can make another set. -/
theorem ofList_in_step (items other : List String) :
    KeepsFirst items (ofList items).members ∧
    (Collected.ofList items).members = (ofList items).members ∧
    (∀ text, text ∈ (Collected.ofList items).table ↔ (ofList items).contains text = true) ∧
    (∀ text, (ofList items).contains text = true ↔ text ∈ items) ∧
    (ofList items).size = items.toFinset.card ∧
    ((ofList items).isEmpty = true ↔ items = []) ∧
    ofList (ofList items).members = ofList items ∧
    (Collected.ofList items = Collected.ofList other ↔ ofList items = ofList other) ∧
    (ofList items = ofList other ↔ ∃ kept, KeepsFirst items kept ∧ KeepsFirst other kept) ∧
    ∃ first second : List String, first.Perm second ∧ ofList first ≠ ofList second := by
  have keeps := keepsFirst_members items
  refine ⟨keeps, Collected.members_ofList items, ?table, ?items, ?size, ?none, ?again,
    Collected.ofList_eq_iff, ?same, ["a", "b"], ["b", "a"], ?order⟩
  case table =>
    intro text
    rw [Collected.mem_table_ofList_iff, contains, List.contains_iff_mem]
  case items =>
    intro text
    rw [contains, List.contains_iff_mem, keeps.mem_iff]
  -- Both lists have the same members, and the kept one names each of them once.
  case size =>
    have held : (ofList items).members.toFinset = items.toFinset := by
      ext text
      rw [List.mem_toFinset, List.mem_toFinset, keeps.mem_iff]
    rw [size, ← held, List.toFinset_card_of_nodup keeps.nodup]
  case none => rw [isEmpty, List.isEmpty_iff, ofList, firstOccurrences_eq_nil_iff]
  case again =>
    apply eq_of_members_eq
    exact firstOccurrences_of_nodup keeps.nodup
  -- The list that keeps the first occurrences is determined by what it keeps them of.
  case same =>
    constructor
    · intro same
      exact ⟨(ofList items).members, keeps, same ▸ keepsFirst_members other⟩
    · rintro ⟨kept, first, second⟩
      apply eq_of_members_eq
      rw [keeps.eq first, (keepsFirst_members other).eq second]
  -- Two orders of the same texts are two sets.
  case order => exact ⟨.swap "b" "a" [], by decide⟩

end StringSet

end MessageSelector
