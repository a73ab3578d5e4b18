import MessageSelector.Distinct

/-! Lists without repetitions: the order of what they keep, and how they are collected. -/

namespace MessageSelector

section

variable {α : Type} [DecidableEq α]

/-- A list in which no item comes twice keeps all of its items. -/
theorem firstOccurrences_of_nodup {items : List α} (nodup : items.Nodup) :
    firstOccurrences items = items := by
  -- Nothing is filtered out of the rest, since the item does not come there again.
  induction items with
  | nil => rfl
  | cons item rest ih =>
    obtain ⟨fresh, nodup⟩ := List.nodup_cons.1 nodup
    have kept : rest.filter (fun later => decide (later ≠ item)) = rest := by
      refine List.filter_eq_self.2 fun later held => decide_eq_true ?_
      intro same
      subst same
      exact fresh held
    rw [firstOccurrences, ih nodup, kept]

/-- Only of the empty list nothing is kept. -/
@[simp] theorem firstOccurrences_eq_nil_iff {items : List α} :
    firstOccurrences items = [] ↔ items = [] := by
  -- Both lists have the same members, and having none is being empty.
  simp only [List.eq_nil_iff_forall_not_mem, mem_firstOccurrences]

/-- Items are kept in the order of the places where they come first. -/
theorem pairwise_firstOccurrences (items : List α) :
    (firstOccurrences items).Pairwise (items.idxOf · < items.idxOf ·) := by
  induction items with
  | nil => exact .nil
  | cons item rest ih =>
    have further {later : α} (other : later ≠ item) :
        (item :: rest).idxOf later = rest.idxOf later + 1 := by
      rw [List.idxOf_cons, beq_false_of_ne other.symm, cond_false]
    refine List.pairwise_cons.2 ⟨fun later held => ?_, ?_⟩
    · -- The first item stands at the very front.
      rw [List.idxOf_cons_self, further (by simpa using (List.mem_filter.1 held).2)]
      exact Nat.succ_pos _
    · -- All others have one more item in front of them than in the rest.
      refine (ih.filter _).imp_of_mem fun {earlier later} held heldToo before => ?_
      rw [further (by simpa using (List.mem_filter.1 held).2),
        further (by simpa using (List.mem_filter.1 heldToo).2)]
      exact Nat.succ_lt_succ before

/-- The items of a list, each of them once, in the order of the places where they come first. -/
structure KeepsFirst (items kept : List α) : Prop where
  -- Together the three fields determine the list.
  nodup : kept.Nodup
  mem_iff : ∀ item, item ∈ kept ↔ item ∈ items
  ordered : kept.Pairwise (items.idxOf · < items.idxOf ·)

/-- The first occurrences are these items in this order. -/
theorem keepsFirst_firstOccurrences (items : List α) :
    KeepsFirst items (firstOccurrences items) where
  nodup := nodup_firstOccurrences items
  mem_iff _ := mem_firstOccurrences
  ordered := pairwise_firstOccurrences items

/-- No other list has these items in this order. -/
theorem KeepsFirst.eq {items kept other : List α} (first : KeepsFirst items kept)
    (second : KeepsFirst items other) : kept = other := by
  have same : kept.Perm other := by
    apply (List.perm_ext_iff_of_nodup first.nodup second.nodup).2
    intro item
    rw [first.mem_iff, second.mem_iff]
  -- Of two items only one can come before the other.
  apply same.eq_of_pairwise _ first.ordered second.ordered
  intro earlier later _ _ before after
  omega

end

section

variable {α β κ : Type} [DecidableEq β] [DecidableEq κ]

/-- Adds an item to those found so far, unless one of these has the same key. -/
def collectBy (key : α → κ) (found : List α) (item : α) : List α :=
  if found.any (key · == key item) then found else found ++ [item]

/-- Where keys tell the same items apart as values do, collecting by key keeps the first items of
each value. -/
theorem map_foldl_collectBy (key : α → κ) (value : α → β) (found items : List α)
    (told : ∀ item ∈ found ++ items, ∀ other ∈ found ++ items,
      key item = key other ↔ value item = value other) :
    (items.foldl (collectBy key) found).map value =
      found.map value ++
        (firstOccurrences (items.map value)).filter fun new => decide (new ∉ found.map value) := by
  induction items generalizing found with
  | nil => simp [firstOccurrences]
  | cons item rest ih =>
    have known : found.any (key · == key item) = true ↔ value item ∈ found.map value := by
      simp only [List.any_eq_true, beq_iff_eq, List.mem_map]
      refine exists_congr fun other => and_congr_right fun held => ?_
      exact told other (by simp [held]) item (by simp)
    rw [List.foldl_cons, collectBy, List.map_cons, firstOccurrences]
    by_cases held : value item ∈ found.map value
    · -- An item that has been found changes nothing, here and in the rest.
      rw [if_pos (known.2 held), ih found fun one hasOne other hasOther =>
        told one (by grind) other (by grind), List.filter_cons_of_neg (by simpa using held),
        List.filter_filter]
      refine congrArg (found.map value ++ ·) (List.filter_congr fun new _ => ?_)
      simp only [← Bool.decide_and, decide_eq_decide]
      exact ⟨fun fresh => ⟨fresh, fun same => fresh (same ▸ held)⟩, And.left⟩
    · -- A new item is found now, and is new no longer in the rest.
      rw [if_neg (mt known.1 held), ih (found ++ [item]) fun one hasOne other hasOther =>
        told one (by simpa using hasOne) other (by simpa using hasOther),
        List.filter_cons_of_pos (by simpa using held), List.filter_filter, List.map_append,
        List.append_assoc]
      simp [not_or, Bool.decide_and]

end

end MessageSelector
