/-! Lists without repetitions. -/

namespace MessageSelector

/-- The items of a list in the order in which each of them comes first. -/
def firstOccurrences {α : Type} [DecidableEq α] : List α → List α
  -- Each item removes all later copies of itself, so the first one stays where it is.
  | [] => []
  | item :: rest => item :: (firstOccurrences rest).filter (fun later => decide (later ≠ item))

/-- No item is left twice. -/
theorem nodup_firstOccurrences {α : Type} [DecidableEq α] (items : List α) :
    (firstOccurrences items).Nodup := by
  induction items with
  | nil => exact List.nodup_nil
  | cons item rest ih =>
    -- The rest has lost every copy of the first item, and filtering repeats nothing.
    refine List.nodup_cons.2 ⟨?_, ih.sublist List.filter_sublist⟩
    simp

/-- Every item that comes at all has a first place. -/
@[simp] theorem mem_firstOccurrences {α : Type} [DecidableEq α] {item : α} {items : List α} :
    item ∈ firstOccurrences items ↔ item ∈ items := by
  induction items with
  | nil => rfl
  | cons first rest ih =>
    -- A later copy of the first item is filtered out, but the item itself has come by then.
    by_cases same : item = first
    · simp [firstOccurrences, same]
    · simp [firstOccurrences, same, ih]

end MessageSelector
