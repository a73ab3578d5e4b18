import Mathlib.Data.List.Induction
import Mathlib.Data.Set.Card
import MessageSelector.Interner

/-! Instances kept under keys over a run of steps, which their serials tell apart. -/

namespace MessageSelector

variable {α : Type} {instances : Std.HashMap String (Shared α)} {made : Nat}
  {key other : String} {shared again : Shared α}

/-- Each key has an instance with a serial of its own, and all of these serials have been given. -/
structure Numbered (instances : Std.HashMap String (Shared α)) (made : Nat) : Prop where
  -- The bound makes the next serial number a new one.
  below : ∀ {key : String} {shared : Shared α}, instances[key]? = some shared → shared.serial < made
  key_eq : ∀ {key other : String} {shared again : Shared α}, instances[key]? = some shared →
    instances[other]? = some again → shared.serial = again.serial → key = other

/-- What is found after an instance was put under a key is this instance, or was there before. -/
theorem eq_or_found_of_insert (found : (instances.insert key shared)[other]? = some again) :
    key = other ∧ shared = again ∨ instances[other]? = some again := by
  -- An insertion changes the answer for its own key only.
  by_cases same : key = other
  · subst same
    rw [Std.HashMap.getElem?_insert_self] at found
    exact .inl ⟨rfl, Option.some.inj found⟩
  · rw [Std.HashMap.getElem?_insert, if_neg (by simpa using same)] at found
    exact .inr found

/-- The number of instances is the number of keys that have one. -/
theorem size_eq_ncard (instances : Std.HashMap String (Shared α)) :
    instances.size = {key : String | ∃ shared, instances[key]? = some shared}.ncard := by
  -- The keys are a list without repetition, so counting them counts the set.
  have keys :
      {key : String | ∃ shared, instances[key]? = some shared} = instances.keys.toFinset := by
    ext key
    simp [← Option.isSome_iff_exists]
  rw [keys, Set.ncard_coe_finset, List.toFinset_card_of_nodup Std.HashMap.nodup_keys,
    Std.HashMap.length_keys]

namespace Numbered

/-- A table without instances needs no serials. -/
theorem empty : Numbered (∅ : Std.HashMap String (Shared α)) made where
  below found := by simp at found
  key_eq found := by simp at found

/-- Two instances have the same serial exactly if they are kept under the same key. -/
theorem serial_eq_iff (numbered : Numbered instances made) (found : instances[key]? = some shared)
    (foundAgain : instances[other]? = some again) :
    shared.serial = again.serial ↔ key = other := by
  refine ⟨numbered.key_eq found foundAgain, ?_⟩
  -- One key has one instance, and so one serial number.
  rintro rfl
  rw [found] at foundAgain
  exact congrArg Shared.serial (Option.some.inj foundAgain)

/-- A new instance gets the next serial, which no other has. -/
theorem insert (numbered : Numbered instances made) (key : String) (value : α) :
    Numbered (instances.insert key ⟨made, value⟩) (made + 1) where
  below found := by
    rcases eq_or_found_of_insert found with ⟨-, rfl⟩ | before
    · exact Nat.lt_succ_self made
    · exact Nat.lt_succ_of_lt (numbered.below before)
  key_eq found foundAgain same := by
    rcases eq_or_found_of_insert found with ⟨rfl, rfl⟩ | before <;>
      rcases eq_or_found_of_insert foundAgain with ⟨rfl, rfl⟩ | beforeToo
    · rfl
    · -- The serials that have been given are below the next one.
      exact absurd same.symm (Nat.ne_of_lt (numbered.below beforeToo))
    · exact absurd same (Nat.ne_of_lt (numbered.below before))
    · exact numbered.key_eq before beforeToo same

/-- Instances that are kept when others are taken away keep their serials. -/
theorem mono (numbered : Numbered instances made) {fewer : Std.HashMap String (Shared α)}
    (kept : ∀ {key : String} {shared : Shared α}, fewer[key]? = some shared →
      instances[key]? = some shared) : Numbered fewer made where
  below found := numbered.below (kept found)
  key_eq found foundAgain := numbered.key_eq (kept found) (kept foundAgain)

end Numbered

/-- A step in a run is the last one or stands in the run before the last one. -/
theorem exists_split_concat_iff {σ : Type} {steps : List σ} {last : σ}
    {holds : List σ → σ → List σ → Prop} :
    (∃ before step later, steps ++ [last] = before ++ step :: later ∧ holds before step later) ↔
      (∃ before step later, steps = before ++ step :: later ∧
        holds before step (later ++ [last])) ∨ holds steps last [] := by
  constructor
  · -- The run after the step is empty, or it ends with the last step.
    rintro ⟨before, step, later, split, held⟩
    rcases List.eq_nil_or_concat later with rfl | ⟨front, end_, rfl⟩
    · obtain ⟨rfl, rfl⟩ := List.append_singleton_inj.1 split
      exact .inr held
    · rw [List.concat_eq_append] at split held
      have front_eq : steps ++ [last] = (before ++ step :: front) ++ [end_] := by simpa using split
      obtain ⟨rfl, rfl⟩ := List.append_singleton_inj.1 front_eq
      exact .inl ⟨before, step, front, rfl, held⟩
  · rintro (⟨before, step, later, rfl, held⟩ | held)
    · exact ⟨before, step, later ++ [last], by simp, held⟩
    · exact ⟨steps, last, [], rfl, held⟩

end MessageSelector
