import MessageSelector.Proofs.Instances

/-! Runs of calls on a table: what a key is built for is built once and kept for all later calls. -/

namespace MessageSelector

namespace Interner

variable {ε α : Type} {interner : Interner α} {key other : String} {shared again : Shared α}
  {build : Unit → Except ε α}

/-- A key that has an instance is handed this one, and nothing is built. -/
theorem intern_of_found (found : interner.instances[key]? = some shared) :
    interner.intern key build = (⟨.ok shared, false⟩, interner) := by
  -- A kept instance is handed out without a call of the maker.
  rw [intern, found]

/-- A key without an instance is refused when its building fails, which changes nothing. -/
theorem intern_of_error {error : ε} (absent : interner.instances[key]? = none)
    (fails : build () = .error error) :
    interner.intern key build = (⟨.error error, true⟩, interner) := by
  -- A failing maker leaves nothing behind.
  rw [intern, absent, fails]

/-- A key without an instance is handed a new one when its building succeeds. -/
theorem intern_of_ok {value : α} (absent : interner.instances[key]? = none)
    (succeeds : build () = .ok value) :
    interner.intern key build =
      (⟨.ok ⟨interner.size, value⟩, true⟩,
        ⟨interner.instances.insert key ⟨interner.size, value⟩⟩) := by
  -- The number of instances so far is the serial number of the new one.
  rw [intern, absent, succeeds]

/-- All that can come of a request: the instance that is kept for the key, or else what its building
leads to. -/
theorem intern_cases (interner : Interner α) (key : String) (build : Unit → Except ε α) :
    (∃ kept, interner.instances[key]? = some kept ∧
        interner.intern key build = (⟨.ok kept, false⟩, interner)) ∨
      interner.instances[key]? = none ∧
        ((∃ error, build () = .error error ∧
            interner.intern key build = (⟨.error error, true⟩, interner)) ∨
          ∃ value, build () = .ok value ∧
            interner.intern key build =
              (⟨.ok ⟨interner.size, value⟩, true⟩,
                ⟨interner.instances.insert key ⟨interner.size, value⟩⟩)) := by
  -- There are three outcomes: kept before, refused by the maker, and made anew.
  cases found : interner.instances[key]? with
  | some kept => exact .inl ⟨kept, rfl, intern_of_found found⟩
  | none =>
    refine .inr ⟨rfl, ?_⟩
    cases built : build () with
    | error error => exact .inl ⟨error, rfl, intern_of_error found built⟩
    | ok value => exact .inr ⟨value, rfl, intern_of_ok found built⟩

/-- A new key makes the table larger by one. -/
theorem size_insert (absent : interner.instances[key]? = none) (shared : Shared α) :
    (Interner.mk (interner.instances.insert key shared)).size = interner.size + 1 := by
  -- The key is new, so one more instance is kept.
  have missing : key ∉ interner.instances := by
    simpa using Option.isNone_iff_eq_none.2 absent
  rw [size, Std.HashMap.size_insert, if_neg missing, size]

/-- An instance is kept after a request if it was kept before or has just been handed out. -/
theorem found_intern_iff :
    (interner.intern key build).2.instances[other]? = some shared ↔
      interner.instances[other]? = some shared ∨
        key = other ∧ (interner.intern key build).1.result = .ok shared := by
  rcases interner.intern_cases key build with
    ⟨kept, found, same⟩ | ⟨absent, ⟨error, -, same⟩ | ⟨value, -, same⟩⟩
  · rw [same]
    refine ⟨.inl, ?_⟩
    rintro (before | ⟨rfl, handed⟩)
    · exact before
    · rw [found, Except.ok.inj handed]
  · rw [same]
    simp
  · rw [same]
    -- The new instance stands under its own key, and nothing else is touched.
    by_cases new : key = other
    · subst new
      simp [absent]
    · simp [Std.HashMap.getElem?_insert, new]

/-- A request keeps the serials of the instances apart. -/
theorem numbered_intern (numbered : Numbered interner.instances interner.size) :
    Numbered (interner.intern key build).2.instances (interner.intern key build).2.size := by
  -- Only making a new instance changes the table, and its serial number is the next one.
  rcases interner.intern_cases key build with
    ⟨kept, -, same⟩ | ⟨absent, ⟨error, -, same⟩ | ⟨value, -, same⟩⟩ <;> rw [same]
  · exact numbered
  · exact numbered
  · rw [size_insert absent]
    exact numbered.insert key value

/-- A request makes the table larger by one at most, and never smaller. -/
theorem size_intern (interner : Interner α) (key : String) (build : Unit → Except ε α) :
    interner.size ≤ (interner.intern key build).2.size ∧
      (interner.intern key build).2.size ≤ interner.size + 1 := by
  -- At most one instance is entered.
  rcases interner.intern_cases key build with
    ⟨kept, -, same⟩ | ⟨absent, ⟨error, -, same⟩ | ⟨value, -, same⟩⟩ <;> rw [same]
  · exact ⟨Nat.le_refl _, Nat.le_succ _⟩
  · exact ⟨Nat.le_refl _, Nat.le_succ _⟩
  · rw [size_insert absent]
    exact ⟨Nat.le_succ _, Nat.le_refl _⟩

/-- A call on a table. -/
inductive Call (ε α : Type) where
  -- Questions about the interner are calls as well, so that a run can mix them freely.
  | intern (key : String) (build : Unit → Except ε α)
  | contains (key : String)
  | isEmpty

/-- The table after a call; only a request can change it. -/
def perform (interner : Interner α) : Call ε α → Interner α
  -- The questions change nothing.
  | .intern key build => (interner.intern key build).2
  | .contains _ | .isEmpty => interner

/-- The table after calls on one that starts out empty. -/
def after (calls : List (Call ε α)) : Interner α :=
  calls.foldl perform empty

/-- The call is a request for the key, which hands out the instance. -/
inductive HandsOut (interner : Interner α) : Call ε α → String → Shared α → Prop where
  -- The questions hand out nothing, so there is no constructor for them.
  | intern {key : String} {build : Unit → Except ε α} {shared : Shared α}
      (handed : (interner.intern key build).1.result = .ok shared) :
      HandsOut interner (.intern key build) key shared

/-- One of the calls is a request for the key, which has handed out the instance. -/
def HandedOut (calls : List (Call ε α)) (key : String) (shared : Shared α) : Prop :=
  ∃ before call later, calls = before ++ call :: later ∧ (after before).HandsOut call key shared

/-- An instance is kept after a call if it was kept before or has just been handed out. -/
theorem found_perform_iff {call : Call ε α} :
    (interner.perform call).instances[key]? = some shared ↔
      interner.instances[key]? = some shared ∨ interner.HandsOut call key shared := by
  -- A call enters nothing but what it hands out.
  cases call with
  | intern asked build =>
    rw [perform, found_intern_iff]
    refine or_congr_right ⟨?_, ?_⟩
    · rintro ⟨rfl, handed⟩
      exact .intern handed
    · rintro ⟨handed⟩
      exact ⟨rfl, handed⟩
  | contains asked => exact ⟨.inl, fun kept => kept.resolve_right nofun⟩
  | isEmpty => exact ⟨.inl, fun kept => kept.resolve_right nofun⟩

/-- A call makes the table larger by one at most, and never smaller. -/
theorem size_perform (interner : Interner α) (call : Call ε α) :
    interner.size ≤ (interner.perform call).size ∧
      (interner.perform call).size ≤ interner.size + 1 := by
  -- Only interning enters anything, and at most one instance.
  cases call with
  | intern key build => exact interner.size_intern key build
  | contains key => exact ⟨Nat.le_refl _, Nat.le_succ _⟩
  | isEmpty => exact ⟨Nat.le_refl _, Nat.le_succ _⟩

variable {calls : List (Call ε α)}

@[simp] theorem after_concat (calls : List (Call ε α)) (call : Call ε α) :
    after (calls ++ [call]) = (after calls).perform call := by
  -- The last call is performed on what all others have left.
  simp [after]

/-- The serials of a table stay apart over any run of calls. -/
theorem numbered_after (calls : List (Call ε α)) :
    Numbered (after calls).instances (after calls).size := by
  induction calls using List.reverseRecOn with
  | nil => exact .empty
  | append_singleton calls call ih =>
    rw [after_concat]
    -- Only interning changes the table, and it keeps the numbering.
    cases call with
    | intern key build => exact numbered_intern ih
    | contains key => exact ih
    | isEmpty => exact ih

/-- The table keeps exactly the instances that it has handed out. -/
theorem handedOut_iff_found :
    HandedOut calls key shared ↔ (after calls).instances[key]? = some shared := by
  induction calls using List.reverseRecOn with
  | nil => simp [HandedOut, after, empty]
  -- The last call adds to the table exactly what it hands out itself.
  | append_singleton calls call ih =>
    rw [HandedOut, exists_split_concat_iff, after_concat, found_perform_iff, ← ih]
    rfl

/-- One of the calls is a request for the key that has succeeded. -/
def HasInstance (calls : List (Call ε α)) (key : String) : Prop :=
  ∃ shared, HandedOut calls key shared

/-- A key is in the table when a request for it has succeeded. -/
theorem hasInstance_iff_isSome :
    HasInstance calls key ↔ ((after calls).instances[key]?).isSome = true := by
  -- An instance was handed out under the key exactly when the table holds one.
  simp only [HasInstance, handedOut_iff_found, Option.isSome_iff_exists]

/-- A key is not in the table as long as no request for it has succeeded. -/
theorem not_hasInstance_iff :
    ¬HasInstance calls key ↔ (after calls).instances[key]? = none := by
  -- Never having handed out an instance is having none in the table.
  simp only [HasInstance, handedOut_iff_found, not_exists, Option.eq_none_iff_forall_ne_some]

/-- Over any run of calls, what is built for a key is built once and kept. A request builds if none
for its key has succeeded before: it comes to what it builds, or fails as the building fails and
changes nothing. Any later request for the key is handed the same instance, which is that of no
other key. The table contains the keys for which a request has succeeded and has their number as its
size, which a call never makes smaller and makes larger by one at most. -/
theorem intern_after (calls : List (Call ε α)) :
    (∀ (key : String) (build : Unit → Except ε α),
      ((after calls).intern key build).1.built = true ↔ ¬HasInstance calls key) ∧
    (∀ (key : String) (build : Unit → Except ε α), ¬HasInstance calls key →
      match build () with
      | .error error => (after calls).intern key build = (⟨.error error, true⟩, after calls)
      | .ok value => ∃ serial, ((after calls).intern key build).1.result = .ok ⟨serial, value⟩) ∧
    (∀ (key : String) (shared : Shared α), HandedOut calls key shared →
      ∀ build : Unit → Except ε α,
        (after calls).intern key build = (⟨.ok shared, false⟩, after calls)) ∧
    (∀ (key other : String) (shared again : Shared α), HandedOut calls key shared →
      HandedOut calls other again → (shared.serial = again.serial ↔ key = other)) ∧
    (∀ key : String, (after calls).contains key = true ↔ HasInstance calls key) ∧
    ((after calls).isEmpty = true ↔ ∀ key, ¬HasInstance calls key) ∧
    (after calls).size = {key | HasInstance calls key}.ncard ∧
    ∀ call : Call ε α, (after calls).size ≤ (after (calls ++ [call])).size ∧
      (after (calls ++ [call])).size ≤ (after calls).size + 1 := by
  refine ⟨fun key build => ?_, fun key build none => ?_, fun key shared handed build => ?_,
    fun key other shared again handed handedAgain => ?_, fun key => ?_, ?_, ?_, fun call => ?_⟩
  -- The maker is called exactly when the table has nothing under the key.
  · rw [not_hasInstance_iff]
    rcases (after calls).intern_cases key build with
      ⟨kept, found, same⟩ | ⟨absent, ⟨error, -, same⟩ | ⟨value, -, same⟩⟩
    · simp [same, found]
    · simp [same, absent]
    · simp [same, absent]
  -- What the maker answers is passed on, and only a success is kept.
  · have absent := not_hasInstance_iff.1 none
    cases built : build () with
    | error error => exact intern_of_error absent built
    | ok value => exact ⟨_, congrArg (·.1.result) (intern_of_ok absent built)⟩
  · exact intern_of_found (handedOut_iff_found.1 handed)
  · exact (numbered_after calls).serial_eq_iff (handedOut_iff_found.1 handed)
      (handedOut_iff_found.1 handedAgain)
  · rw [contains, Std.HashMap.contains_eq_isSome_getElem?, hasInstance_iff_isSome]
  · rw [isEmpty, Std.HashMap.isEmpty_iff_forall_contains]
    simp only [Std.HashMap.contains_eq_isSome_getElem?, not_hasInstance_iff,
      Option.isSome_eq_false_iff, Option.isNone_iff_eq_none]
  · rw [size, size_eq_ncard]
    simp only [HasInstance, handedOut_iff_found]
  · rw [after_concat]
    exact size_perform (after calls) call

/-- A failure for `k` is not kept, and once `k` has been built a failing request for it is handed
what `m` does not share. -/
theorem intern_after_failure :
    let failing : Unit → Except String Nat := fun _ => .error "no"
    let first : List (Call String Nat) := [.intern "k" failing]
    let both : List (Call String Nat) :=
      [.intern "k" failing, .intern "k" fun _ => .ok 7, .intern "m" fun _ => .ok 7]
    ¬HasInstance first "k" ∧ HandedOut both "k" ⟨0, 7⟩ ∧ HandedOut both "m" ⟨1, 7⟩ ∧
      (after first).intern "k" failing = (⟨.error "no", true⟩, after first) ∧
      (after both).intern "k" failing = (⟨.ok ⟨0, 7⟩, false⟩, after both) := by
  intro failing first both
  -- The first call fails, so the second makes an instance under the same key.
  have refused : ¬HasInstance first "k" := by
    rw [not_hasInstance_iff]
    simp [first, after, perform, intern, empty, failing]
  have built : HandedOut both "k" ⟨0, 7⟩ := by
    rw [handedOut_iff_found]
    simp [both, after, perform, intern, empty, failing, size, Std.HashMap.getElem_insert]
  have other : HandedOut both "m" ⟨1, 7⟩ := by
    rw [handedOut_iff_found]
    simp [both, after, perform, intern, empty, failing, size, Std.HashMap.size_insert]
  obtain ⟨-, fails, -⟩ := intern_after first
  obtain ⟨-, -, kept, -⟩ := intern_after both
  exact ⟨refused, built, other, fails "k" failing refused, kept "k" _ built failing⟩

end Interner

end MessageSelector
