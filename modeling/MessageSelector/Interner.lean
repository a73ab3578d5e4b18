import Std.Data.HashMap

/-! Tables that build one instance for each key and hand it out from then on. -/

namespace MessageSelector

/-- A value handed out by a table; those of one table are one instance if their serials agree. -/
structure Shared (α : Type) where
  serial : Nat
  value : α
deriving DecidableEq

/-- The answer to a request: an instance or why there is none, and whether one had to be built. -/
structure Handout (ε α : Type) where
  result : Except ε (Shared α)
  -- What is kept already is handed out without being built again.
  built : Bool

/-- The instances built so far under their keys; none of them is ever removed. -/
structure Interner (α : Type) where
  instances : Std.HashMap String (Shared α)

namespace Interner

/-- The table without instances. -/
def empty {α : Type} : Interner α :=
  ⟨∅⟩

/-- The number of instances. -/
def size {α : Type} (interner : Interner α) : Nat :=
  interner.instances.size

/-- The table has no instances. -/
def isEmpty {α : Type} (interner : Interner α) : Bool :=
  interner.instances.isEmpty

/-- There is an instance for the key. -/
def contains {α : Type} (interner : Interner α) (key : String) : Bool :=
  interner.instances.contains key

/-- Hands out the instance for a key, after building it if there is none; no failure is kept. -/
def intern {ε α : Type} (interner : Interner α) (key : String) (build : Unit → Except ε α) :
    Handout ε α × Interner α :=
  match interner.instances[key]? with
  | some shared => (⟨.ok shared, false⟩, interner)
  | none =>
    match build () with
    | .error error => (⟨.error error, true⟩, interner)
    | .ok value =>
      -- Instances are never removed, so the size of the table is a serial not yet given.
      let shared := ⟨interner.size, value⟩
      (⟨.ok shared, true⟩, ⟨interner.instances.insert key shared⟩)

end Interner

end MessageSelector
