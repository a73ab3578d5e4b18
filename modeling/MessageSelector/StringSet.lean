import MessageSelector.Distinct

/-! Sets of strings that remember the order in which their members were given. -/

namespace MessageSelector

/-- A list of strings in which no string comes twice. -/
structure StringSet where
  -- The order is the order of first insertion, and no string stands twice.
  members : List String
  nodup : members.Nodup
deriving DecidableEq

namespace StringSet

/-- The set of the items, in the order in which each of them comes first. -/
def ofList (items : List String) : StringSet :=
  ⟨firstOccurrences items, nodup_firstOccurrences items⟩

/-- The text is one of the members. -/
def contains (set : StringSet) (text : String) : Bool :=
  set.members.contains text

/-- The number of members. -/
def size (set : StringSet) : Nat :=
  set.members.length

/-- The set has no members. -/
def isEmpty (set : StringSet) : Bool :=
  set.members.isEmpty

end StringSet

end MessageSelector
