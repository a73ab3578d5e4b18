import MessageSelector.Text.Case

/-! Identifiers: the names by which a selector refers to message headers and properties. -/

namespace MessageSelector

/-- The words of the selector language, in any case of their letters, that name nothing. -/
def reservedWords : List String :=
  ["NULL", "TRUE", "FALSE", "NOT", "AND", "OR", "BETWEEN", "LIKE", "IN", "IS", "ESCAPE"]

/-- The message headers that a selector may refer to; every other name is a property. -/
def headerNames : List String :=
  ["JMSDeliveryMode", "JMSPriority", "JMSMessageID", "JMSTimestamp", "JMSCorrelationID", "JMSType"]

/-- The name is a word of the selector language. -/
def isReserved (name : String) : Bool :=
  reservedWords.any (agreeIgnoringCase name)

/-- The name is that of a header, spelled in exactly this case. -/
def isHeaderName (name : String) : Bool :=
  headerNames.contains name

/-- A name that can be bound to a value. -/
structure Identifier where
  name : String
  nonempty : name ≠ ""
  unreserved : isReserved name = false
deriving DecidableEq

/-- Why a name is no identifier. -/
inductive IdentifierError where
  | empty
  | reserved (name : String)
deriving DecidableEq

/-- The sentence that tells why a name is no identifier. -/
def IdentifierError.message : IdentifierError → String
  -- The name that is empty has nothing to be shown but its quotes.
  | empty => "Invalid identifier '': name is empty"
  | reserved name => s!"Identifier '{name}' is a reserved word"

namespace Identifier

/-- The identifier of this name, in which only the reserved words and the empty text are refused. -/
def ofName (name : String) : Except IdentifierError Identifier :=
  -- Any other text is a name, also one that no selector could spell.
  if empty : name = "" then .error .empty
  else if reserved : isReserved name then .error (.reserved name)
  else .ok ⟨name, empty, by simpa using reserved⟩

/-- An identifier made of a name has that name. -/
theorem name_of_ofName {name : String} {identifier : Identifier}
    (found : ofName name = .ok identifier) : identifier.name = name := by
  -- Of the three outcomes only the last one is an identifier, and it keeps the name.
  unfold ofName at found
  split at found
  · cases found
  · split at found
    · cases found
    · cases found
      rfl

/-- The name of an identifier makes that identifier. -/
theorem ofName_name (identifier : Identifier) :
    ofName identifier.name = .ok identifier := by
  -- Neither refusal applies, as an identifier carries what they ask for.
  obtain ⟨name, nonempty, unreserved⟩ := identifier
  simp [ofName, nonempty, unreserved]

/-- The name tells an identifier from all others. -/
theorem eq_of_name_eq {identifier other : Identifier} (same : identifier.name = other.name) :
    identifier = other := by
  -- Both are what is made of the one name.
  have made := ofName_name identifier
  rw [same, ofName_name] at made
  exact (Except.ok.inj made).symm

/-- The identifier refers to a message header, and not to a property. -/
def isHeader (identifier : Identifier) : Bool :=
  isHeaderName identifier.name

end Identifier

end MessageSelector
