import MessageSelector.Expr.Evaluation

/-! Messages: the headers and the properties that selectors are evaluated against. -/

namespace MessageSelector

/-- Equal mappings bind the same names, each to values that are equal. -/
def Mapping.sameAs (left right : Mapping) : Bool :=
  -- With equally many names it is enough that those of one side are bound alike on the other.
  left.size == right.size &&
    left.toList.all fun (name, value) => right[name]?.any value.sameAs

/-- Two tables of values, which can bind the same name without a conflict. -/
structure Message where
  headers : Mapping
  -- A property under the name of a header is kept here too, though no selector finds it.
  properties : Mapping

namespace Message

/-- The message without headers and properties. -/
def empty : Message :=
  ⟨∅, ∅⟩

/-- Binds a header, in place of an earlier value. -/
def setHeader (message : Message) (name : String) (value : Value) : Message :=
  { message with headers := message.headers.insert name value }

/-- Binds a property, in place of an earlier value. -/
def setProperty (message : Message) (name : String) (value : Value) : Message :=
  { message with properties := message.properties.insert name value }

/-- Unbinds every property. -/
def clearProperties (message : Message) : Message :=
  { message with properties := ∅ }

/-- The value of a header. -/
def header? (message : Message) (name : String) : Option Value :=
  message.headers[name]?

/-- The value of a property. -/
def property? (message : Message) (name : String) : Option Value :=
  message.properties[name]?

/-- The property is bound. -/
def hasProperty (message : Message) (name : String) : Bool :=
  message.properties.contains name

/-- Equal messages have equal headers and equal properties. -/
def sameAs (left right : Message) : Bool :=
  Mapping.sameAs left.headers right.headers && Mapping.sameAs left.properties right.properties

/-- The provider whose tokens are messages: header names ask headers, other names properties. -/
def provider : Provider Message :=
  -- The identifier tells which of the two tables is looked at.
  fun identifier message =>
    if identifier.isHeader then message.header? identifier.name
    else message.property? identifier.name

end Message

end MessageSelector
