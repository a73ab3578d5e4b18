import MessageSelector.Number
import MessageSelector.Text.Quoted
import MessageSelector.Truth

/-! Values that messages carry and that conditions produce. -/

namespace MessageSelector

/-- A value bound to a name, or produced by a part of a selector. -/
inductive Value where
  | boolean (flag : Bool)
  | number (number : Number)
  | string (text : String)
  | truth (truth : Truth)
deriving DecidableEq

namespace Value

/-- The number that the value is, if it is one. -/
def number? : Value → Option Number
  | number n => some n
  | _ => none

/-- The text that the value is, if it is a string. -/
def string? : Value → Option String
  | string text => some text
  | _ => none

/-- The flag that the value is, if it is a boolean. -/
def boolean? : Value → Option Bool
  | boolean flag => some flag
  | _ => none

/-- The word for the type of the value. -/
def typeName : Value → String
  | boolean _ => "boolean"
  | number _ => "number"
  | string _ => "string"
  | truth _ => "truth"

/-- The value as a selector would write it. -/
def text : Value → String
  -- Strings are quoted as in a selector, so that a string never reads like another kind of value.
  | boolean flag => (Truth.ofBool flag).text
  | number n => n.text
  | string s => quoted s
  | truth t => t.text

/-- Equal values of one type, numbers also of one width. -/
def sameAs : Value → Value → Bool
  | boolean left, boolean right => left == right
  | number left, number right => left.sameAs right
  | string left, string right => left == right
  | truth left, truth right => left == right
  -- Values of different kinds are never the same, not even a boolean and its truth.
  | _, _ => false

end Value

/-- What a value, or its absence, means as a condition: numbers and strings are no conditions. -/
def Truth.ofValue : Option Value → Truth
  -- A flag counts as a condition that has been settled.
  | some (.truth truth) => truth
  | some (.boolean flag) => .ofBool flag
  | _ => .unknown

end MessageSelector
