/-! Text compared without regard to the case of the letters A to Z. -/

namespace MessageSelector

/-- The text with the letters a to z in upper case and every other character as it is. -/
def upperCase (text : String) : String :=
  String.ofList (text.toList.map Char.toUpper)

/-- The text with the letters A to Z in lower case and every other character as it is. -/
def lowerCase (text : String) : String :=
  String.ofList (text.toList.map Char.toLower)

/-- Two texts agree when they differ at most in the case of the letters A to Z. -/
def agreeIgnoringCase (left right : String) : Bool :=
  lowerCase left == lowerCase right

end MessageSelector
