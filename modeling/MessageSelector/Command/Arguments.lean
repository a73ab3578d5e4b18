/-! The arguments of the command line. -/

namespace MessageSelector

/-- What the command line asks for. -/
structure Arguments where
  selector : String
  headers : List String
  properties : List String
  explain : Bool
  debug : Bool
deriving DecidableEq, Repr

end MessageSelector
