import MessageSelector.Regex.Engine

/-! An engine of regular expressions for the expressions that patterns are written as. -/

namespace MessageSelector

namespace Regex

namespace Plain

/-- The character has a meaning of its own in an expression. -/
def isMeta (c : Char) : Bool :=
  "\\.+*?()|[]{}^$#&-~".toList.contains c

/-- A character as it is written where it stands for itself. -/
def escaped (c : Char) : List Char :=
  if isMeta c then ['\\', c] else [c]

/-- A text as it is written where it stands for itself. -/
def escape (text : String) : String :=
  String.ofList (text.toList.flatMap escaped)

/-- Reads parts up to the end of an expression; those that are read already come last one first. -/
def readParts? (read : List Part) : List Char → Option (List Part)
  | [] => some read.reverse
  | '\\' :: c :: rest => if isMeta c then readParts? (.one (.char c) :: read) rest else none
  | '.' :: rest => readParts? (.one .dot :: read) rest
  | '^' :: rest => readParts? (.start :: read) rest
  | '$' :: rest => readParts? (.finish :: read) rest
  | '*' :: rest =>
    -- What is repeated is the atom before the star.
    match read with
    | .one atom :: read => readParts? (.many atom :: read) rest
    | _ => none
  | c :: rest => if isMeta c then none else readParts? (.one (.char c) :: read) rest

/-- Reads an expression: whether it has the flag `s`, and its parts. -/
def readExpression? : List Char → Option (Bool × List Part)
  -- The flag can stand at the front only, before all parts.
  | '(' :: '?' :: 's' :: ')' :: rest => (readParts? [] rest).map (true, ·)
  | expression => (readParts? [] expression).map (false, ·)

/-- About what an atom takes when it is compiled, in bytes. -/
def atomSize : Atom → Nat
  -- A dot is made of the ways in which one character can be encoded.
  | .dot => 352
  | .char c => 32 * c.utf8Size

/-- About what a part takes when it is compiled, in bytes. -/
def partSize : Part → Nat
  -- A repeated atom takes a jump back to itself on top of its own size.
  | .start | .finish => 32
  | .one atom => atomSize atom
  | .many atom => atomSize atom + 64

/-- About what parts take when they are compiled, in bytes. -/
def partsSize (parts : List Part) : Nat :=
  parts.foldr (fun part size => partSize part + size) 0

/-- For each end of the text, whether a run of accepted characters leads on to a set entry. -/
def runRow (accepts : Char → Bool) : List Char → List Bool → List Bool
  | c :: text, here :: later =>
    -- The row is filled from its end, so each entry looks at the next one only.
    let row := runRow accepts text later
    (here || (accepts c && row.headD false)) :: row
  | _, row => row

/-- Which ends of the text can be matched by a part and what comes after it.

The row `later` tells it for what comes after the part; both rows have an entry for every end of
the text, the longest first and the empty one last. -/
def partRow (dotAll : Bool) (part : Part) (text : List Char) (later : List Bool) : List Bool :=
  match part with
  -- An anchor keeps the entry for one end of the text and takes back all others.
  | .start => later.headD false :: text.map fun _ => false
  | .finish => text.map (fun _ => false) ++ [later.getLastD false]
  -- One character is taken, so the entries move by one and the empty end has none.
  | .one atom =>
    text.zipWith (fun c matched => atom.accepts dotAll c && matched) later.tail ++ [false]
  | .many atom => runRow (atom.accepts dotAll) text later

/-- The text has a match of the parts in it. -/
def isFound (dotAll : Bool) (parts : List Part) (text : List Char) : Bool :=
  -- Every end of the text can be matched by no part at all.
  let row := true :: text.map fun _ => true
  (parts.foldr (fun part later => partRow dotAll part text later) row).any id

/-- What an expression takes when it is compiled, in bytes. -/
def size (expression : String) : Nat :=
  -- An expression that cannot be read is never compiled, so its size is of no account.
  match readExpression? expression.toList with
  | some (_, parts) => partsSize parts
  | none => 0

/-- Compiles an expression, if it can be read and is not too large. -/
def compile (expression : String) : Except String (String → Bool) :=
  match readExpression? expression.toList with
  | none => .error "regex parse error"
  | some (dotAll, parts) =>
    -- The size is looked at before the test is made.
    if partsSize parts ≤ sizeLimit then .ok fun text => isFound dotAll parts text.toList
    else .error s!"Compiled regex exceeds size limit of {sizeLimit} bytes."

end Plain

/-- The engine that reads expressions part by part and matches all ends of a text at once. -/
instance plain : Engine :=
  ⟨Plain.escape, Plain.size, Plain.compile⟩

end Regex

end MessageSelector
