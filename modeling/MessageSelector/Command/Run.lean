import MessageSelector.Assignment
import MessageSelector.Command.Arguments
import MessageSelector.Message
import MessageSelector.Selector

/-! Running a command line: a selector is evaluated against headers and properties given with it. -/

namespace MessageSelector

/-- Why a command line has no outcome. -/
inductive CommandError where
  | badHeader (error : AssignmentError)
  | badProperty (error : AssignmentError)
  | badSelector (text : String) (error : SyntaxError)
deriving DecidableEq

/-- The sentence that tells which argument is at fault and how. -/
def CommandError.message : CommandError → String
  -- Each sentence repeats the argument as it was given, and the reason comes behind it.
  | badHeader error => s!"Invalid --header '{error.text}': {error.message}"
  | badProperty error => s!"Invalid --property '{error.text}': {error.message}"
  | badSelector text error => s!"Failed to parse selector '{text}': {error.message}"

/-- How much a record of the log matters. -/
inductive LogLevel where
  | warn
  | debug
deriving DecidableEq, Repr

/-- The level as a word in upper case. -/
def LogLevel.text : LogLevel → String
  | warn => "WARN"
  | debug => "DEBUG"

/-- A line of the log. -/
structure LogRecord where
  level : LogLevel
  message : String
deriving DecidableEq, Repr

/-- What a run prints, logs and returns. The log has all records, whether they are shown or not. -/
structure Report where
  exitCode : Nat
  output : List String
  -- The error goes to the error stream, so it is kept apart from the output.
  error : Option CommandError
  log : List LogRecord

namespace Command

/-- What is logged of a header: a warning if no selector can refer to it, and the binding. -/
def headerRecords (binding : Assignment) : List LogRecord :=
  -- The warning comes first, as the name is looked at before the value is set.
  (if isHeaderName binding.name then []
    else [⟨.warn, s!"'{binding.name}' is not a header name; selectors will not see it"⟩]) ++
  [⟨.debug, s!"header {binding.name} = {binding.value.text} ({binding.value.typeName})"⟩]

/-- What is logged of a property: a warning if no selector can refer to it, and the binding. -/
def propertyRecords (binding : Assignment) : List LogRecord :=
  -- A property under the name of a header is not warned of, though no selector sees it.
  (if isReserved binding.name then
      [⟨.warn, s!"'{binding.name}' is a reserved word and cannot appear in a selector"⟩]
    else []) ++
  [⟨.debug, s!"property {binding.name} = {binding.value.text} ({binding.value.typeName})"⟩]

/-- Reads assignments in order up to the first fault; those before it are told with it. -/
def readAssignments : List String → List Assignment × Option AssignmentError
  | [] => ([], none)
  | text :: rest =>
    match Assignment.ofText text with
    -- Nothing behind the first fault is read.
    | .error error => ([], some error)
    | .ok binding =>
      let (bindings, error) := readAssignments rest
      (binding :: bindings, error)

/-- The message with the given headers and properties; a later binding replaces an earlier one. -/
def messageOf (headers properties : List Assignment) : Message :=
  -- The two kinds are kept in tables of their own, so no property replaces a header.
  let withHeaders := headers.foldl (fun message binding =>
    message.setHeader binding.name binding.value) Message.empty
  properties.foldl (fun message binding =>
    message.setProperty binding.name binding.value) withHeaders

/-- The exit code of a run that settles the selector. -/
def exitCodeOf (truth : Truth) : Nat :=
  -- Only a selector that holds is a success; unknown counts as false.
  if truth.isTrue then 0 else 1

/-- The report of a run that stops at an error. -/
def failed (error : CommandError) (log : List LogRecord) : Report :=
  -- What was bound before the fault has been logged, but nothing is printed.
  { exitCode := 2, output := [], error := some error, log }

variable [Regex.Engine]

/-- Runs a command line: all headers are read before the properties, and the selector comes last. -/
def run (arguments : Arguments) : Report :=
  let (headers, headerError) := readAssignments arguments.headers
  let headerLog := headers.flatMap headerRecords
  -- A fault in a header is told before any property is looked at.
  match headerError with
  | some error => failed (.badHeader error) headerLog
  | none =>
    let (properties, propertyError) := readAssignments arguments.properties
    let log := headerLog ++ properties.flatMap propertyRecords
    match propertyError with
    | some error => failed (.badProperty error) log
    | none =>
      match Selector.ofText arguments.selector with
      | .error error => failed (.badSelector arguments.selector error) log
      | .ok selector =>
        let truth := selector.truthWith Message.provider (messageOf headers properties)
        { exitCode := exitCodeOf truth
          output := (if arguments.explain then [selector.tree.written] else []) ++ [truth.text]
          error := none
          log }

end Command

end MessageSelector
