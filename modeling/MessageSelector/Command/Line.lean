import MessageSelector.Command.Run

/-! The command line as it is typed, and the part of the log that is shown.

This is the outer layer of the program. It reads the selector and the options that a run can be
told with, but not `--help`, `-h`, `--version` and `-V`; and it is `--debug` alone that tells which
records are shown, without asking the environment. -/

namespace MessageSelector

/-- Why a command line cannot be read. -/
inductive UsageError where
  | unknownOption (text : String)
  | missingValue (option : String)
  | unexpectedValue (option : String)
  | repeatedFlag (option : String)
  | missingSelector
  | secondSelector (text : String)
deriving DecidableEq

/-- The sentence that tells what is wrong with a command line. -/
def UsageError.message : UsageError → String
  -- Options are told as they are written in full, and other arguments as they were given.
  | unknownOption text => s!"unexpected argument '{text}'"
  | missingValue option => s!"a value is required for '{option}'"
  | unexpectedValue option => s!"no value is allowed for '{option}'"
  | repeatedFlag option => s!"'{option}' cannot be used more than once"
  | missingSelector => "a selector is required"
  | secondSelector text => s!"unexpected argument '{text}' after the selector"

/-- The options that come with a value, and may come more than once. -/
inductive ValueOption where
  | header
  | property
deriving DecidableEq, Repr

/-- The options that are set or not. -/
inductive Flag where
  | explain
  | debug
deriving DecidableEq, Repr

/-- An option as it is written in full. -/
def ValueOption.text : ValueOption → String
  | header => "--header"
  | property => "--property"

/-- A flag as it is written in full. -/
def Flag.text : Flag → String
  | explain => "--explain"
  | debug => "--debug"

namespace Arguments

/-- What has been read of a command line, of which the selector may still be missing. -/
structure Draft where
  selector : Option String
  headers : List String
  properties : List String
  explain : Bool
  debug : Bool

namespace Draft

/-- Nothing has been read. -/
def empty : Draft :=
  { selector := none, headers := [], properties := [], explain := false, debug := false }

/-- Adds the value of an option after the ones before it. -/
def addValue (draft : Draft) (value : String) : ValueOption → Draft
  -- The order is kept, since a later value replaces an earlier one of the same name.
  | .header => { draft with headers := draft.headers ++ [value] }
  | .property => { draft with properties := draft.properties ++ [value] }

/-- Sets a flag, which may be set only once. -/
def setFlag (draft : Draft) : Flag → Except UsageError Draft
  -- A flag that is set twice is refused and not taken as set once.
  | .explain =>
    if draft.explain then .error (.repeatedFlag Flag.explain.text)
    else .ok { draft with explain := true }
  | .debug =>
    if draft.debug then .error (.repeatedFlag Flag.debug.text)
    else .ok { draft with debug := true }

/-- Adds an argument that is no option, of which there may be only one. -/
def addSelector (draft : Draft) (text : String) : Except UsageError Draft :=
  if draft.selector.isSome then .error (.secondSelector text)
  else .ok { draft with selector := some text }

/-- The arguments, once there is a selector. -/
def finish (draft : Draft) : Except UsageError Arguments :=
  -- Everything else has a value that it starts out with.
  match draft.selector with
  | none => .error .missingSelector
  | some selector =>
    .ok
      { selector
        headers := draft.headers
        properties := draft.properties
        explain := draft.explain
        debug := draft.debug }

end Draft

/-- Reads the letters of a joined option; the option whose value is still to come is told, if any.

The letter p takes what follows it for its value, without an equals sign in front. -/
def readLetters (whole : String) (draft : Draft) :
    List Char → Except UsageError (Draft × Option ValueOption)
  | [] => .ok (draft, none)
  -- Flags may be joined to one another, and only the last letter may take a value.
  | 'e' :: rest => do readLetters whole (← draft.setFlag .explain) rest
  | 'd' :: rest => do readLetters whole (← draft.setFlag .debug) rest
  | ['p'] => .ok (draft, some .property)
  | 'p' :: '=' :: value => .ok (draft.addValue (String.ofList value) .property, none)
  | 'p' :: value => .ok (draft.addValue (String.ofList value) .property, none)
  | _ :: _ => .error (.unknownOption whole)

/-- Reads an option that is written in full, given without its dashes. -/
def readWord (whole : String) (draft : Draft) (text : List Char) :
    Except UsageError (Draft × Option ValueOption) :=
  let name := String.ofList (text.takeWhile (· != '='))
  -- With an equals sign the value is part of the argument.
  match name, text.dropWhile (· != '=') with
  | "header", [] => .ok (draft, some .header)
  | "property", [] => .ok (draft, some .property)
  | "header", _ :: value => .ok (draft.addValue (String.ofList value) .header, none)
  | "property", _ :: value => .ok (draft.addValue (String.ofList value) .property, none)
  | "explain", [] => do return (← draft.setFlag .explain, none)
  | "debug", [] => do return (← draft.setFlag .debug, none)
  | "explain", _ :: _ => .error (.unexpectedValue Flag.explain.text)
  | "debug", _ :: _ => .error (.unexpectedValue Flag.debug.text)
  | _, _ => .error (.unknownOption whole)

/-- What an argument is by its first characters; a dash alone is a value like any other text. -/
inductive Shape where
  | value
  | endOfOptions
  | letters (text : List Char)
  | word (text : List Char)

/-- Tells options from values. -/
def Shape.ofText (text : String) : Shape :=
  -- Two dashes alone end the options, and more characters behind them make a word.
  match text.toList with
  | ['-', '-'] => .endOfOptions
  | '-' :: '-' :: rest => .word rest
  | '-' :: c :: rest => .letters (c :: rest)
  | _ => .value

/-- Reads arguments none of which is an option. -/
def readValues (draft : Draft) : List String → Except UsageError Draft
  -- Behind two dashes even a text that begins with a dash is a selector.
  | [] => .ok draft
  | text :: rest => do readValues (← draft.addSelector text) rest

/-- Reads arguments from the left; `pending` is an option whose value has to come next. -/
def readAll (draft : Draft) (pending : Option ValueOption) : List String → Except UsageError Draft
  | [] =>
    match pending with
    | none => .ok draft
    | some option => .error (.missingValue option.text)
  | text :: rest =>
    match Shape.ofText text, pending with
    | .value, some option => readAll (draft.addValue text option) none rest
    | .value, none => do readAll (← draft.addSelector text) none rest
    -- A value of its own cannot begin with a dash.
    | _, some option => .error (.missingValue option.text)
    | .endOfOptions, none => readValues draft rest
    | .letters letters, none => do
      let (draft, pending) ← readLetters text draft letters
      readAll draft pending rest
    | .word word, none => do
      let (draft, pending) ← readWord text draft word
      readAll draft pending rest

/-- Reads a command line, given without the name of the program. -/
def ofList (arguments : List String) : Except UsageError Arguments := do
  (← readAll .empty none arguments).finish

end Arguments

/-- The records that are shown: debugging asks for all of them, and otherwise only warnings are. -/
def Report.shownRecords (debug : Bool) (report : Report) : List LogRecord :=
  report.log.filter fun record => debug || record.level == .warn

end MessageSelector
