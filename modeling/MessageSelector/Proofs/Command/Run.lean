import Mathlib.Data.List.TakeWhile
import MessageSelector.Command.Run
import MessageSelector.Proofs.Expr.RoundTrip
import MessageSelector.Proofs.Message
import MessageSelector.Regex.Plain

/-! Runs of the command: the first fault among the arguments tells what a run returns, and where
there is no fault, the selector does with the last value of each name. -/

namespace MessageSelector

/-- A text that is no assignment is told along with its fault. -/
theorem Assignment.text_of_error {text : String} {error : AssignmentError}
    (refused : Assignment.ofText text = .error error) : error.text = text := by
  simp only [Assignment.ofText] at refused
  -- Each of the two faults is put beside the text that was read.
  split at refused
  · cases refused
    rfl
  · split at refused <;> cases refused
    rfl

namespace Command

variable {arguments : Arguments} {texts : List String} {text : String}

/-- Why a text is no assignment, if it is none. -/
def refusal? (text : String) : Option AssignmentError :=
  -- What the text would bind is of no interest when it is accepted.
  match Assignment.ofText text with
  | .error error => some error
  | .ok _ => none

/-- The assignments among the texts. -/
def assignments (texts : List String) : List Assignment :=
  texts.filterMap fun text => (Assignment.ofText text).toOption

/-- The assignments before the first text that is none. -/
def leading (texts : List String) : List Assignment :=
  assignments (texts.takeWhile fun text => (refusal? text).isNone)

/-- The value that the last of the bindings for the name gives it. -/
def lastValue? (bindings : List Assignment) (name : String) : Option Value :=
  -- Later bindings win, so the search runs from the end.
  bindings.reverse.findSome? fun binding =>
    if binding.name = name then some binding.value else none

/-- The value that selectors find under a name: that of a header under the name of a header, and
that of a property under any other name. -/
def binding? (arguments : Arguments) (name : String) : Option Value :=
  -- A header name asks the headers alone, even when a property has that name.
  if isHeaderName name then lastValue? (assignments arguments.headers) name
  else lastValue? (assignments arguments.properties) name

/-- The headers that a run reads, which are those before the first fault. -/
def headersRead (arguments : Arguments) : List Assignment :=
  leading arguments.headers

/-- The properties that a run reads: none of them if there is a fault in a header. -/
def propertiesRead (arguments : Arguments) : List Assignment :=
  if arguments.headers.filterMap refusal? = [] then leading arguments.properties else []

/-- What there is to log of what a run reads. -/
def records (arguments : Arguments) : List LogRecord :=
  -- Headers are bound before properties, and each binding leaves its records at once.
  (headersRead arguments).flatMap headerRecords ++
    (propertiesRead arguments).flatMap propertyRecords

/-- A text is refused with the fault that reading it has. -/
theorem refusal?_eq_some_iff {error : AssignmentError} :
    refusal? text = some error ↔ Assignment.ofText text = .error error := by
  -- The refusal is the error of the reader and nothing else.
  cases read : Assignment.ofText text <;> simp [refusal?, read]

/-- Assignments are read up to the first refusal. -/
theorem readAssignments_eq (texts : List String) :
    readAssignments texts = (leading texts, (texts.filterMap refusal?).head?) := by
  induction texts with
  | nil => rfl
  | cons text rest ih =>
    -- A refused text ends both lists, and any other is read before the rest.
    cases read : Assignment.ofText text <;>
      simp [readAssignments, read, ih, leading, assignments, refusal?, Except.toOption]

/-- Without a refusal all of the assignments are read. -/
theorem leading_of_sound (sound : texts.filterMap refusal? = []) :
    leading texts = assignments texts := by
  have accepted : ∀ text ∈ texts, (refusal? text).isNone = true := by
    simpa using List.filterMap_eq_nil_iff.1 sound
  -- Nothing is dropped from texts that are all accepted.
  rw [leading, List.takeWhile_eq_self_iff.2 accepted]

/-- The changes that make up the message: the headers are set before the properties. -/
def changesOf (headers properties : List Assignment) : List Message.Change :=
  -- The changes stand in the order in which the program makes them.
  headers.map (fun binding => .setHeader binding.name binding.value) ++
    properties.map fun binding => .setProperty binding.name binding.value

/-- The message of a run is an empty one after those changes. -/
theorem messageOf_eq_after (headers properties : List Assignment) :
    messageOf headers properties = Message.after (changesOf headers properties) := by
  -- Both sides are folds, and the map from bindings to changes is absorbed by the second one.
  simp [messageOf, Message.after, changesOf, List.foldl_map, Message.change]

/-- The last header of a name is the last one that was given for it. -/
theorem lastHeader?_changesOf (headers properties : List Assignment) (name : String) :
    Message.lastHeader? (changesOf headers properties) name = lastValue? headers name := by
  -- No property is a header.
  have unset : properties.reverse.findSome? (fun _ => (none : Option Value)) = none :=
    List.findSome?_eq_none_iff.2 fun _ _ => rfl
  simp [Message.lastHeader?, changesOf, lastValue?, ← List.map_reverse, List.findSome?_map,
    Function.comp_def, Message.Change.headerValue?, unset]

/-- The last property of a name is the last one that was given for it. -/
theorem lastProperty?_changesOf (headers properties : List Assignment) (name : String) :
    Message.lastProperty? (changesOf headers properties) name = lastValue? properties name := by
  -- Nothing clears the properties, and no header is one.
  have kept : ∀ change ∈ (changesOf headers properties).reverse, (!change.clears) = true := by
    simp only [changesOf, List.mem_reverse, List.mem_append, List.mem_map]
    rintro change (⟨binding, -, rfl⟩ | ⟨binding, -, rfl⟩) <;> rfl
  have unset : headers.reverse.findSome? (fun _ => (none : Option Value)) = none :=
    List.findSome?_eq_none_iff.2 fun _ _ => rfl
  rw [Message.lastProperty?, List.takeWhile_eq_self_iff.2 kept]
  simp [changesOf, lastValue?, ← List.map_reverse, List.findSome?_map, Function.comp_def,
    Message.Change.propertyValue?, unset]

/-- Selectors find under each name what the arguments bind it to. -/
theorem binding?_messageOf (arguments : Arguments) (name : String) :
    (messageOf (assignments arguments.headers) (assignments arguments.properties)).binding? name =
      binding? arguments name := by
  -- The message answers with the last change of the name, and each of the two lists is searched
  -- from its end.
  rw [messageOf_eq_after, Message.binding?_after, Message.rebound_eq_last, lastHeader?_changesOf,
    lastProperty?_changesOf]
  rfl

/-- The exit code of a run that settles its selector tells whether this holds. -/
theorem exitCodeOf_eq (truth : Truth) : exitCodeOf truth = if truth = .yes then 0 else 1 := by
  cases truth <;> rfl

section

variable [Regex.Engine]

/-- Why a text is no selector, if it is none. -/
def selectorFault? (text : String) : Option SyntaxError :=
  -- Only the fault of the text is kept, since the tree is used when there is none.
  match Expr.ofText text with
  | .error error => some error
  | .ok _ => none

/-- All that is wrong with the arguments: the headers come first, then the properties, and then the
selector. -/
def faults (arguments : Arguments) : List CommandError :=
  -- All faults are collected in the order in which a run would come to them.
  (arguments.headers.filterMap refusal?).map .badHeader ++
    (arguments.properties.filterMap refusal?).map .badProperty ++
    ((selectorFault? arguments.selector).map (.badSelector arguments.selector)).toList

/-- One of the headers or properties is no assignment, or the selector cannot be read. -/
def IsFaulty (arguments : Arguments) : Prop :=
  -- One text that cannot be read is enough, whatever the others are.
  (∃ text ∈ arguments.headers, ∃ error, Assignment.ofText text = .error error) ∨
    (∃ text ∈ arguments.properties, ∃ error, Assignment.ofText text = .error error) ∨
    ∃ error, Expr.ofText arguments.selector = .error error

/-- The outcome of a tree with the headers and properties that are given. -/
def outcome (arguments : Arguments) (tree : Expr) : Truth :=
  -- The message holds every assignment that could be read.
  tree.truthWith Message.provider
    (messageOf (assignments arguments.headers) (assignments arguments.properties))

/-- All that can come of a run: the first of the faults, or the outcome of the selector. -/
theorem run_cases (arguments : Arguments) :
    (∃ fault later, faults arguments = fault :: later ∧
        run arguments = failed fault (records arguments)) ∨
      faults arguments = [] ∧ ∃ tree, Expr.ofText arguments.selector = .ok tree ∧
        run arguments =
          { exitCode := exitCodeOf (outcome arguments tree)
            output := (if arguments.explain then [tree.written] else []) ++
              [(outcome arguments tree).text]
            error := none
            log := records arguments } := by
  unfold run
  simp only [readAssignments_eq, records, headersRead]
  -- Each list is looked at for its first fault, in the order in which the run reads them.
  cases headers : arguments.headers.filterMap refusal? with
  | cons refused others =>
    refine .inl ⟨.badHeader refused, _, by rw [faults, headers]; rfl, ?_⟩
    simp [propertiesRead, headers]
  | nil =>
    have properties : propertiesRead arguments = leading arguments.properties := by
      rw [propertiesRead, if_pos headers]
    rw [properties]
    cases refusals : arguments.properties.filterMap refusal? with
    | cons refused others =>
      refine .inl ⟨.badProperty refused, _, by rw [faults, headers, refusals]; rfl, ?_⟩
      simp
    | nil =>
      cases read : Expr.ofText arguments.selector with
      | error error =>
        refine .inl ⟨.badSelector arguments.selector error, [], ?_, ?_⟩
        · simp [faults, headers, refusals, selectorFault?, read]
        · simp [Selector.ofText, read, Except.map]
      | ok tree =>
        refine .inr ⟨?_, tree, rfl, ?_⟩
        · simp [faults, headers, refusals, selectorFault?, read]
        · -- Nothing is refused, so all that is given was read.
          simp [Selector.ofText, read, Except.map, outcome, Selector.truthWith,
            leading_of_sound headers, leading_of_sound refusals]

/-- There is something wrong exactly if something is refused. -/
theorem faults_eq_nil_iff : faults arguments = [] ↔ ¬IsFaulty arguments := by
  -- Each of the three parts is empty exactly if nothing is refused there.
  have selector : selectorFault? arguments.selector = none ↔
      ∀ error, Expr.ofText arguments.selector ≠ .error error := by
    cases read : Expr.ofText arguments.selector <;> simp [selectorFault?, read]
  have texts (texts : List String) : texts.filterMap refusal? = [] ↔
      ∀ text ∈ texts, ∀ error, Assignment.ofText text ≠ .error error := by
    simp only [List.filterMap_eq_nil_iff, Option.eq_none_iff_forall_ne_some, ne_eq,
      refusal?_eq_some_iff]
  simp only [faults, IsFaulty, List.append_eq_nil_iff, List.map_eq_nil_iff, texts,
    Option.toList_eq_nil_iff, Option.map_eq_none_iff, selector, not_or, not_exists, not_and,
    and_assoc, ne_eq]

/-- A run with a fault returns the first one, and nothing else is printed. -/
theorem run_of_faulty (faulty : IsFaulty arguments) :
    (run arguments).exitCode = 2 ∧ (run arguments).output = [] ∧
      (run arguments).error = (faults arguments).head? := by
  rcases run_cases arguments with ⟨fault, later, found, same⟩ | ⟨sound, -⟩
  · rw [same, found]
    exact ⟨rfl, rfl, rfl⟩
  · -- Without faults nothing can be faulty.
    exact absurd faulty (faults_eq_nil_iff.1 sound)

/-- A run without a fault prints the selector, if it is asked to, and the outcome. -/
theorem run_of_sound (sound : ¬IsFaulty arguments) :
    ∃ (tree : Expr) (mapping : Mapping), Expr.ofText arguments.selector = .ok tree ∧
      (∀ name, mapping[name]? = binding? arguments name) ∧ (run arguments).error = none ∧
      (run arguments).output =
        (if arguments.explain then [tree.written] else []) ++ [(tree.truth mapping).text] ∧
      (run arguments).exitCode = if tree.truth mapping = .yes then 0 else 1 := by
  rcases run_cases arguments with ⟨fault, later, found, -⟩ | ⟨-, tree, read, same⟩
  · simp [faults_eq_nil_iff.2 sound] at found
  · -- The mapping is the one that the headers and properties are merged to.
    let changes := changesOf (assignments arguments.headers) (assignments arguments.properties)
    have bound (name : String) : (Message.merged changes)[name]? = binding? arguments name := by
      rw [Message.getElem?_merged, ← Message.binding?_after, ← messageOf_eq_after,
        binding?_messageOf]
    have settled : outcome arguments tree = tree.truth (Message.merged changes) := by
      refine Message.truthWith_provider_eq (fun name => ?_) tree
      rw [bound, binding?_messageOf]
    rw [same, settled]
    exact ⟨tree, _, read, bound, rfl, rfl, exitCodeOf_eq _⟩

/-- A run returns 2 and prints nothing exactly if one of its headers or properties is no assignment
or its selector cannot be read, and then it tells the first of these faults, where the headers come
before the properties and the selector comes last. Otherwise it prints the selector, if it is asked
to, and then the outcome on a line of its own, which is that of the selector for the last header
under the name of a header and for the last property under any other name; and it returns 0 if the
selector holds and else 1. -/
theorem run_outcome (arguments : Arguments) :
    ((run arguments).exitCode = 2 ∧ (run arguments).output = [] ↔ IsFaulty arguments) ∧
      (run arguments).error = (faults arguments).head? ∧
      (∀ (text : String) (error : AssignmentError), Assignment.ofText text = .error error →
        error.text = text) ∧
      (¬IsFaulty arguments → ∃ (tree : Expr) (mapping : Mapping),
        Expr.ofText arguments.selector = .ok tree ∧
        (∀ name, mapping[name]? = binding? arguments name) ∧ (run arguments).error = none ∧
        (run arguments).output =
          (if arguments.explain then [tree.written] else []) ++ [(tree.truth mapping).text] ∧
        (run arguments).exitCode = if tree.truth mapping = .yes then 0 else 1) := by
  refine ⟨⟨?_, ?_⟩, ?_, fun text error => Assignment.text_of_error, run_of_sound⟩
  · rintro ⟨code, -⟩
    -- A run without a fault returns nothing but 0 and 1.
    by_contra sound
    obtain ⟨tree, mapping, -, -, -, -, returned⟩ := run_of_sound sound
    rw [returned] at code
    split at code <;> cases code
  · intro faulty
    obtain ⟨code, output, -⟩ := run_of_faulty faulty
    exact ⟨code, output⟩
  · rcases Classical.em (IsFaulty arguments) with faulty | sound
    · exact (run_of_faulty faulty).2.2
    · obtain ⟨tree, mapping, -, -, error, -, -⟩ := run_of_sound sound
      rw [error, faults_eq_nil_iff.2 sound]
      rfl

end

/-- Of a header and a property that are both refused the header is told; and where nothing is wrong,
the last property replaces the first, and a header does not. -/
theorem run_outcome_mixed :
    let refused : Arguments := ⟨"x", ["bad"], ["novalue"], true, false⟩
    let settled : Arguments := ⟨"x", ["x=false"], ["x=false", "x=true"], true, false⟩
    (run refused).exitCode = 2 ∧ (run refused).output = [] ∧
      (run refused).error = some (.badHeader ⟨"bad", .missingEquals⟩) ∧
      ¬IsFaulty settled ∧ (run settled).output = ["x", "TRUE"] ∧ (run settled).exitCode = 0 := by
  intro refused settled
  obtain ⟨faulty, error, -, -⟩ := run_outcome refused
  obtain ⟨-, -, -, sound⟩ := run_outcome settled
  have bad : Assignment.ofText "bad" = .error ⟨"bad", .missingEquals⟩ := rfl
  obtain ⟨code, output⟩ := faulty.2 (.inl ⟨"bad", List.mem_singleton_self "bad", _, bad⟩)
  have canonical : Expr.Canonical (.reference ⟨"x", by decide, by decide⟩) :=
    ⟨'x', [], rfl, rfl, rfl⟩
  have selector := Expr.ofText_of_reads (Expr.reads_written canonical)
  have fine : ¬IsFaulty settled := by
    have header : Assignment.ofText "x=false" = .ok ⟨"x", .boolean false⟩ := rfl
    have property : Assignment.ofText "x=true" = .ok ⟨"x", .boolean true⟩ := rfl
    have reference : Expr.ofText "x" = .ok _ := selector
    simp [IsFaulty, settled, header, property, reference]
  obtain ⟨tree, mapping, read, bound, -, printed, returned⟩ := sound fine
  -- The tree is the name, and the mapping binds it to the last property.
  obtain rfl := Except.ok.inj (selector.symm.trans read)
  have found : mapping["x"]? = some (.boolean true) := bound "x"
  have last : (Expr.reference ⟨"x", by decide, by decide⟩).truth mapping = .yes := by
    rw [Expr.truth, Expr.eval_eq_valueBy]
    simp only [Expr.valueBy, found]
    rfl
  rw [last] at printed returned
  exact ⟨code, output, error, fine, printed, returned⟩

end Command

end MessageSelector
