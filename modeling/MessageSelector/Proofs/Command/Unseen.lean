import Mathlib.Data.List.Basic
import MessageSelector.Proofs.Command.Run
import MessageSelector.Regex.Plain

/-! Bindings that no selector can see: a run shows the same without them, and it warns of all of
them but the properties under the names of headers. -/

namespace MessageSelector

/-- All that a run shows besides its log: the exit code, the lines of output and the error. -/
def Report.result (report : Report) : Nat × List String × Option CommandError :=
  (report.exitCode, report.output, report.error)

/-- The record is a warning. -/
def LogRecord.isWarning (record : LogRecord) : Bool :=
  record.level == .warn

namespace Command

variable {arguments other : Arguments} {text name : String} {binding : Assignment}
  {unseen : String → Bool}

/-- The text binds a name of this kind. -/
def bindsUnder (kind : String → Bool) (text : String) : Bool :=
  (Assignment.ofText text).toOption.any fun binding => kind binding.name

/-- No selector looks for a header under the name. -/
def isUnseenHeader (name : String) : Bool :=
  !isHeaderName name

/-- No selector looks for a property under the name. -/
def isUnseenProperty (name : String) : Bool :=
  isReserved name || isHeaderName name

/-- The arguments without the headers and properties that no selector sees. -/
def seen (arguments : Arguments) : Arguments :=
  -- Texts that cannot be read stay, because they decide how a run ends.
  { arguments with
    headers := arguments.headers.filter fun text => !bindsUnder isUnseenHeader text
    properties := arguments.properties.filter fun text => !bindsUnder isUnseenProperty text }

/-- A text that can be read binds the name that is read. -/
theorem bindsUnder_of_read (read : Assignment.ofText text = .ok binding) :
    bindsUnder unseen text = unseen binding.name := by
  -- The value that is read plays no part in it.
  simp [bindsUnder, read, Except.toOption]

/-- Only assignments bind names, so leaving out some of them leaves all refusals. -/
theorem filterMap_refusal?_filter (unseen : String → Bool) (texts : List String) :
    (texts.filter fun text => !bindsUnder unseen text).filterMap refusal? =
      texts.filterMap refusal? := by
  rw [List.filterMap_filter]
  apply List.filterMap_congr
  intro text _
  -- A refused text binds nothing, so it is kept, and an assignment is no refusal in either list.
  cases read : Assignment.ofText text <;> simp [bindsUnder, refusal?, read, Except.toOption]

/-- The last value of a name among texts is the last one that a text gives to it. -/
theorem lastValue?_assignments (texts : List String) (name : String) :
    lastValue? (assignments texts) name =
      (texts.filterMap fun text => (Assignment.ofText text).toOption.bind fun binding =>
        if binding.name = name then some binding.value else none).getLast? := by
  -- The first in the reversed list is the last in the list.
  rw [lastValue?, ← List.head?_filterMap, List.filterMap_reverse, List.head?_reverse, assignments,
    List.filterMap_filterMap]

/-- The last value of a name stays when bindings of other names are left out. -/
theorem lastValue?_filter (apart : unseen name = false) (texts : List String) :
    lastValue? (assignments (texts.filter fun text => !bindsUnder unseen text)) name =
      lastValue? (assignments texts) name := by
  rw [lastValue?_assignments, lastValue?_assignments, List.filterMap_filter]
  refine congrArg List.getLast? (List.filterMap_congr fun text _ => ?_)
  cases read : Assignment.ofText text with
  | error error => simp [Except.toOption]
  | ok binding =>
    rw [bindsUnder_of_read read]
    -- A text that is left out binds another name than this one.
    by_cases same : binding.name = name
    · simp [Except.toOption, same, apart]
    · simp [Except.toOption, same]

/-- An identifier finds the same value when bindings that no selector sees are left out. -/
theorem binding?_seen (arguments : Arguments) (identifier : Identifier) :
    binding? (seen arguments) identifier.name = binding? arguments identifier.name := by
  unfold binding?
  split
  · rename_i header
    exact lastValue?_filter (by simp [isUnseenHeader, header]) _
  · rename_i property
    -- An identifier is no reserved word.
    refine lastValue?_filter ?_ _
    simp [isUnseenProperty, identifier.unreserved, property]

/-- The warning of a header that no selector sees. -/
def headerWarning (binding : Assignment) : LogRecord :=
  ⟨.warn, s!"'{binding.name}' is not a header name; selectors will not see it"⟩

/-- The warning of a property that no selector can name. -/
def propertyWarning (binding : Assignment) : LogRecord :=
  ⟨.warn, s!"'{binding.name}' is a reserved word and cannot appear in a selector"⟩

/-- The warnings of a run: one for each header that is none, and one for each property that is named
like a word of the language. -/
def warnings (arguments : Arguments) : List LogRecord :=
  -- Each warning stands at the place of the binding it is about.
  ((headersRead arguments).filter fun binding => isUnseenHeader binding.name).map headerWarning ++
    ((propertiesRead arguments).filter fun binding => isReserved binding.name).map propertyWarning

/-- Of what is logged of a header only the warning that it is unseen is one. -/
theorem filter_isWarning_headerRecords (binding : Assignment) :
    (headerRecords binding).filter LogRecord.isWarning =
      if isUnseenHeader binding.name then [headerWarning binding] else [] := by
  -- Only a header under another name leaves a warning; the other record is for debugging.
  cases header : isHeaderName binding.name <;>
    simp [headerRecords, isUnseenHeader, headerWarning, LogRecord.isWarning, header]

/-- Of what is logged of a property only the warning that it has no name is one. -/
theorem filter_isWarning_propertyRecords (binding : Assignment) :
    (propertyRecords binding).filter LogRecord.isWarning =
      if isReserved binding.name then [propertyWarning binding] else [] := by
  -- Only a reserved word leaves a warning; the other record is for debugging.
  cases reserved : isReserved binding.name <;>
    simp [propertyRecords, propertyWarning, LogRecord.isWarning, reserved]

/-- Where some bindings have a warning and others have none, those of all come in their order. -/
theorem filter_isWarning_flatMap {recordsOf : Assignment → List LogRecord}
    {warned : Assignment → Bool} {warning : Assignment → LogRecord}
    (single : ∀ binding, (recordsOf binding).filter LogRecord.isWarning =
      if warned binding then [warning binding] else []) (bindings : List Assignment) :
    (bindings.flatMap recordsOf).filter LogRecord.isWarning =
      (bindings.filter warned).map warning := by
  induction bindings with
  | nil => rfl
  | cons binding rest ih =>
    -- One binding contributes its own warnings in front of those of the rest.
    rw [List.flatMap_cons, List.filter_append, ih, single]
    cases told : warned binding <;> simp [told]

section

variable [Regex.Engine]

/-- What is wrong with the arguments stays when bindings are left out. -/
theorem faults_seen (arguments : Arguments) : faults (seen arguments) = faults arguments := by
  simp only [faults, seen, filterMap_refusal?_filter]

/-- Only the values that identifiers find make a difference to an outcome. -/
theorem outcome_congr
    (agree : ∀ identifier : Identifier,
      binding? arguments identifier.name = binding? other identifier.name) (tree : Expr) :
    outcome arguments tree = outcome other tree := by
  -- A condition asks the message for nothing but the values of identifiers.
  apply Message.truthWith_provider_congr
  intro identifier
  rw [binding?_messageOf, binding?_messageOf, agree identifier]

/-- Runs with the same faults whose identifiers find the same values show the same. -/
theorem result_run_congr (selector : arguments.selector = other.selector)
    (explain : arguments.explain = other.explain) (faulty : faults arguments = faults other)
    (agree : ∀ identifier : Identifier,
      binding? arguments identifier.name = binding? other identifier.name) :
    (run arguments).result = (run other).result := by
  rcases run_cases arguments with ⟨fault, later, found, same⟩ | ⟨sound, tree, read, same⟩ <;>
    rcases run_cases other with ⟨fault', later', found', same'⟩ | ⟨sound', tree', read', same'⟩
  · -- Both runs stop at the first of the same faults.
    obtain ⟨rfl, rfl⟩ := List.cons.inj (found.symm.trans (faulty.trans found'))
    rw [same, same']
    rfl
  · exact absurd (found.symm.trans (faulty.trans sound')) (List.cons_ne_nil _ _)
  · exact absurd (found'.symm.trans (faulty.symm.trans sound)) (List.cons_ne_nil _ _)
  · -- Both runs read the same tree, and its outcome is the same.
    rw [selector] at read
    obtain rfl := Except.ok.inj (read.symm.trans read')
    rw [same, same', Report.result, Report.result, outcome_congr agree, explain]

/-- A run shows the same without all that no selector sees. -/
theorem result_run_seen (arguments : Arguments) :
    (run (seen arguments)).result = (run arguments).result :=
  -- Faults and answers about identifiers are all that a result depends on, and both stay.
  result_run_congr rfl rfl (faults_seen arguments) (binding?_seen arguments)

/-- Runs of arguments that differ only in what no selector sees show the same. -/
theorem result_run_of_seen (same : seen arguments = seen other) :
    (run arguments).result = (run other).result := by
  -- Both results are that of the same reduced run.
  rw [← result_run_seen arguments, same, result_run_seen]

/-- A run logs what there is to log of the bindings that it reads, in whichever way it ends. -/
theorem log_run (arguments : Arguments) :
    (run arguments).log = records arguments := by
  -- All bindings are made before the selector is read, so a failing run leaves the same records.
  rcases run_cases arguments with ⟨fault, later, -, same⟩ | ⟨-, tree, -, same⟩ <;> rw [same]
  rfl

/-- A run logs its warnings in the order of the bindings. -/
theorem filter_isWarning_log (arguments : Arguments) :
    (run arguments).log.filter LogRecord.isWarning = warnings arguments := by
  have headers := filter_isWarning_flatMap filter_isWarning_headerRecords (headersRead arguments)
  have properties :=
    filter_isWarning_flatMap filter_isWarning_propertyRecords (propertiesRead arguments)
  -- What there is to log are the records of the headers and then those of the properties.
  rw [log_run, records, List.filter_append, headers, properties, warnings]

/-- A header whose name is none of a header's, and a property whose name is reserved or that of a
header, can be left out wherever they stand: whatever the selector and the other bindings are, the
exit code, the output and the error of the run stay the same. Those that a run warns of are among
them. -/
theorem result_run_without (arguments : Arguments) (before after : List String)
    (read : Assignment.ofText text = .ok binding) :
    (isHeaderName binding.name = false →
      (run { arguments with headers := before ++ after }).result =
        (run { arguments with headers := before ++ text :: after }).result) ∧
      (isReserved binding.name = true ∨ isHeaderName binding.name = true →
        (run { arguments with properties := before ++ after }).result =
          (run { arguments with properties := before ++ text :: after }).result) ∧
      (run arguments).log.filter LogRecord.isWarning = warnings arguments := by
  refine ⟨?_, ?_, filter_isWarning_log arguments⟩
  · intro other
    have unseen : isUnseenHeader binding.name = true := by
      simpa [isUnseenHeader] using other
    -- What is left without the unseen bindings is the same on both sides.
    apply result_run_of_seen
    simp [seen, bindsUnder_of_read read, unseen]
  · intro unnamed
    have unseen : isUnseenProperty binding.name = true := by
      simpa [isUnseenProperty] using unnamed
    apply result_run_of_seen
    simp [seen, bindsUnder_of_read read, unseen]

end

/-- With `x` given as a header, and `Not` and `JMSType` as properties, the run of `x` warns of the
first two, and it shows the same without any of them. -/
theorem result_run_without_warned :
    let arguments : Arguments :=
      ⟨"x", ["x=false"], ["x=true", "Not=true", "JMSType=true"], false, false⟩
    (run { arguments with headers := [] }).result = (run arguments).result ∧
      (run { arguments with properties := ["x=true", "JMSType=true"] }).result =
        (run arguments).result ∧
      (run { arguments with properties := ["x=true", "Not=true"] }).result =
        (run arguments).result ∧
      (run arguments).log.filter LogRecord.isWarning =
        [⟨.warn, "'x' is not a header name; selectors will not see it"⟩,
          ⟨.warn, "'Not' is a reserved word and cannot appear in a selector"⟩] := by
  intro arguments
  -- One header under another name, one property that is a reserved word, and one that is a header
  -- name.
  have header : Assignment.ofText "x=false" = .ok ⟨"x", .boolean false⟩ := rfl
  have reserved : Assignment.ofText "Not=true" = .ok ⟨"Not", .boolean true⟩ := rfl
  have hidden : Assignment.ofText "JMSType=true" = .ok ⟨"JMSType", .boolean true⟩ := rfl
  have first := result_run_without arguments [] [] header
  have second := result_run_without arguments ["x=true"] ["JMSType=true"] reserved
  have third := result_run_without arguments ["x=true", "Not=true"] [] hidden
  exact ⟨first.1 rfl, second.2.1 (.inl rfl), third.2.1 (.inr rfl), first.2.2.trans rfl⟩

end Command

end MessageSelector
