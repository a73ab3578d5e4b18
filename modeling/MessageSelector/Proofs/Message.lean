import Mathlib.Data.List.Induction
import MessageSelector.Message
import MessageSelector.Proofs.Expr.Questions
import MessageSelector.Proofs.Expr.Valuation
import MessageSelector.Regex.Plain

/-! Messages after changes: what selectors find in the two tables is what one mapping that holds the
last bindings would tell them. -/

namespace MessageSelector

namespace Message

/-- A change to a message, in place or while it is built. -/
inductive Change where
  -- The three changes are the whole interface of a message.
  | setHeader (name : String) (value : Value)
  | setProperty (name : String) (value : Value)
  | clearProperties

/-- The message after a change. -/
def change (message : Message) : Change → Message
  -- Each change has its function, and a run is a list of changes.
  | .setHeader name value => message.setHeader name value
  | .setProperty name value => message.setProperty name value
  | .clearProperties => message.clearProperties

/-- The message after changes to one that starts out empty. -/
def after (changes : List Change) : Message :=
  changes.foldl change empty

namespace Change

/-- The value that the change sets for the header of a name. -/
def headerValue? (name : String) : Change → Option Value
  -- A property says nothing about a header, even under its name.
  | setHeader header value => if header = name then some value else none
  | _ => none

/-- The value that the change sets for the property of a name. -/
def propertyValue? (name : String) : Change → Option Value
  -- A header says nothing about a property, even under its name.
  | setProperty property value => if property = name then some value else none
  | _ => none

/-- The change unbinds all properties. -/
def clears : Change → Bool
  -- Headers cannot be cleared.
  | clearProperties => true
  | _ => false

section

variable [Regex.Engine]

/-- A change that no selector with this tree can notice: a header that selectors do not look for
among the headers, a property that they do not look for among the properties, or the loss of the
properties where the tree refers to headers only. -/
def IsIdleFor (tree : Expr) : Change → Prop
  -- Which of the two an identifier refers to depends on its name alone.
  | setHeader name _ => isHeaderName name = false
  | setProperty name _ => isHeaderName name = true
  | clearProperties => ∀ identifier ∈ tree.identifiers, identifier.isHeader = true

end

end Change

/-- The value that the changes set last for the header of a name. -/
def lastHeader? (changes : List Change) (name : String) : Option Value :=
  changes.reverse.findSome? (·.headerValue? name)

/-- The value that the changes set last for the property of a name, since the properties were last
cleared. -/
def lastProperty? (changes : List Change) (name : String) : Option Value :=
  (changes.reverse.takeWhile (!·.clears)).findSome? (·.propertyValue? name)

/-- One mapping after a change: it holds the headers under the header names and the properties under
all other names. -/
def mergeChange (mapping : Mapping) : Change → Mapping
  -- No name is of both sorts, so the two never meet in the mapping.
  | .setHeader name value => if isHeaderName name then mapping.insert name value else mapping
  | .setProperty name value => if isHeaderName name then mapping else mapping.insert name value
  | .clearProperties => mapping.filter fun name _ => isHeaderName name

/-- The mapping that the changes leave in place of the two tables. -/
def merged (changes : List Change) : Mapping :=
  changes.foldl mergeChange ∅

section

variable (changes : List Change) (name : String)

/-- A header that is set once more has the later value. -/
theorem lastHeader?_concat (change : Change) :
    lastHeader? (changes ++ [change]) name =
      (change.headerValue? name).or (lastHeader? changes name) := by
  -- The search runs from the end, so the last change is looked at first.
  simp only [lastHeader?, List.reverse_append, List.reverse_singleton, List.singleton_append,
    List.findSome?_cons]
  cases change.headerValue? name <;> rfl

/-- A property that is set once more has the later value, and one that is cleared has none. -/
theorem lastProperty?_concat (change : Change) :
    lastProperty? (changes ++ [change]) name =
      if change.clears then none
      else (change.propertyValue? name).or (lastProperty? changes name) := by
  simp only [lastProperty?, List.reverse_append, List.reverse_singleton, List.singleton_append,
    List.takeWhile_cons]
  -- A clear ends the search, even when properties were set before it.
  cases change.clears with
  | true => rfl
  | false =>
    simp only [Bool.not_false, if_true, List.findSome?_cons]
    cases change.propertyValue? name <;> rfl

end

/-- What selectors find under a name. -/
def binding? (message : Message) (name : String) : Option Value :=
  if isHeaderName name then message.header? name else message.property? name

/-- What selectors find under a name after a change, given what they found before. -/
def Change.rebind (name : String) (bound : Option Value) : Change → Option Value
  -- A change reaches a name only if the name is of its own sort.
  | setHeader header value => if isHeaderName name ∧ header = name then some value else bound
  | setProperty property value => if ¬isHeaderName name ∧ property = name then some value else bound
  | clearProperties => if isHeaderName name then bound else none

/-- A change acts on what is found under each name on its own. -/
theorem binding?_change (message : Message) (change : Change) (name : String) :
    (message.change change).binding? name = change.rebind name (message.binding? name) := by
  -- Setting touches one entry, and clearing touches the properties alone.
  cases change with
  | setHeader header value =>
    cases header : isHeaderName name <;>
      simp [Message.change, binding?, Change.rebind, setHeader, header?, property?, header,
        Std.HashMap.getElem?_insert]
  | setProperty property value =>
    cases header : isHeaderName name <;>
      simp [Message.change, binding?, Change.rebind, setProperty, header?, property?, header,
        Std.HashMap.getElem?_insert]
  | clearProperties =>
    cases header : isHeaderName name <;>
      simp [Message.change, binding?, Change.rebind, clearProperties, header?, property?, header]

/-- The one mapping changes under each name as what is found in the two tables does. -/
theorem getElem?_mergeChange (mapping : Mapping) (change : Change) (name : String) :
    (mergeChange mapping change)[name]? = change.rebind name mapping[name]? := by
  cases change with
  | setHeader header value =>
    -- A name is looked up among the headers exactly if the mapping takes it from there.
    by_cases same : header = name
    · subst same
      cases isHeader : isHeaderName header <;> simp [mergeChange, Change.rebind, isHeader]
    · cases isHeader : isHeaderName header <;>
        simp [mergeChange, Change.rebind, isHeader, same, Std.HashMap.getElem?_insert]
  | setProperty property value =>
    by_cases same : property = name
    · subst same
      cases isHeader : isHeaderName property <;> simp [mergeChange, Change.rebind, isHeader]
    · cases isHeader : isHeaderName property <;>
        simp [mergeChange, Change.rebind, isHeader, same, Std.HashMap.getElem?_insert]
  | clearProperties =>
    simp only [mergeChange, Change.rebind, Std.HashMap.getElem?_filter, Std.HashMap.getKey_eq,
      Option.pfilter_eq_filter]
    cases isHeaderName name <;> cases mapping[name]? <;> rfl

/-- What selectors find under a name after changes. -/
def rebound (changes : List Change) (name : String) : Option Value :=
  changes.foldl (fun bound change => change.rebind name bound) none

/-- The message holds under each name what the changes have left there. -/
theorem binding?_after (changes : List Change) (name : String) :
    (after changes).binding? name = rebound changes name := by
  -- The value of a name is followed through the fold, from the empty message on.
  have unbound : empty.binding? name = none := by simp [binding?, empty, header?, property?]
  rw [rebound, after, ← unbound]
  exact (List.foldl_hom (fun message => binding? message name) fun message change =>
    (binding?_change message change name).symm).symm

/-- The one mapping holds under each name what the changes have left there. -/
theorem getElem?_merged (changes : List Change) (name : String) :
    (merged changes)[name]? = rebound changes name := by
  -- The value of a name is followed through the fold, from the empty mapping on.
  have unbound : (∅ : Mapping)[name]? = none := by simp
  rw [rebound, merged, ← unbound]
  exact (List.foldl_hom (fun mapping : Mapping => mapping[name]?) fun mapping change =>
    (getElem?_mergeChange mapping change name).symm).symm

/-- Under the name of a header there is the header that was set last, and under any other name the
property that was set last and not cleared. -/
theorem rebound_eq_last (changes : List Change) (name : String) :
    rebound changes name =
      if isHeaderName name then lastHeader? changes name else lastProperty? changes name := by
  induction changes using List.reverseRecOn with
  | nil => simp [rebound, lastHeader?, lastProperty?]
  | append_singleton changes change ih =>
    have step : rebound (changes ++ [change]) name = change.rebind name (rebound changes name) := by
      simp [rebound]
    rw [step, ih, lastHeader?_concat, lastProperty?_concat]
    -- The last change sets the name itself, or clears it, or leaves its binding as it was.
    cases change with
    | setHeader header value =>
      simp only [Change.rebind, Change.headerValue?, Change.propertyValue?, Change.clears]
      cases isHeaderName name <;> by_cases same : header = name <;> simp [same]
    | setProperty property value =>
      simp only [Change.rebind, Change.headerValue?, Change.propertyValue?, Change.clears]
      cases isHeaderName name <;> by_cases same : property = name <;> simp [same]
    | clearProperties =>
      simp only [Change.rebind, Change.headerValue?, Change.clears]
      cases isHeaderName name <;> simp

/-- Selectors ask a message for what they find under the name of an identifier. -/
theorem provider_after (changes : List Change) (identifier : Identifier) :
    provider identifier (after changes) = rebound changes identifier.name :=
  -- The provider asks for the name, which the identifier carries.
  binding?_after changes identifier.name

section

variable [Regex.Engine]

/-- Two messages in which every identifier finds the same lead to the same outcome. -/
theorem truthWith_provider_congr {message other : Message}
    (agree : ∀ identifier : Identifier,
      message.binding? identifier.name = other.binding? identifier.name) (tree : Expr) :
    tree.truthWith provider message = tree.truthWith provider other :=
  -- Only the identifiers of the tree are asked for.
  congrArg Truth.ofValue (Expr.evalWith_congr _ _ _ _ fun identifier _ => agree identifier)

/-- A message and a mapping that hold the same under every name lead to the same outcome. -/
theorem truthWith_provider_eq {message : Message} {mapping : Mapping}
    (agree : ∀ name, mapping[name]? = message.binding? name) (tree : Expr) :
    tree.truthWith provider message = tree.truth mapping := by
  -- The mapping answers each identifier as the message does.
  refine congrArg Truth.ofValue (Expr.evalWith_congr _ _ _ _ fun identifier _ => ?_)
  rw [Mapping.provider, agree]
  rfl

/-- An idle change leaves what is found under the names that the tree refers to. -/
theorem rebind_of_isIdleFor {tree : Expr} {idle : Change} (isIdle : idle.IsIdleFor tree)
    {identifier : Identifier} (occurs : identifier ∈ tree.identifiers) (bound : Option Value) :
    idle.rebind identifier.name bound = bound := by
  -- Each change is idle because it rebinds only names of the other sort.
  cases idle with
  | setHeader header value =>
    refine if_neg ?_
    rintro ⟨isHeader, rfl⟩
    exact Bool.eq_false_iff.1 isIdle isHeader
  | setProperty property value =>
    refine if_neg ?_
    rintro ⟨noHeader, rfl⟩
    exact noHeader isIdle
  | clearProperties => exact if_pos (isIdle identifier occurs)

/-- Wherever an idle change stands among the changes, the names that the tree refers to end up
bound as they do without it. -/
theorem rebound_of_isIdleFor {tree : Expr} {idle : Change} (isIdle : idle.IsIdleFor tree)
    (changes later : List Change) {identifier : Identifier}
    (occurs : identifier ∈ tree.identifiers) :
    rebound (changes ++ idle :: later) identifier.name =
      rebound (changes ++ later) identifier.name := by
  -- Folding over the idle change leaves the value alone, so it can be left out.
  simp only [rebound, List.foldl_append, List.foldl_cons, rebind_of_isIdleFor isIdle occurs]

/-- A selector comes to the same outcome with a message as with one mapping, which holds for each
header name the header that was set last and for each other name the property that was set last
since the properties were cleared; and a change that is idle for the selector makes no difference,
wherever it stands among the others. -/
theorem truthWith_provider_after (changes : List Change) (tree : Expr) :
    (∀ name, (merged changes)[name]? =
        if isHeaderName name then lastHeader? changes name else lastProperty? changes name) ∧
      tree.truthWith provider (after changes) = tree.truth (merged changes) ∧
      ∀ (idle : Change) (later : List Change), idle.IsIdleFor tree →
        tree.truthWith provider (after (changes ++ idle :: later)) =
          tree.truthWith provider (after (changes ++ later)) := by
  refine ⟨fun name => ?_, ?_, fun idle later isIdle => ?_⟩
  · rw [getElem?_merged, rebound_eq_last]
  · -- The message and the mapping answer alike for every identifier.
    refine congrArg Truth.ofValue (Expr.evalWith_congr _ _ _ _ fun identifier _ => ?_)
    rw [provider_after, Mapping.provider, getElem?_merged]
  · refine congrArg Truth.ofValue (Expr.evalWith_congr _ _ _ _ fun identifier occurs => ?_)
    rw [provider_after, provider_after, rebound_of_isIdleFor isIdle changes later occurs]

end

/-- A car stays one to `JMSType = 'car'` when a property of the same name is set to a truck and when
all properties are cleared. -/
theorem truthWith_provider_after_car :
    let type : Expr := .reference ⟨"JMSType", by decide, by decide⟩
    let tree : Expr := .equal .strings type (.literal (.string "car"))
    let truck : Change := .setProperty "JMSType" (.string "truck")
    truck.IsIdleFor tree ∧ Change.clearProperties.IsIdleFor tree ∧
      tree.truthWith provider
        (after [.setHeader "JMSType" (.string "car"), truck, .clearProperties]) = .yes := by
  intro type tree truck
  -- A property under the name of a header is never asked for, and clearing spares the headers.
  have idle : truck.IsIdleFor tree := by
    show isHeaderName "JMSType" = true
    decide
  have cleared : Change.clearProperties.IsIdleFor tree := by
    show ∀ identifier ∈ tree.identifiers, identifier.isHeader = true
    decide
  let car : Change := .setHeader "JMSType" (.string "car")
  obtain ⟨bound, same, leftOut⟩ := truthWith_provider_after [car] tree
  have found : (merged [car])["JMSType"]? = some (.string "car") := by
    rw [bound]
    decide
  have holds : tree.truth (merged [car]) = .yes := by
    rw [Expr.truth, Expr.eval_eq_valueBy]
    simp only [tree, type, Expr.valueBy, found]
    rfl
  refine ⟨idle, cleared, ?_⟩
  calc tree.truthWith provider (after [car, truck, .clearProperties])
      = tree.truthWith provider (after [car, .clearProperties]) :=
        leftOut truck [.clearProperties] idle
    _ = tree.truthWith provider (after [car]) := leftOut .clearProperties [] cleared
    _ = tree.truth (merged [car]) := same
    _ = .yes := holds

end Message

end MessageSelector
