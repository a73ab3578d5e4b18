import MessageSelector.Proofs.Instances
import MessageSelector.Proofs.Phrase.Acceptance
import MessageSelector.Regex.Plain
import MessageSelector.SelectorCache

/-! Runs of steps on a cache: nothing but the sharing of selectors tells it from reading each text
again. -/

namespace MessageSelector

namespace SelectorCache

/-- A step of a caller that uses the cache. -/
inductive Step where
  -- An evaluation reads its selector first, so it changes the cache as a reading does.
  | read (text : String)
  | get (text : String)
  | remove (text : String)
  | evaluate (text : String) (mapping : Mapping)
  | clear

namespace Step

/-- The step needs the selector of the text, also if there is none yet. -/
def Reads : Step → String → Prop
  -- A step reads one text at most.
  | .read text, other | .evaluate text _, other => text = other
  | .get _, _ | .remove _, _ | .clear, _ => False

/-- The step takes the selector of the text out of the cache. -/
def Discards : Step → String → Prop
  -- A clear discards every text, and a removal only its own.
  | .remove text, other => text = other
  | .clear, _ => True
  | .read _, _ | .get _, _ | .evaluate _ _, _ => False

/-- A step that needs a selector takes none out. -/
theorem Reads.not_discards {step : Step} {text other : String} (reads : step.Reads text) :
    ¬step.Discards other := by
  -- The steps that read discard nothing.
  cases step with
  | read known | evaluate known mapping => exact not_false
  | get known | remove known | clear => exact reads.elim

end Step

section

variable [Regex.Engine]

variable {cache : SelectorCache} {text other : String} {shared again : Shared Selector}

/-- All that can come of asking for a text: the selector that is kept under it, or else what reading
it leads to. -/
theorem getOrRead_cases (cache : SelectorCache) (text : String) :
    (∃ kept, cache.get? text = some kept ∧ cache.getOrRead text = (.ok kept, cache)) ∨
      cache.get? text = none ∧
        ((∃ error, Selector.ofText text = .error error ∧
            cache.getOrRead text = (.error error, cache)) ∨
          ∃ selector, Selector.ofText text = .ok selector ∧
            cache.getOrRead text =
              (.ok ⟨cache.made, selector⟩,
                ⟨cache.selectors.insert text ⟨cache.made, selector⟩, cache.made + 1⟩)) := by
  -- There are three outcomes: kept before, refused by the reader, and read anew.
  cases found : cache.get? text with
  | some kept => exact .inl ⟨kept, rfl, by rw [getOrRead, found]⟩
  | none =>
    refine .inr ⟨rfl, ?_⟩
    cases read : Selector.ofText text with
    | error error => exact .inl ⟨error, rfl, by rw [getOrRead, found, read]⟩
    | ok selector => exact .inr ⟨selector, rfl, by rw [getOrRead, found, read]⟩

/-- Asking for a text whose selector is kept changes nothing. -/
theorem getOrRead_of_found (found : cache.get? text = some shared) :
    cache.getOrRead text = (.ok shared, cache) := by
  -- A kept selector is handed out without reading the text again.
  rw [getOrRead, found]

/-- What asking for a text hands out is kept already, or it has the next serial. -/
theorem found_or_new (asked : (cache.getOrRead text).1 = .ok shared) :
    cache.get? text = some shared ∨ shared.serial = cache.made := by
  -- A selector that was not kept is the one just made.
  rcases cache.getOrRead_cases text with
    ⟨kept, found, same⟩ | ⟨-, ⟨error, -, same⟩ | ⟨selector, -, same⟩⟩ <;>
    rw [same] at asked <;> cases asked
  · exact .inl found
  · exact .inr rfl

/-- Asking for a text keeps the serials of the instances apart. -/
theorem numbered_getOrRead (numbered : Numbered cache.selectors cache.made) :
    Numbered (cache.getOrRead text).2.selectors (cache.getOrRead text).2.made := by
  -- Only reading anew changes the cache, and the new serial number is the next one.
  rcases cache.getOrRead_cases text with
    ⟨kept, -, same⟩ | ⟨-, ⟨error, -, same⟩ | ⟨selector, -, same⟩⟩ <;> rw [same]
  · exact numbered
  · exact numbered
  · exact numbered.insert text selector

/-- Asking for a text gives the next serial or none. -/
theorem made_le_getOrRead (cache : SelectorCache) (text : String) :
    cache.made ≤ (cache.getOrRead text).2.made := by
  -- The count of selectors made never goes back.
  rcases cache.getOrRead_cases text with
    ⟨kept, -, same⟩ | ⟨-, ⟨error, -, same⟩ | ⟨selector, -, same⟩⟩
  · rw [same]
  · rw [same]
  · rw [same]
    exact Nat.le_succ _

/-- A selector is kept after asking for a text if it was kept before or has just been handed out. -/
theorem get?_getOrRead_iff :
    (cache.getOrRead text).2.get? other = some shared ↔
      cache.get? other = some shared ∨ text = other ∧ (cache.getOrRead text).1 = .ok shared := by
  rcases cache.getOrRead_cases text with
    ⟨kept, found, same⟩ | ⟨absent, ⟨error, -, same⟩ | ⟨selector, -, same⟩⟩
  · rw [same]
    refine ⟨.inl, ?_⟩
    rintro (before | ⟨rfl, handed⟩)
    · exact before
    · rw [found, Except.ok.inj handed]
  · rw [same]
    simp
  · rw [same]
    -- The new selector stands under its own text, and nothing else is touched.
    by_cases new : text = other
    · subst new
      rw [absent]
      simp [get?]
    · simp [get?, Std.HashMap.getElem?_insert, new]

/-- The outcome of a text is that of the selector which asking for the text comes to. -/
theorem fst_truth (cache : SelectorCache) (text : String) (mapping : Mapping) :
    (cache.truth text mapping).1 =
      (cache.getOrRead text).1.map fun shared => shared.value.truth mapping :=
  -- The evaluation reads the selector and then asks it.
  rfl

/-- A removal takes away what is kept under one text. -/
theorem get?_remove_iff :
    (cache.remove text).2.get? other = some shared ↔
      text ≠ other ∧ cache.get? other = some shared := by
  -- A removal changes the answer for its own text only.
  by_cases same : text = other <;> simp [remove, get?, Std.HashMap.getElem?_erase, same]

/-- The cache after a step. -/
def perform (cache : SelectorCache) : Step → SelectorCache
  -- A lookup leaves the cache as it is, and an evaluation reads its selector first.
  | .read text => (cache.getOrRead text).2
  | .get _ => cache
  | .remove text => (cache.remove text).2
  | .evaluate text mapping => (cache.truth text mapping).2
  | .clear => cache.clear

/-- The cache after steps on one that starts out empty. -/
def after (history : List Step) : SelectorCache :=
  history.foldl perform empty

/-- The step comes to the instance of the selector of the text. -/
def HandsOut (cache : SelectorCache) : Step → String → Shared Selector → Prop
  -- A removal hands out the selector that it takes away.
  | .read text, other, shared | .evaluate text _, other, shared =>
    text = other ∧ (cache.getOrRead text).1 = .ok shared
  | .get text, other, shared => text = other ∧ cache.get? text = some shared
  | .remove text, other, shared => text = other ∧ (cache.remove text).1 = some shared
  | .clear, _, _ => False

/-- The text is that of a selector which one of the steps needed and no later one has taken out. -/
def IsStored (history : List Step) (text : String) : Prop :=
  -- Nothing discarded the text after one of its readings, and it can be read.
  (∃ selector, Selector.ofText text = .ok selector) ∧
    ∃ before step later, history = before ++ step :: later ∧ step.Reads text ∧
      ∀ next ∈ later, ¬next.Discards text

variable {step : Step}

/-- A selector is kept after a step that does not discard it if it was kept before or has just been
handed out. -/
theorem get?_perform_iff :
    (cache.perform step).get? text = some shared ↔
      ¬step.Discards text ∧ (cache.get? text = some shared ∨ cache.HandsOut step text shared) := by
  -- A step keeps what it does not discard, and adds what it hands out.
  cases step with
  | read asked => exact get?_getOrRead_iff.trans (and_iff_right not_false).symm
  | evaluate asked mapping => exact get?_getOrRead_iff.trans (and_iff_right not_false).symm
  | get asked =>
    refine ⟨fun kept => ⟨not_false, .inl kept⟩, ?_⟩
    rintro ⟨-, kept | ⟨rfl, kept⟩⟩ <;> exact kept
  | remove asked =>
    refine get?_remove_iff.trans (and_congr_right fun different => ?_)
    exact ⟨.inl, fun kept => kept.resolve_right fun handed => different handed.1⟩
  | clear =>
    refine ⟨fun kept => ?_, fun kept => absurd trivial kept.1⟩
    simp [perform, clear, get?] at kept

/-- What a step hands out is what asking for the text comes to. -/
theorem HandsOut.asked (handed : cache.HandsOut step text shared) :
    (cache.getOrRead text).1 = .ok shared := by
  -- Whatever is handed out is what reading the text would yield just then.
  cases step with
  | read asked | evaluate asked mapping =>
    obtain ⟨rfl, result⟩ := handed
    exact result
  | get asked | remove asked =>
    obtain ⟨rfl, kept⟩ := handed
    rw [getOrRead_of_found kept]
  | clear => exact handed.elim

/-- What a step hands out has been kept before, unless the step may add to the cache. -/
theorem HandsOut.found_or_reads (handed : cache.HandsOut step text shared) :
    cache.get? text = some shared ∨ step.Reads text := by
  -- A lookup and a removal hand out only what is kept.
  cases step with
  | read asked | evaluate asked mapping => exact .inr handed.1
  | get asked | remove asked =>
    obtain ⟨rfl, kept⟩ := handed
    exact .inl kept
  | clear => exact handed.elim

/-- A step that needs the selector of a text is handed what asking for the text comes to. -/
theorem Step.Reads.handsOut (reads : step.Reads text)
    (asked : (cache.getOrRead text).1 = .ok shared) : cache.HandsOut step text shared := by
  -- A step that reads a text hands out what it has read.
  cases step with
  | read known | evaluate known mapping =>
    obtain rfl : known = text := reads
    exact ⟨rfl, asked⟩
  | get known | remove known | clear => exact reads.elim

/-- No step takes back a serial that has been given. -/
theorem made_le_perform (cache : SelectorCache) (step : Step) :
    cache.made ≤ (cache.perform step).made := by
  -- Only reading makes selectors, and nothing unmakes one.
  cases step with
  | read text | evaluate text mapping => exact made_le_getOrRead cache text
  | get text | remove text | clear => exact Nat.le_refl _

/-- Each text has an instance with a serial of its own, which is the selector of this text. -/
structure Consistent (cache : SelectorCache) : Prop where
  -- A kept selector is what its text reads as, whenever it was read.
  numbered : Numbered cache.selectors cache.made
  value : ∀ {text : String} {shared : Shared Selector}, cache.get? text = some shared →
    Selector.ofText text = .ok shared.value

/-- A cache that keeps nothing has no wrong selectors. -/
theorem consistent_empty : empty.Consistent where
  numbered := .empty
  value kept := by simp [empty, get?] at kept

namespace Consistent

/-- Asking for a text comes to what reading it does. -/
theorem map_getOrRead (consistent : cache.Consistent) (text : String) :
    (cache.getOrRead text).1.map Shared.value = Selector.ofText text := by
  -- A kept selector was read from the same text, so it equals a new one.
  rcases cache.getOrRead_cases text with
    ⟨kept, found, same⟩ | ⟨-, ⟨error, read, same⟩ | ⟨selector, read, same⟩⟩ <;> rw [same]
  · exact (consistent.value found).symm
  · exact read.symm
  · exact read.symm

/-- What asking for a text hands out is the selector of this text. -/
theorem ofText_of_asked (consistent : cache.Consistent)
    (asked : (cache.getOrRead text).1 = .ok shared) : Selector.ofText text = .ok shared.value := by
  -- By consistency the answer of the cache is that of the reader.
  rw [← consistent.map_getOrRead, asked]
  rfl

/-- Asking for a text that does not read as a selector changes nothing. -/
theorem getOrRead_of_fault (consistent : cache.Consistent) {error : SyntaxError}
    (fault : Selector.ofText text = .error error) :
    cache.getOrRead text = (.error error, cache) := by
  -- A text with a fault is never kept, so it is read again and refused again.
  rcases cache.getOrRead_cases text with
    ⟨kept, found, same⟩ | ⟨-, ⟨known, read, same⟩ | ⟨selector, read, same⟩⟩
  · rw [consistent.value found] at fault
    cases fault
  · rw [same, Except.error.inj (read.symm.trans fault)]
  · rw [read] at fault
    cases fault

/-- A text that reads as a selector is handed one when it is asked for. -/
theorem exists_asked (consistent : cache.Consistent)
    (readable : ∃ selector, Selector.ofText text = .ok selector) :
    ∃ shared, (cache.getOrRead text).1 = .ok shared := by
  obtain ⟨selector, read⟩ := readable
  rw [← consistent.map_getOrRead] at read
  -- A refusal would be one of the reader, which accepts the text.
  cases asked : (cache.getOrRead text).1 with
  | error error =>
    rw [asked] at read
    cases read
  | ok shared => exact ⟨shared, rfl⟩

/-- A step adds the selector of a text, if it adds one, and gives it the next serial. -/
theorem perform (consistent : cache.Consistent) (step : Step) :
    (cache.perform step).Consistent where
  numbered := by
    cases step with
    | read text | evaluate text mapping => exact numbered_getOrRead consistent.numbered
    | get text => exact consistent.numbered
    | remove text => exact consistent.numbered.mono fun kept => (get?_remove_iff.1 kept).2
    | clear => exact .empty
  value kept := by
    -- A selector that is found was kept before or has just been handed out.
    obtain ⟨-, before | handed⟩ := get?_perform_iff.1 kept
    · exact consistent.value before
    · exact consistent.ofText_of_asked handed.asked

end Consistent

/-- What is kept after a step has been kept before, or it has the next serial. -/
theorem found_or_new_of_perform (kept : (cache.perform step).get? text = some shared) :
    cache.get? text = some shared ∨ shared.serial = cache.made := by
  -- A selector that is found was kept before or has just been handed out.
  obtain ⟨-, before | handed⟩ := get?_perform_iff.1 kept
  · exact .inl before
  · exact found_or_new handed.asked

/-- The instance has been made, but it is no longer kept. -/
structure IsRetired (cache : SelectorCache) (shared : Shared Selector) : Prop where
  -- The serial number has been given out, and no kept selector bears it.
  below : shared.serial < cache.made
  serial_ne : ∀ {text : String} {again : Shared Selector}, cache.get? text = some again →
    shared.serial ≠ again.serial

/-- An instance that is no longer kept does not come back. -/
theorem IsRetired.perform (retired : cache.IsRetired shared) (step : Step) :
    (cache.perform step).IsRetired shared where
  below := Nat.lt_of_lt_of_le retired.below (cache.made_le_perform step)
  serial_ne kept := by
    -- A selector that enters later bears a serial number that had not been given out.
    rcases found_or_new_of_perform kept with before | new
    · exact retired.serial_ne before
    · exact new ▸ Nat.ne_of_lt retired.below

/-- A step that takes out the selector of a text leaves its instance under no other text. -/
theorem isRetired_perform (numbered : Numbered cache.selectors cache.made)
    (found : cache.get? text = some shared) (discards : step.Discards text) :
    (cache.perform step).IsRetired shared where
  below := Nat.lt_of_lt_of_le (numbered.below found) (cache.made_le_perform step)
  serial_ne kept := by
    rcases found_or_new_of_perform kept with before | new
    · -- Only the discarded text had this serial.
      intro same
      obtain rfl := numbered.key_eq found before same
      exact (get?_perform_iff.1 kept).1 discards
    · exact new ▸ Nat.ne_of_lt (numbered.below found)

@[simp] theorem after_concat (history : List Step) (step : Step) :
    after (history ++ [step]) = (after history).perform step := by
  -- The last step is performed on what all others have left.
  simp [after]

/-- After any steps each text has an instance of its own. -/
theorem consistent_after (history : List Step) : (after history).Consistent :=
  List.foldlRecOn history _ consistent_empty fun _ consistent step _ => consistent.perform step

section

variable {history : List Step}

/-- A selector is kept over steps that do not discard it. -/
theorem get?_after_append (found : (after history).get? text = some shared) {steps : List Step}
    (stays : ∀ step ∈ steps, ¬step.Discards text) :
    (after (history ++ steps)).get? text = some shared := by
  induction steps using List.reverseRecOn with
  | nil => rwa [List.append_nil]
  -- The steps are worked off from the last, and none of them discards the text.
  | append_singleton steps step ih =>
    rw [← List.append_assoc, after_concat, get?_perform_iff]
    simp only [List.mem_append, List.mem_singleton, or_imp, forall_and, forall_eq] at stays
    exact ⟨stays.2, .inl (ih stays.1)⟩

/-- Once a step has discarded a selector, its instance is no longer kept. -/
theorem isRetired_after_append (found : (after history).get? text = some shared)
    {steps : List Step} (discarded : ∃ step ∈ steps, step.Discards text) :
    (after (history ++ steps)).IsRetired shared := by
  induction steps using List.reverseRecOn with
  | nil => simp at discarded
  | append_singleton steps step ih =>
    rw [← List.append_assoc, after_concat]
    -- Either an earlier step has discarded the text, or its selector is kept up to the last one.
    by_cases before : ∃ step ∈ steps, step.Discards text
    · exact (ih before).perform step
    · have stays : ∀ step ∈ steps, ¬step.Discards text := by simpa using before
      have last : step.Discards text := by simpa [before, or_and_right, exists_or] using discarded
      exact isRetired_perform (consistent_after _).numbered (get?_after_append found stays) last

variable {first last : Step} {between : List Step}

/-- What is handed out is kept as long as its text is not discarded. -/
theorem HandsOut.kept (handed : (after history).HandsOut first text shared)
    (stays : ∀ step ∈ first :: between, ¬step.Discards text) :
    (after (history ++ first :: between)).get? text = some shared := by
  obtain ⟨staysFirst, staysBetween⟩ := List.forall_mem_cons.1 stays
  -- The first step does not discard the text itself, so it is kept from there on.
  have found : (after (history ++ [first])).get? text = some shared := by
    rw [after_concat, get?_perform_iff]
    exact ⟨staysFirst, .inr handed⟩
  simpa using get?_after_append found staysBetween

/-- What is handed out is no longer kept once its text has been discarded, by the same step or a
later one. -/
theorem HandsOut.isRetired (handed : (after history).HandsOut first text shared)
    (discarded : ∃ step ∈ first :: between, step.Discards text) :
    (after (history ++ first :: between)).IsRetired shared := by
  -- Only a step that discards nothing can add what it hands out.
  rcases handed.found_or_reads with found | reads
  · exact isRetired_after_append found discarded
  · have found : (after (history ++ [first])).get? text = some shared :=
      handed.kept (by simpa using reads.not_discards)
    simpa using isRetired_after_append found (by simpa [reads.not_discards] using discarded)

/-- Two steps come to the same instance exactly if they ask for the same text and this is not taken
out by the first one or between them. -/
theorem serial_eq_iff (handed : (after history).HandsOut first text shared)
    (handedAgain : (after (history ++ first :: between)).HandsOut last other again) :
    shared.serial = again.serial ↔
      text = other ∧ ∀ step ∈ first :: between, ¬step.Discards text := by
  by_cases stays : ∀ step ∈ first :: between, ¬step.Discards text
  · -- The instance is still kept, so the last step is handed it for this text alone.
    have kept := handed.kept stays
    have numbered := (consistent_after (history ++ first :: between)).numbered
    refine ⟨fun same => ⟨?_, stays⟩, ?_⟩
    · rcases found_or_new handedAgain.asked with keptToo | new
      · exact numbered.key_eq kept keptToo same
      · exact absurd (same.trans new) (Nat.ne_of_lt (numbered.below kept))
    · rintro ⟨rfl, -⟩
      have asked := handedAgain.asked
      rw [getOrRead_of_found kept] at asked
      rw [Except.ok.inj asked]
  · -- The instance is gone: no text has it, and whatever is new has a later serial.
    have retired := handed.isRetired (by simpa only [not_forall, not_not, exists_prop] using stays)
    refine ⟨fun same => ?_, fun both => absurd both.2 stays⟩
    rcases found_or_new handedAgain.asked with keptToo | new
    · exact absurd same (retired.serial_ne keptToo)
    · exact absurd (same.trans new) (Nat.ne_of_lt retired.below)

/-- After one more step a selector is stored if the step needed it, or if it was stored before and
the step has not taken it out. -/
theorem isStored_concat :
    IsStored (history ++ [step]) text ↔
      (∃ selector, Selector.ofText text = .ok selector) ∧ step.Reads text ∨
        IsStored history text ∧ ¬step.Discards text := by
  rw [IsStored, exists_split_concat_iff, IsStored]
  simp only [List.mem_append, List.mem_singleton, or_imp, forall_and, forall_eq]
  -- Either the last step is the reading itself, or the reading lies before it.
  constructor
  · rintro ⟨readable, ⟨before, earlier, later, split, reads, stays, last⟩ | ⟨reads, -⟩⟩
    · exact .inr ⟨⟨readable, before, earlier, later, split, reads, stays⟩, last⟩
    · exact .inl ⟨readable, reads⟩
  · rintro (⟨readable, reads⟩ | ⟨⟨readable, before, earlier, later, split, reads, stays⟩, last⟩)
    · exact ⟨readable, .inr ⟨reads, by simp⟩⟩
    · exact ⟨readable, .inl ⟨before, earlier, later, split, reads, stays, last⟩⟩

/-- Exactly the stored selectors are kept. -/
theorem isStored_iff :
    IsStored history text ↔ ∃ shared, (after history).get? text = some shared := by
  induction history using List.reverseRecOn with
  | nil => simp [IsStored, after, empty, get?]
  | append_singleton history step ih =>
    rw [isStored_concat, ih, after_concat]
    have consistent := consistent_after history
    -- Being found after one more step was analysed before, and both sides are split alike.
    constructor
    · rintro (⟨readable, reads⟩ | ⟨⟨shared, found⟩, stays⟩)
      · obtain ⟨shared, asked⟩ := consistent.exists_asked readable
        exact ⟨shared, get?_perform_iff.2 ⟨reads.not_discards, .inr (reads.handsOut asked)⟩⟩
      · exact ⟨shared, get?_perform_iff.2 ⟨stays, .inl found⟩⟩
    · rintro ⟨shared, kept⟩
      obtain ⟨stays, before | handed⟩ := get?_perform_iff.1 kept
      · exact .inr ⟨⟨shared, before⟩, stays⟩
      · rcases handed.found_or_reads with before | reads
        · exact .inr ⟨⟨shared, before⟩, stays⟩
        · exact .inl ⟨⟨shared.value, consistent.ofText_of_asked handed.asked⟩, reads⟩

/-- No selector is kept exactly for the texts that are not stored. -/
theorem get?_eq_none_iff : (after history).get? text = none ↔ ¬IsStored history text := by
  simp only [isStored_iff, not_exists, Option.eq_none_iff_forall_ne_some]

end

/-- Over any run of steps the cache is not to be told from reading each text again, but for the
instances that it shares. Each selector is kept under its own text with the tree of this text.
Asking for a text comes to what reading it does, and a fault changes nothing. Two steps that are
handed a selector are handed the same instance exactly if they ask for the same text and this is not
taken out by the first one or between them. Nothing is kept under exactly the texts that are not
stored, and the number of the others is the size. A selector has the same outcome through the cache
as when its text is read. -/
theorem getOrRead_after (history : List Step) :
    (∀ (text : String) (shared : Shared Selector), (after history).get? text = some shared →
      shared.value.text = text ∧ Expr.ofText text = .ok shared.value.tree) ∧
    (∀ text : String, ((after history).getOrRead text).1.map Shared.value = Selector.ofText text) ∧
    (∀ (text : String) (error : SyntaxError), Selector.ofText text = .error error →
      (after history).getOrRead text = (.error error, after history)) ∧
    (∀ (first last : Step) (between : List Step) (text other : String)
      (shared again : Shared Selector), (after history).HandsOut first text shared →
      (after (history ++ first :: between)).HandsOut last other again →
      (shared.serial = again.serial ↔
        text = other ∧ ∀ step ∈ first :: between, ¬step.Discards text)) ∧
    (∀ text : String, (after history).get? text = none ↔ ¬IsStored history text) ∧
    (∀ text : String, ((after history).remove text).1 = none ↔ ¬IsStored history text) ∧
    (after history).size = {text | IsStored history text}.ncard ∧
    ∀ (text : String) (mapping : Mapping), ((after history).truth text mapping).1 =
      (Selector.ofText text).map fun selector => selector.truth mapping := by
  -- Every cache that steps can lead to is consistent.
  have consistent := consistent_after history
  refine ⟨fun text shared kept => ?_, consistent.map_getOrRead,
    fun text error => consistent.getOrRead_of_fault,
    fun first last between text other shared again => serial_eq_iff,
    fun text => get?_eq_none_iff, fun text => get?_eq_none_iff, ?_, fun text mapping => ?_⟩
  · exact Selector.ofText_eq_ok_iff.1 (consistent.value kept)
  · rw [size, size_eq_ncard]
    simp only [isStored_iff]
    rfl
  · rw [fst_truth, ← consistent.map_getOrRead]
    cases ((after history).getOrRead text).1 <;> rfl

end

/-- After a removal the same selector is kept in another instance, and a text with a fault changes
nothing. -/
theorem getOrRead_after_removal :
    let first : Shared Selector := ⟨0, "x", .reference ⟨"x", by decide, by decide⟩⟩
    let second : Shared Selector := ⟨1, "x", .reference ⟨"x", by decide, by decide⟩⟩
    let history : List Step := [.read "x"]
    (after history).get? "x" = some first ∧
      (after history).HandsOut (.remove "x") "x" first ∧
      (after (history ++ [.remove "x", .read "x"])).HandsOut (.get "x") "x" second ∧
      first.serial ≠ second.serial ∧ Expr.ofText "x" = .ok first.value.tree ∧
      Selector.ofText "#" = .error ⟨0, .unexpectedCharacter '#'⟩ ∧
      (after history).getOrRead "#" =
        (.error ⟨0, .unexpectedCharacter '#'⟩, after history) := by
  intro first second history
  -- The same text is read before and after its removal, and the two selectors differ.
  have lexed : Lexed (Cursor.start "x") [⟨.identifier "x", 0⟩, ⟨.endOfInput, 1⟩] :=
    .token rfl rfl (.done rfl)
  have name : Derives .unary [.identifier "x"] first.value.tree :=
    .primary (.reference ⟨"x", by decide, by decide⟩)
  have read : Selector.ofText "x" = .ok first.value := by
    rw [Selector.ofText_eq_ok_iff, Expr.ofText, tokenize, Cursor.lexemes_of_lexed lexed]
    exact ⟨rfl, Expr.ofLexemes_of_derivesSelector ⟨_, rfl, name.loosen .or⟩⟩
  have kept : (after history).get? "x" = some first := by
    simp [history, first, after, perform, getOrRead, empty, get?, read]
  have keptAgain : (after (history ++ [.remove "x", .read "x"])).get? "x" = some second := by
    simp [history, first, second, after, perform, remove, getOrRead, empty, get?, read]
  have visible : (Cursor.start "#").skipBlanks = ⟨['#'], 0⟩ := rfl
  have fault : Selector.ofText "#" = .error ⟨0, .unexpectedCharacter '#'⟩ := by
    rw [Selector.ofText, Expr.ofText, tokenize, Cursor.lexemes_of_error visible rfl]
    rfl
  obtain ⟨own, -, refused, instances, -⟩ := getOrRead_after history
  have apart := instances (.remove "x") (.get "x") [.read "x"] "x" "x" first second ⟨rfl, kept⟩
    ⟨rfl, keptAgain⟩
  exact ⟨kept, ⟨rfl, kept⟩, ⟨rfl, keptAgain⟩,
    fun same => (apart.1 same).2 (.remove "x") (by simp) rfl, (own "x" first kept).2, fault,
    refused "#" _ fault⟩

end SelectorCache

end MessageSelector
