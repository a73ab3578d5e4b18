import Mathlib.Data.List.DropRight
import MessageSelector.Proofs.Token.Numeral
import MessageSelector.Text.Blank

/-! Trimming: what is left of a text without the blanks at its two ends. -/

namespace MessageSelector

/-- The text begins with no blank and ends with none. -/
def IsTrimmed (text : List Char) : Prop :=
  text.head?.any isBlank = false ∧ text.getLast?.any isBlank = false

/-- A trimmed text is left when the blanks around it are trimmed off. -/
theorem trimBlanks_append {front middle back : List Char} (trimmed : IsTrimmed middle)
    (blankFront : front.all isBlank = true) (blankBack : back.all isBlank = true) :
    trimBlanks (front ++ middle ++ back) = middle := by
  obtain ⟨first, last⟩ := trimmed
  cases middle with
  | nil =>
    -- Nothing but blanks is there, and the first round takes all of them.
    have skipped : skipBlanks (front ++ [] ++ back) = [] :=
      List.dropWhile_eq_nil_iff.2 (List.all_eq_true.1 (by simp [blankFront, blankBack]))
    rw [trimBlanks, skipped]
    rfl
  | cons c rest =>
    have skipped : skipBlanks (front ++ (c :: rest) ++ back) = c :: rest ++ back := by
      rw [List.append_assoc]
      exact dropWhile_append_of_stop blankFront first
    -- Seen from the end the blanks there come first.
    have ending : skipBlanks (c :: rest ++ back).reverse = (c :: rest).reverse := by
      rw [List.reverse_append]
      exact dropWhile_append_of_stop (by rwa [List.all_reverse]) (by rwa [List.head?_reverse])
    rw [trimBlanks, skipped, ending, List.reverse_reverse]

/-- A trimmed text stays as it is. -/
theorem trimBlanks_of_isTrimmed {text : List Char} (trimmed : IsTrimmed text) :
    trimBlanks text = text := by
  -- Nothing blank stands on either side, so nothing is dropped.
  have blank : ([] : List Char).all isBlank = true := rfl
  simpa using trimBlanks_append trimmed blank blank

/-- A text without blanks is trimmed. -/
theorem isTrimmed_of_no_blank {text : List Char} (visible : ∀ c ∈ text, isBlank c = false) :
    IsTrimmed text := by
  -- Either end of the text is one of its characters, or there is none.
  have edge (c? : Option Char) (held : ∀ c ∈ c?, c ∈ text) : c?.any isBlank = false := by
    cases c? with
    | none => rfl
    | some c => exact visible c (held c rfl)
  exact ⟨edge _ fun c => List.mem_of_head?, edge _ fun c => List.mem_of_getLast?⟩

end MessageSelector
