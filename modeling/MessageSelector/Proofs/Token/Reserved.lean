import MessageSelector.Proofs.Leaves
import MessageSelector.Proofs.Text.Case
import MessageSelector.Proofs.Token.Spelling

/-! The words that are reserved are those that are read as keywords, so that the names that are read
in a text are names of identifiers. -/

namespace MessageSelector

/-- A word is reserved if it is one of the reserved words in lower case. -/
theorem isReserved_iff {word : String} :
    isReserved word = true ↔ ∃ reserved ∈ reservedWords, lowerCase word = lowerCase reserved := by
  -- Agreement without regard to case is equality in lower case by definition.
  simp only [isReserved, List.any_eq_true, agreeIgnoringCase, beq_iff_eq]

/-- The keyword of a word is written as the word in upper case. -/
theorem Keyword.text_of_ofText? {word : String} {keyword : Keyword}
    (found : ofText? word = some keyword) : keyword.text = upperCase word := by
  -- The table is searched for the upper-cased word.
  have same := List.find?_some found
  exact beq_iff_eq.1 same

/-- The name of an identifier is no reserved word in any case of its letters. -/
theorem Identifier.lowerCase_name_ne (identifier : Identifier) {reserved : String}
    (held : reserved ∈ reservedWords) : lowerCase identifier.name ≠ lowerCase reserved := by
  -- A name that agrees with a reserved word would be reserved itself.
  intro same
  have refused := isReserved_iff.2 ⟨reserved, held, same⟩
  rw [identifier.unreserved] at refused
  cases refused

/-- A request for an identifier comes to what is made of its name, whatever was asked for before. -/
theorem Leaves.value_identifier (requests : List LeafRequest) (name : String) :
    ((after requests).identifier name).1.map Leaf.value = Identifier.ofName name := by
  -- What the table keeps for a name is what would be made of the name now.
  have made := (faithful_after requests).identifiers.result_intern name
  show (handedOut .identifiers
    ((after requests).identifiers.intern name fun _ => Identifier.ofName name).1).map _ = _
  generalize ((after requests).identifiers.intern name fun _ => Identifier.ofName name).1 = handout
    at made ⊢
  rw [handedOut, ← made]
  cases handout.result <;> rfl

/-- The name of an identifier is accepted by every request for it. -/
theorem Leaves.exists_leaf_of_name (requests : List LeafRequest) (identifier : Identifier) :
    ∃ leaf, ((after requests).identifier identifier.name).1 = .ok leaf ∧
      leaf.value.name = identifier.name := by
  have made := value_identifier requests identifier.name
  rw [identifier.ofName_name] at made
  -- The maker accepts the name, whatever was requested before.
  cases handed : ((after requests).identifier identifier.name).1 with
  | error error =>
    rw [handed] at made
    cases made
  | ok leaf =>
    rw [handed] at made
    exact ⟨leaf, rfl, congrArg Identifier.name (Except.ok.inj made)⟩

/-- Where an identifier is read its name is that of an identifier. -/
theorem Cursor.exists_identifier_of_next {cursor : Cursor} {name : String} {offset : Nat}
    (read : cursor.next.1 = .ok ⟨.identifier name, offset⟩) :
    ∃ identifier : Identifier, identifier.name = name := by
  -- The token was spelled as a word that is no keyword.
  obtain ⟨spelling, spells⟩ := Cursor.exists_spells_of_next read nofun
  exact spells.exists_identifier

/-- A word is read as a keyword exactly if it is one of the reserved words in some case of the
letters A to Z, and the keyword is written as that word in upper case. So whatever is read as an
identifier in a text is handed out as an identifier, and no reserved word is read as one. -/
theorem keywords_are_reserved :
    (∀ word : String,
      ((Keyword.ofText? word).isSome = true ↔ isReserved word = true) ∧
        (isReserved word = true ↔
          ∃ reserved ∈ reservedWords, lowerCase word = lowerCase reserved)) ∧
    (∀ word keyword, Keyword.ofText? word = some keyword →
      Token.ofWord word = .keyword keyword ∧ (Token.keyword keyword).isKeyword = true ∧
        (Token.keyword keyword).description = upperCase word) ∧
    (∀ text lexemes, tokenize text = .ok lexemes → ∀ name, .identifier name ∈ tokensOf lexemes →
      ∀ requests, ∃ leaf, ((Leaves.after requests).identifier name).1 = .ok leaf ∧
        leaf.value.name = name) ∧
    ∀ (cursor : Cursor) (name : String) (offset : Nat),
      cursor.next.1 = .ok ⟨.identifier name, offset⟩ →
      ∀ reserved ∈ reservedWords, lowerCase name ≠ lowerCase reserved := by
  -- Keywords are found in upper case and reserved words in lower case, so the two tables are tied
  -- here.
  refine ⟨?words, ?keyword, ?identifier, ?free⟩
  case words =>
    intro word
    exact ⟨by rw [Keyword.isSome_ofText?], isReserved_iff⟩
  case keyword =>
    intro word keyword found
    refine ⟨?_, rfl, Keyword.text_of_ofText? found⟩
    rw [Token.ofWord, found]
  case identifier =>
    intro text lexemes read name held requests
    obtain ⟨identifier, rfl⟩ := (Cursor.lexed_of_lexemes read).exists_identifier held
    exact Leaves.exists_leaf_of_name requests identifier
  case free =>
    intro cursor name offset read reserved held
    obtain ⟨identifier, rfl⟩ := Cursor.exists_identifier_of_next read
    exact identifier.lowerCase_name_ne held

/-- The letters of `bEtWeEn` are those of a keyword, and `\u0131s` is a name, since only letters
from A to Z are the same in both cases. -/
theorem keywords_are_reserved_mixed :
    Keyword.ofText? "bEtWeEn" = some .between ∧ isReserved "bEtWeEn" = true ∧
      (Token.keyword .between).description = upperCase "bEtWeEn" ∧
      tokenize "\u0131s" = .ok [⟨.identifier "\u0131s", 0⟩, ⟨.endOfInput, 2⟩] ∧
      (∃ leaf, (Leaves.empty.identifier "\u0131s").1 = .ok leaf ∧
        leaf.value.name = "\u0131s") ∧
      lowerCase "\u0131s" ≠ lowerCase "IS" := by
  obtain ⟨words, keyword, identifier, free⟩ := keywords_are_reserved
  -- The dotless letter has no capital in ASCII, so the word is not the keyword it resembles.
  have found : Keyword.ofText? "bEtWeEn" = some .between := by decide
  have read : tokenize "\u0131s" = .ok [⟨.identifier "\u0131s", 0⟩, ⟨.endOfInput, 2⟩] :=
    Cursor.lexemes_eq_ok_iff.2 (.token rfl rfl (.done rfl))
  have next : (Cursor.start "\u0131s").next.1 = .ok ⟨.identifier "\u0131s", 0⟩ := rfl
  exact ⟨found, (words _).1.1 (by rw [found]; rfl), (keyword _ _ found).2.2, read,
    identifier _ _ read _ (by simp) [], free _ _ _ next "IS" (by decide)⟩

end MessageSelector
