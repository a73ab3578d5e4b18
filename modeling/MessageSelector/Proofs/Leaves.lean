import MessageSelector.Leaves
import MessageSelector.Proofs.Interner

/-! Runs of requests for leaves: what a request is handed does not tell what was asked for before,
except for the instances that are shared. -/

namespace MessageSelector

namespace Interner

variable {ε α : Type} {interner : Interner α} {make : String → Except ε α} {key other : String}
  {shared : Shared α} {build : Unit → Except ε α} {serial : Nat}

/-- The serial of the instance that is kept for a key. -/
def serial? (interner : Interner α) (key : String) : Option Nat :=
  interner.instances[key]?.map Shared.serial

/-- A request leaves the instances of all keys as they are. -/
theorem serial?_intern_of_some (kept : interner.serial? other = some serial) :
    (interner.intern key build).2.serial? other = some serial := by
  -- An instance that is kept stays under its key.
  obtain ⟨shared, found, rfl⟩ := Option.map_eq_some_iff.1 kept
  rw [serial?, found_intern_iff.2 (.inl found), Option.map_some]

/-- The instance that a request is handed is kept for its key. -/
theorem serial?_intern_of_ok (handed : (interner.intern key build).1.result = .ok shared) :
    (interner.intern key build).2.serial? key = some shared.serial := by
  -- What is handed out is found afterwards, and found with its serial number.
  rw [serial?, found_intern_iff.2 (.inr ⟨rfl, handed⟩), Option.map_some]

/-- The table keeps for each key what is made of this key. -/
structure Makes (interner : Interner α) (make : String → Except ε α) : Prop where
  -- An instance is what the maker makes of its key, whenever it was entered.
  numbered : Numbered interner.instances interner.size
  value : ∀ {key : String} {shared : Shared α}, interner.instances[key]? = some shared →
    make key = .ok shared.value

namespace Makes

/-- A table that keeps nothing keeps nothing else. -/
theorem empty : (Interner.empty : Interner α).Makes make where
  numbered := .empty
  value found := by simp [Interner.empty] at found

/-- A request comes to what is made of its key, also when it is handed what is kept. -/
theorem result_intern (makes : interner.Makes make) (key : String) :
    (interner.intern key fun _ => make key).1.result.map Shared.value = make key := by
  -- A kept instance was made from the same key, so it equals a new one.
  rcases interner.intern_cases key fun _ => make key with
    ⟨kept, found, same⟩ | ⟨-, ⟨error, made, same⟩ | ⟨value, made, same⟩⟩ <;> rw [same]
  · exact (makes.value found).symm
  · exact made.symm
  · exact made.symm

/-- A request adds what is made of its key, or nothing. -/
theorem intern (makes : interner.Makes make) (key : String) :
    (interner.intern key fun _ => make key).2.Makes make where
  numbered := numbered_intern makes.numbered
  value found := by
    -- An instance was there before or has just been made from its key.
    rcases found_intern_iff.1 found with before | ⟨rfl, handed⟩
    · exact makes.value before
    · rw [← makes.result_intern, handed]
      rfl

/-- Keys with the same instance are one key. -/
theorem key_eq (makes : interner.Makes make) (kept : interner.serial? key = some serial)
    (keptToo : interner.serial? other = some serial) : key = other := by
  -- Serial numbers are given out once, so they determine the key.
  obtain ⟨shared, found, rfl⟩ := Option.map_eq_some_iff.1 kept
  obtain ⟨again, foundToo, same⟩ := Option.map_eq_some_iff.1 keptToo
  exact makes.numbered.key_eq found foundToo same.symm

end Makes

end Interner

/-- A request for a leaf: where the leaf comes from, and the text that it is made of. -/
structure LeafRequest where
  -- The source tells which table is asked, and strings have none.
  source : LeafSource
  text : String
deriving DecidableEq

/-- The same instance, seen as another type of leaf. -/
def Leaf.map {α β : Type} (view : α → β) (leaf : Leaf α) : Leaf β :=
  ⟨leaf.source, leaf.shared.serial, view leaf.value⟩

namespace Leaves

/-- What a request for a leaf comes to, as a leaf or an error of any kind. -/
def viewed {ε δ α β : Type} (leaf : α → β) (error : ε → δ) (served : Except ε (Leaf α) × Leaves) :
    Except δ (Leaf β) × Leaves :=
  -- Only the outcome is seen through the maps; the tables are passed on.
  ((served.1.map (Leaf.map leaf)).mapError error, served.2)

/-- What a request comes to, and the leaves that have been handed out by then. -/
def serve (leaves : Leaves) (request : LeafRequest) :
    Except (IdentifierError ⊕ LiteralError) (Leaf (Identifier ⊕ Literal)) × Leaves :=
  -- Strings always succeed, so there is no error to be mapped.
  match request.source with
  | .identifiers => viewed .inl .inl (leaves.identifier request.text)
  | .booleans => viewed .inr .inr (leaves.boolean request.text)
  | .longs => viewed .inr .inr (leaves.long request.text)
  | .doubles => viewed .inr .inr (leaves.double request.text)
  | .strings =>
    let (leaf, leaves) := leaves.string request.text
    (.ok (leaf.map .inr), leaves)

/-- The leaves that have been handed out after requests, of which there were none before. -/
def after (requests : List LeafRequest) : Leaves :=
  requests.foldl (fun leaves request => (leaves.serve request).2) empty

section

variable (leaves : Leaves) (text : String)

/-- A request for an identifier is one to the table of identifiers. -/
theorem serve_identifiers :
    leaves.serve ⟨.identifiers, text⟩ =
      viewed .inl .inl
        (handedOut .identifiers (leaves.identifiers.intern text fun _ => Identifier.ofName text).1,
          { leaves with
            identifiers := (leaves.identifiers.intern text fun _ => Identifier.ofName text).2 }) :=
  -- The request goes to its own table, and the other ones stay as they are.
  rfl

/-- A request for a boolean literal is one to the table of these. -/
theorem serve_booleans :
    leaves.serve ⟨.booleans, text⟩ =
      viewed .inr .inr
        (handedOut .booleans (leaves.booleans.intern text fun _ => Literal.ofBoolean text).1,
          { leaves with
            booleans := (leaves.booleans.intern text fun _ => Literal.ofBoolean text).2 }) :=
  -- Literals have a table for each of their sources, this one for booleans.
  rfl

/-- A request for an integer literal is one to the table of these. -/
theorem serve_longs :
    leaves.serve ⟨.longs, text⟩ =
      viewed .inr .inr
        (handedOut .longs (leaves.longs.intern text fun _ => Literal.ofLong text).1,
          { leaves with longs := (leaves.longs.intern text fun _ => Literal.ofLong text).2 }) :=
  -- The texts of long integers are kept as written, so two spellings are two keys.
  rfl

/-- A request for a float literal is one to the table of these. -/
theorem serve_doubles :
    leaves.serve ⟨.doubles, text⟩ =
      viewed .inr .inr
        (handedOut .doubles (leaves.doubles.intern text fun _ => Literal.ofDouble text).1,
          { leaves with
            doubles := (leaves.doubles.intern text fun _ => Literal.ofDouble text).2 }) :=
  -- The texts of doubles are kept as written, so two spellings are two keys.
  rfl

/-- A request for a string makes a new one. -/
theorem serve_strings :
    leaves.serve ⟨.strings, text⟩ =
      (.ok ⟨.strings, leaves.strings, .inr (.string text)⟩,
        { leaves with strings := leaves.strings + 1 }) :=
  -- A string is not kept, so it is numbered by a counter of its own.
  rfl

end

section Viewed

variable {ε δ α β : Type} {view : α → β} {viewError : ε → δ} {source : LeafSource}
  {table : Interner α} {make : String → Except ε α} {text : String} {leaves : Leaves}

/-- A request to a table comes to what is made of its text. -/
theorem value_viewed (makes : table.Makes make) :
    (viewed view viewError
        (handedOut source (table.intern text fun _ => make text).1, leaves)).1.map Leaf.value =
      ((make text).map view).mapError viewError := by
  have made := makes.result_intern text
  rw [viewed, handedOut]
  -- Apart from the serial number, the table hands out what the maker makes.
  generalize (table.intern text fun _ => make text).1 = handout at made ⊢
  rw [← made]
  cases handout.result <;> rfl

/-- A leaf from a table is told apart by the table and by its serial there, under which the table
keeps it for the text. -/
theorem instanceKey_viewed {leaf : Leaf β}
    (handed : (viewed view viewError
      (handedOut source (table.intern text fun _ => make text).1, leaves)).1 = .ok leaf) :
    leaf.instanceKey.1 = source ∧
      (table.intern text fun _ => make text).2.serial? text = some leaf.instanceKey.2 := by
  rw [viewed, handedOut] at handed
  -- An error hands out no leaf, so the instance is one the table keeps.
  cases result : (table.intern text fun _ => make text).1.result with
  | error error =>
    rw [result] at handed
    cases handed
  | ok shared =>
    rw [result] at handed
    cases handed
    exact ⟨rfl, Interner.serial?_intern_of_ok result⟩

end Viewed

/-- Each table keeps what the texts of its requests are made into. -/
structure Faithful (leaves : Leaves) : Prop where
  -- Strings are kept in no table, so there is nothing to ask of them.
  identifiers : leaves.identifiers.Makes Identifier.ofName
  booleans : leaves.booleans.Makes Literal.ofBoolean
  longs : leaves.longs.Makes Literal.ofLong
  doubles : leaves.doubles.Makes Literal.ofDouble

variable {leaves : Leaves} {request other : LeafRequest} {serial : Nat}
  {leaf : Leaf (Identifier ⊕ Literal)}

/-- Before any request the tables keep nothing else. -/
theorem faithful_empty : empty.Faithful where
  identifiers := .empty
  booleans := .empty
  longs := .empty
  doubles := .empty

/-- A request adds to one of the tables what its text is made into, or nothing. -/
theorem Faithful.serve (faithful : leaves.Faithful) (request : LeafRequest) :
    (leaves.serve request).2.Faithful := by
  obtain ⟨source, text⟩ := request
  -- Each request changes one table at most, so the facts about the others carry over.
  cases source with
  | identifiers =>
    rw [serve_identifiers]
    exact { faithful with identifiers := faithful.identifiers.intern text }
  | booleans =>
    rw [serve_booleans]
    exact { faithful with booleans := faithful.booleans.intern text }
  | longs =>
    rw [serve_longs]
    exact { faithful with longs := faithful.longs.intern text }
  | doubles =>
    rw [serve_doubles]
    exact { faithful with doubles := faithful.doubles.intern text }
  | strings => exact { faithful with }

/-- A request comes to the same with any leaves, except for the instance that it is handed. -/
theorem value_serve {others : Leaves} (faithful : leaves.Faithful) (faithfulToo : others.Faithful)
    (request : LeafRequest) :
    (leaves.serve request).1.map Leaf.value = (others.serve request).1.map Leaf.value := by
  obtain ⟨source, text⟩ := request
  -- Both tables hand out what the maker makes, whatever was asked of them before.
  cases source with
  | identifiers =>
    simp only [serve_identifiers, value_viewed faithful.identifiers,
      value_viewed faithfulToo.identifiers]
  | booleans =>
    simp only [serve_booleans, value_viewed faithful.booleans, value_viewed faithfulToo.booleans]
  | longs => simp only [serve_longs, value_viewed faithful.longs, value_viewed faithfulToo.longs]
  | doubles =>
    simp only [serve_doubles, value_viewed faithful.doubles, value_viewed faithfulToo.doubles]
  | strings => rfl

/-- The serial of the instance that is kept for a request, if it is for a leaf that is shared. -/
def serial? (leaves : Leaves) : LeafRequest → Option Nat
  -- Strings are not kept, so none has a serial number to be found again.
  | ⟨.identifiers, name⟩ => leaves.identifiers.serial? name
  | ⟨.booleans, text⟩ => leaves.booleans.serial? text
  | ⟨.longs, text⟩ => leaves.longs.serial? text
  | ⟨.doubles, text⟩ => leaves.doubles.serial? text
  | ⟨.strings, _⟩ => none

/-- A leaf comes from where it was asked for, and is kept for its request if it is shared. -/
theorem instanceKey_serve (handed : (leaves.serve request).1 = .ok leaf) :
    leaf.instanceKey.1 = request.source ∧
      (request.source ≠ .strings →
        (leaves.serve request).2.serial? request = some leaf.instanceKey.2) := by
  obtain ⟨source, text⟩ := request
  -- The four tables answer alike, and a string is never kept.
  cases source with
  | identifiers =>
    rw [serve_identifiers] at handed ⊢
    exact (instanceKey_viewed handed).imp_right fun kept _ => kept
  | booleans =>
    rw [serve_booleans] at handed ⊢
    exact (instanceKey_viewed handed).imp_right fun kept _ => kept
  | longs =>
    rw [serve_longs] at handed ⊢
    exact (instanceKey_viewed handed).imp_right fun kept _ => kept
  | doubles =>
    rw [serve_doubles] at handed ⊢
    exact (instanceKey_viewed handed).imp_right fun kept _ => kept
  | strings =>
    cases handed
    exact ⟨rfl, fun isShared => absurd rfl isShared⟩

/-- A request leaves the instances that are kept for all others as they are. -/
theorem serial?_serve_of_some (kept : leaves.serial? other = some serial) (request : LeafRequest) :
    (leaves.serve request).2.serial? other = some serial := by
  obtain ⟨source, text⟩ := request
  obtain ⟨otherSource, otherText⟩ := other
  -- Only requests of one source look at the same table.
  cases source with
  | identifiers =>
    rw [serve_identifiers]
    cases otherSource with
    | identifiers => exact Interner.serial?_intern_of_some kept
    | _ => exact kept
  | booleans =>
    rw [serve_booleans]
    cases otherSource with
    | booleans => exact Interner.serial?_intern_of_some kept
    | _ => exact kept
  | longs =>
    rw [serve_longs]
    cases otherSource with
    | longs => exact Interner.serial?_intern_of_some kept
    | _ => exact kept
  | doubles =>
    rw [serve_doubles]
    cases otherSource with
    | doubles => exact Interner.serial?_intern_of_some kept
    | _ => exact kept
  | strings =>
    rw [serve_strings]
    cases otherSource <;> exact kept

/-- Requests of one source for which the same instance is kept are one request. -/
theorem Faithful.request_eq (faithful : leaves.Faithful)
    (kept : leaves.serial? request = some serial) (keptToo : leaves.serial? other = some serial)
    (same : request.source = other.source) : request = other := by
  obtain ⟨source, text⟩ := request
  obtain ⟨otherSource, otherText⟩ := other
  obtain rfl : source = otherSource := same
  refine congrArg (LeafRequest.mk source) ?_
  -- Within one source the serial number determines the text.
  cases source with
  | identifiers => exact faithful.identifiers.key_eq kept keptToo
  | booleans => exact faithful.booleans.key_eq kept keptToo
  | longs => exact faithful.longs.key_eq kept keptToo
  | doubles => exact faithful.doubles.key_eq kept keptToo
  | strings => cases kept

/-- A string has the number of the strings before it as its serial. -/
theorem instanceKey_string (isString : request.source = .strings)
    (handed : (leaves.serve request).1 = .ok leaf) :
    leaf.instanceKey.2 = leaves.strings ∧
      (leaves.serve request).2.strings = leaves.strings + 1 := by
  -- A string takes the current count as its number.
  obtain ⟨source, text⟩ := request
  obtain rfl : source = .strings := isString
  cases handed
  exact ⟨rfl, rfl⟩

/-- The number of strings never becomes smaller. -/
theorem strings_le_serve (leaves : Leaves) (request : LeafRequest) :
    leaves.strings ≤ (leaves.serve request).2.strings := by
  -- Only a request for a string moves the counter.
  obtain ⟨source, text⟩ := request
  cases source with
  | strings => exact Nat.le_succ _
  | _ => exact Nat.le_refl _

/-- What a run of requests has led to is what later ones start from. -/
theorem after_append (history later : List LeafRequest) :
    after (history ++ later) =
      later.foldl (fun leaves request => (leaves.serve request).2) (after history) := by
  -- A run is a fold over its requests.
  rw [after, List.foldl_append, after]

@[simp] theorem after_concat (history : List LeafRequest) (request : LeafRequest) :
    after (history ++ [request]) = ((after history).serve request).2 :=
  -- The last request is served after all others.
  after_append history [request]

/-- After any requests each table keeps what the texts of its requests are made into. -/
theorem faithful_after (history : List LeafRequest) : (after history).Faithful :=
  List.foldlRecOn history _ faithful_empty fun _ faithful request _ => faithful.serve request

section

variable {history : List LeafRequest}

/-- An instance is kept for its request over any run of others. -/
theorem serial?_after_append (kept : (after history).serial? request = some serial)
    (later : List LeafRequest) : (after (history ++ later)).serial? request = some serial := by
  -- No request removes or renumbers an instance, so the invariant is that it is kept.
  rw [after_append]
  exact List.foldlRecOn (motive := fun leaves : Leaves => leaves.serial? request = some serial)
    later _ kept fun _ kept other _ => serial?_serve_of_some kept other

/-- Over any run of requests the strings become no fewer. -/
theorem strings_le_after_append (history later : List LeafRequest) :
    (after history).strings ≤ (after (history ++ later)).strings := by
  -- No request moves the counter back.
  rw [after_append]
  exact List.foldlRecOn
    (motive := fun leaves : Leaves => (after history).strings ≤ leaves.strings) later _
    (Nat.le_refl _) fun leaves kept other _ => kept.trans (leaves.strings_le_serve other)

end

/-- Whatever has been asked for before, a request comes to what it comes to on its own, be it a leaf
or an error. Two requests are handed the same instance exactly if they ask the same source, which is
not that of the strings, for a leaf of exactly the same text. -/
theorem serve_after (history : List LeafRequest) :
    (∀ request : LeafRequest,
      ((after history).serve request).1.map Leaf.value =
        (empty.serve request).1.map Leaf.value) ∧
    ∀ (first last : LeafRequest) (between : List LeafRequest)
      (leaf again : Leaf (Identifier ⊕ Literal)),
      ((after history).serve first).1 = .ok leaf →
      ((after (history ++ first :: between)).serve last).1 = .ok again →
      (leaf.instanceKey = again.instanceKey ↔ first = last ∧ first.source ≠ .strings) := by
  refine ⟨value_serve (faithful_after history) faithful_empty, ?_⟩
  intro first last between leaf again handed handedAgain
  obtain ⟨source, kept⟩ := instanceKey_serve handed
  obtain ⟨sourceAgain, keptAgain⟩ := instanceKey_serve handedAgain
  rw [← after_concat] at kept keptAgain
  -- What is kept for the first request is still there after the last one.
  have split : history ++ first :: between = (history ++ [first]) ++ between := by simp
  have still (isShared : first.source ≠ .strings) :
      (after (history ++ first :: between ++ [last])).serial? first = some leaf.instanceKey.2 := by
    rw [split, List.append_assoc]
    exact serial?_after_append (kept isShared) _
  constructor
  · intro same
    have sources : first.source = last.source := by rw [← source, ← sourceAgain, same]
    by_cases isString : first.source = .strings
    · -- A later string has a larger serial.
      obtain ⟨serial, next⟩ := instanceKey_string isString handed
      obtain ⟨serialAgain, -⟩ := instanceKey_string (sources ▸ isString) handedAgain
      have more := strings_le_after_append (history ++ [first]) between
      rw [← split, after_concat, next, ← serial, ← serialAgain, same] at more
      omega
    · have keptLast := keptAgain (sources ▸ isString)
      rw [← same] at keptLast
      exact ⟨(faithful_after _).request_eq (still isString) keptLast sources, isString⟩
  · rintro ⟨rfl, isShared⟩
    have serials := (still isShared).symm.trans (keptAgain isShared)
    exact Prod.ext (source.trans sourceAgain.symm) (Option.some.inj serials)

/-- After a refusal `true` and `TRUE` are the same literal in two instances, the first of which is
handed out again. -/
theorem serve_after_true :
    let history : List LeafRequest := [⟨.booleans, "maybe"⟩]
    let lower : LeafRequest := ⟨.booleans, "true"⟩
    let upper : LeafRequest := ⟨.booleans, "TRUE"⟩
    ∃ leaf other again : Leaf (Identifier ⊕ Literal),
      ((after history).serve lower).1 = .ok leaf ∧
      ((after (history ++ [lower])).serve upper).1 = .ok other ∧
      ((after (history ++ [lower, upper])).serve lower).1 = .ok again ∧
      leaf.value = other.value ∧ leaf.instanceKey ≠ other.instanceKey ∧
      leaf.instanceKey = again.instanceKey := by
  intro history lower upper
  -- The two spellings of one boolean are two instances with equal values.
  have refused : Literal.ofBoolean "maybe" = .error ⟨.boolean, "maybe"⟩ := by decide
  have readLower : Literal.ofBoolean "true" = .ok (.boolean true) := by decide
  have readUpper : Literal.ofBoolean "TRUE" = .ok (.boolean true) := by decide
  have handed : ((after history).serve lower).1 = .ok ⟨.booleans, 0, .inr (.boolean true)⟩ := by
    simp [history, lower, after, empty, serve_booleans, viewed, handedOut, Leaf.map, Leaf.value,
      Interner.intern, Interner.empty, Interner.size, Except.map, Except.mapError, refused,
      readLower]
  have handedOther : ((after (history ++ [lower])).serve upper).1 =
      .ok ⟨.booleans, 1, .inr (.boolean true)⟩ := by
    simp [history, lower, upper, after, empty, serve_booleans, viewed, handedOut, Leaf.map,
      Leaf.value, Interner.intern, Interner.empty, Interner.size, Std.HashMap.size_insert,
      Except.map, Except.mapError, refused, readLower, readUpper]
  have handedAgain : ((after (history ++ [lower, upper])).serve lower).1 =
      .ok ⟨.booleans, 0, .inr (.boolean true)⟩ := by
    simp [history, lower, upper, after, empty, serve_booleans, viewed, handedOut, Leaf.map,
      Leaf.value, Interner.intern, Interner.empty, Interner.size, Std.HashMap.size_insert,
      Std.HashMap.getElem_insert, Except.map, Except.mapError, refused, readLower, readUpper]
  obtain ⟨-, shared⟩ := serve_after history
  have apart := shared lower upper [] _ _ handed handedOther
  have same := shared lower lower [upper] _ _ handed handedAgain
  exact ⟨_, _, _, handed, handedOther, handedAgain, rfl,
    fun keys => absurd (apart.1 keys).1 (by decide), same.2 ⟨rfl, by decide⟩⟩

end Leaves

end MessageSelector
