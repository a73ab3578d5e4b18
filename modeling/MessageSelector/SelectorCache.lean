import MessageSelector.Interner
import MessageSelector.Selector

/-! Selectors kept under their texts, so that a text is read once as long as it is kept. -/

namespace MessageSelector

variable [Regex.Engine]

/-- The selectors that are kept, and the number of all that were ever made. -/
structure SelectorCache where
  selectors : Std.HashMap String (Shared Selector)
  -- Numbers are not given twice, so an instance that is gone cannot come back.
  made : Nat

namespace SelectorCache

/-- The cache that keeps nothing yet. -/
def empty : SelectorCache :=
  ⟨∅, 0⟩

/-- The number of selectors that are kept. -/
def size (cache : SelectorCache) : Nat :=
  cache.selectors.size

/-- No selector is kept. -/
def isEmpty (cache : SelectorCache) : Bool :=
  cache.selectors.isEmpty

/-- The selector that is kept under a text. -/
def get? (cache : SelectorCache) (text : String) : Option (Shared Selector) :=
  cache.selectors[text]?

/-- The selector that is kept under a text, after reading it if there is none; no fault is kept. -/
def getOrRead (cache : SelectorCache) (text : String) :
    Except SyntaxError (Shared Selector) × SelectorCache :=
  match cache.get? text with
  | some shared => (.ok shared, cache)
  | none =>
    match Selector.ofText text with
    | .error error => (.error error, cache)
    | .ok selector =>
      -- The serial outlives a removal, so that a selector read again is a new instance.
      let shared := ⟨cache.made, selector⟩
      (.ok shared, ⟨cache.selectors.insert text shared, cache.made + 1⟩)

/-- Takes the selector of a text out of the cache. -/
def remove (cache : SelectorCache) (text : String) : Option (Shared Selector) × SelectorCache :=
  (cache.get? text, { cache with selectors := cache.selectors.erase text })

/-- Takes every selector out of the cache. -/
def clear (cache : SelectorCache) : SelectorCache :=
  { cache with selectors := ∅ }

/-- The outcome of the selector of a text, which is kept. -/
def truth (cache : SelectorCache) (text : String) (mapping : Mapping) :
    Except SyntaxError Truth × SelectorCache :=
  -- The selector is kept as by any other use of it.
  let (result, cache) := cache.getOrRead text
  (result.map fun shared => shared.value.truth mapping, cache)

end SelectorCache

end MessageSelector
