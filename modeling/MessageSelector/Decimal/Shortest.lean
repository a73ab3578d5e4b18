/-! Binary floats written with the fewest decimal digits that read back as the same float. -/

namespace MessageSelector

/-- A binary float format: the widths in bits of its stored fraction and of its exponent field. -/
structure FloatFormat where
  -- The bits behind the leading one, which is not stored.
  fractionBits : Nat
  exponentBits : Nat

/-- The format of 64-bit floats. -/
def FloatFormat.double : FloatFormat := ⟨52, 11⟩

/-- The format of 32-bit floats. -/
def FloatFormat.single : FloatFormat := ⟨23, 8⟩

/-- The size of a finite float, `mantissa` times two to the power `exponent`. -/
structure BinarySize where
  mantissa : Nat
  exponent : Int
  /-- The next smaller float is only half as far away as the next larger one. -/
  narrowBelow : Bool

/-- What the bits of a float stand for. -/
inductive FloatShape where
  | nan
  | infinite (negative : Bool)
  -- A zero is finite with no mantissa, and it has a sign as well.
  | finite (negative : Bool) (size : BinarySize)

/-- Takes the bits of a float apart into its sign, its exponent field and its stored fraction. -/
def FloatFormat.shapeOf (format : FloatFormat) (bits : Nat) : FloatShape :=
  let fractions := Nat.pow 2 format.fractionBits
  let fields := Nat.pow 2 format.exponentBits
  let fraction := bits % fractions
  let field := bits / fractions % fields
  let negative := decide (bits / fractions / fields % 2 = 1)
  -- A field of zero and a field of one share the smallest exponent.
  let exponent : Int := (max field 1 : Nat) + 1 - (fields / 2 : Nat) - format.fractionBits
  if field = fields - 1 then
    if fraction = 0 then .infinite negative else .nan
  else
    .finite negative
      { mantissa := if field = 0 then fraction else fractions + fraction
        exponent
        narrowBelow := decide (fraction = 0 ∧ 1 < field) }

/-- The integer `digits` times ten to the power `exponent`. -/
structure Scaled where
  digits : Nat
  exponent : Int
deriving DecidableEq, Repr

/-- A size and the bounds of the numbers that round to it, as multiples of one over `unit`. -/
structure RoundingRange where
  low : Nat
  size : Nat
  high : Nat
  unit : Nat
  /-- The bounds themselves round to the size. -/
  closed : Bool

/-- The bounds lie halfway to the neighbouring floats, and round to an even mantissa. -/
def BinarySize.roundingRange (number : BinarySize) : RoundingRange :=
  -- Quarters of the last mantissa bit make every bound an integer.
  let scale := Nat.pow 2 (number.exponent - 2).toNat
  { low := (4 * number.mantissa - if number.narrowBelow then 1 else 2) * scale
    size := 4 * number.mantissa * scale
    high := (4 * number.mantissa + 2) * scale
    unit := Nat.pow 2 (2 - number.exponent).toNat
    closed := decide (number.mantissa % 2 = 0) }

/-- A number, given as a multiple of one over `unit`, that rounds to the size. -/
def RoundingRange.holds (range : RoundingRange) (number : Nat) : Bool :=
  -- The bounds lie halfway to the neighbours, so they count only if ties go to this size.
  if range.closed then decide (range.low ≤ number ∧ number ≤ range.high)
  else decide (range.low < number ∧ number < range.high)

/-- The range in units that are ten to the power `places` times as fine. -/
def RoundingRange.finer (range : RoundingRange) (places : Nat) : RoundingRange :=
  -- All of them are multiplied alike, so nothing is rounded here.
  { range with
    low := range.low * Nat.pow 10 places
    size := range.size * Nat.pow 10 places
    high := range.high * Nat.pow 10 places }

/-- The multiple of `cell` in the range that is nearest to the size, the larger one in a tie. -/
def RoundingRange.nearestMultiple? (range : RoundingRange) (cell : Nat) : Option Nat :=
  let below := range.size / cell
  let above := below + 1
  -- If both neighbours are in the range the nearer one is taken, and the upper one of a tie.
  match range.holds (below * cell), range.holds (above * cell) with
  | true, true =>
    some (if range.size - below * cell < above * cell - range.size then below else above)
  | true, false => some below
  | false, true => some above
  | false, false => none

/-- The multiple of ten to the power `exponent` in the range that is nearest to the size. -/
def RoundingRange.onGrid? (range : RoundingRange) (exponent : Int) : Option Scaled :=
  -- A grid finer than one is a grid of units once the range is written in finer units.
  let cell := range.unit * Nat.pow 10 exponent.toNat
  ((range.finer (-exponent).toNat).nearestMultiple? cell).map fun digits => { digits, exponent }

/-- The size in full: a power of two below one is a power of five over a power of ten. -/
def BinarySize.exact (number : BinarySize) : Scaled :=
  -- A negative power of two is a power of five behind as many decimal places.
  let places := (-number.exponent).toNat
  { digits := number.mantissa * Nat.pow 2 number.exponent.toNat * Nat.pow 5 places
    exponent := -places }

/-- The fewest digits that read back: the nearest multiple on the coarsest grid that has one. -/
def BinarySize.shortest (number : BinarySize) : Scaled :=
  let range := number.roundingRange
  -- The bound above the size has this many digits before the point, so no coarser grid can do.
  let top := (Nat.toDigits 10 (range.high / range.unit)).length
  let grids := (List.range (top + (-number.exponent).toNat + 1)).map fun (step : Nat) =>
    (top : Int) - step
  (grids.findSome? range.onGrid?).getD number.exact

/-- The number in digits with a point where a fraction begins, and never with an exponent. -/
def Scaled.writePositional (number : Scaled) : List Char :=
  let digits := Nat.toDigits 10 number.digits
  let places := (-number.exponent).toNat
  if places = 0 then digits ++ List.replicate number.exponent.toNat '0'
  else
    -- A number below one still has a zero before its point.
    let padded := List.replicate (places + 1 - digits.length) '0' ++ digits
    padded.take (padded.length - places) ++ '.' :: padded.drop (padded.length - places)

/-- The shortest text that reads back, always positional: no exponent and no empty fraction. -/
def FloatShape.write : FloatShape → List Char
  | .nan => ['N', 'a', 'N']
  | .infinite negative => (if negative then ['-'] else []) ++ ['i', 'n', 'f']
  | .finite negative size =>
    (if negative then ['-'] else []) ++
      -- Zero has no leading digit for the general case to begin with.
      if size.mantissa = 0 then ['0'] else size.shortest.writePositional

end MessageSelector
