import MessageSelector.Decimal.Integer
import MessageSelector.Decimal.Shortest

/-! Numbers of six widths, which are all compared and combined as 64-bit floats. -/

namespace MessageSelector

/-- A number together with the width it is stored in. -/
inductive Number where
  | byte (value : Int8)
  | short (value : Int16)
  | int (value : Int32)
  | long (value : Int64)
  | float (value : Float32)
  | double (value : Float)
deriving DecidableEq

namespace Number

/-- The 64-bit float nearest to the number; only a long can be too wide for one. -/
def toDouble : Number → Float
  -- Integers of up to 64 bits may lose their last digits, and the others lose nothing.
  | byte value => Float.ofInt value.toInt
  | short value => Float.ofInt value.toInt
  | int value => Float.ofInt value.toInt
  | long value => Float.ofInt value.toInt
  | float value => value.toFloat
  | double value => value

/-- The number in decimal, a float with the fewest digits that read back in its own width. -/
def text : Number → String
  -- Integers of every width are written alike, so the width is not seen in the text.
  | byte value => String.ofList (writeInteger value.toInt)
  | short value => String.ofList (writeInteger value.toInt)
  | int value => String.ofList (writeInteger value.toInt)
  | long value => String.ofList (writeInteger value.toInt)
  | float value => String.ofList (FloatFormat.single.shapeOf value.toBits.toNat).write
  | double value => String.ofList (FloatFormat.double.shapeOf value.toBits.toNat).write

/-- Equal numbers of one width; floats are equal as numbers are, so not-a-number equals nothing. -/
def sameAs : Number → Number → Bool
  -- Numbers of two widths are never the same, also where their values agree.
  | byte left, byte right => left == right
  | short left, short right => left == right
  | int left, int right => left == right
  | long left, long right => left == right
  | float left, float right => left == right
  | double left, double right => left == right
  | _, _ => false

end Number

end MessageSelector
