import AbiBridge.Word

/-!
# Values in bytes

How numbers and arrays of them lie in memory: little-endian, signed numbers in two's
complement, the elements of an array one after the other.
-/

namespace AbiBridge

/-- A type of values of a fixed size. -/
inductive DataType where
  /-- An integer of the given number of bytes. -/
  | integer (signed : Bool) (size : Nat)
  | float32
  | float64
  | array (element : DataType) (length : Nat)
  deriving DecidableEq, Repr

/-- A value. Floats are told by their bits. -/
inductive DataValue where
  | integer (n : Int)
  | float32 (bits : Nat)
  | float64 (bits : Nat)
  | array (elements : List DataValue)
  deriving Inhabited

/-- The number of some bytes, the lowest first. -/
def littleEndian : List UInt8 → Nat
  | [] => 0
  | byte :: bytes => byte.toNat + 256 * littleEndian bytes

/-- The pieces of `size` elements at the start of a list. -/
def pieces {α : Type} (size : Nat) : Nat → List α → List (List α)
  | 0, _ => []
  | count + 1, items => items.take size :: pieces size count (items.drop size)

namespace DataType

def size : DataType → Nat
  | integer _ size => size
  | float32 => 4
  | float64 => 8
  | array element length => element.size * length

def read : DataType → List UInt8 → DataValue
  | integer signed size, bytes =>
    let n := littleEndian (bytes.take size)
    .integer (if signed then Word.wrap (8 * size) n else n)
  | float32, bytes => .float32 (littleEndian (bytes.take 4))
  | float64, bytes => .float64 (littleEndian (bytes.take 8))
  | array element length, bytes => .array ((pieces element.size length bytes).map element.read)

end DataType

end AbiBridge
