import AbiBridge.CType.Primitive
import AbiBridge.Constant.Expression
import AbiBridge.Text.Search
import AbiBridge.Word

/-!
# Integer constants and enumerators

The literals by which the value of a constant or an enumerator is written in the
generated module.
-/

namespace AbiBridge.Constant

inductive IntegerLiteral where
  /-- All bits set, for -1 as an unsigned number. -/
  | allOnes
  | bool (b : Bool)
  | hex (n : Nat)
  | decimal (n : Int)
  deriving DecidableEq, Repr

def hexDigits (n : Nat) : List Char :=
  (Nat.toDigits 16 n).map Char.toUpper

def IntegerLiteral.text : IntegerLiteral → String
  | allOnes => "!0"
  | bool b => if b then "true" else "false"
  | hex n => "0x" ++ String.ofList (hexDigits n)
  | decimal n => toString n

def inBounds (p : Primitive) (n : Int) : Bool :=
  p.bounds.1 ≤ n && n ≤ p.bounds.2

def mentionsHex (raw : String) : Bool :=
  Text.occurs "0x" raw || Text.occurs "0X" raw

def literalOf? (p : Primitive) (hex : Bool) (n : Int) : Option IntegerLiteral :=
  if inBounds p n then
    if p = .bool then some (.bool (n != 0))
    else if hex ∧ 0 ≤ n then some (.hex n.toNat)
    else some (.decimal n)
  else if p.isUnsigned ∧ n = -1 then some .allOnes
  else none

/-- The literal of the given type for a C expression. What is written in
hexadecimal stays so. -/
def integerLiteral? (p : Primitive) (raw : String) : Option IntegerLiteral :=
  (integerOfText? raw).bind (literalOf? p (mentionsHex raw))

/-- The literal for an enumerator, which is a signed number of 32 bits. -/
inductive EnumeratorLiteral where
  | signed (n : Int)
  /-- A number that only fits 32 unsigned bits and wraps. -/
  | wrapped (n : Nat)
  deriving DecidableEq, Repr

def EnumeratorLiteral.text : EnumeratorLiteral → String
  | signed n => toString n
  | wrapped n => toString n ++ "_u32 as i32"

def EnumeratorLiteral.value : EnumeratorLiteral → Int
  | signed n => n
  | wrapped n => Word.wrap 32 n

/-- The literal for a value that fits 32 bits, signed or unsigned. -/
def enumeratorLiteral? (n : Int) : Option EnumeratorLiteral :=
  if Word.isSigned 32 n then some (.signed n)
  else if Word.isUnsigned 32 n then some (.wrapped n.toNat)
  else none

def enumValue? (enumName raw : String) : Option String :=
  ((integerOfText? raw).bind enumeratorLiteral?).map fun literal =>
    enumName ++ "(" ++ literal.text ++ ")"

end AbiBridge.Constant
