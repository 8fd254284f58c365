import AbiBridge.Text.Blank

/-!
# Floating-point constants

Which texts denote a floating-point number, and how they are written in the
generated module.
-/

namespace AbiBridge.Constant

def skipSign : List Char → List Char
  | '+' :: cs => cs
  | '-' :: cs => cs
  | cs => cs

/-- A nonempty run of digits. -/
def isDigits (cs : List Char) : Bool :=
  !cs.isEmpty && cs.all Char.isDigit

def isExponentPart : List Char → Bool
  | [] => true
  | c :: cs => (c == 'e' || c == 'E') && isDigits (skipSign cs)

/-- Digits with at most one point, at least one digit, and an optional exponent. -/
def isDecimalNumber (cs : List Char) : Bool :=
  let whole := cs.takeWhile Char.isDigit
  match cs.dropWhile Char.isDigit with
  | '.' :: rest =>
    let places := rest.takeWhile Char.isDigit
    !(whole.isEmpty && places.isEmpty) && isExponentPart (rest.dropWhile Char.isDigit)
  | rest => !whole.isEmpty && isExponentPart rest

/-- A word for a value that is no number, in letters of any case. -/
def isSpecialWord (cs : List Char) : Bool :=
  String.ofList (cs.map Char.toLower) ∈ ["inf", "infinity", "nan"]

def isFloatText (cs : List Char) : Bool :=
  let unsigned := skipSign cs
  isSpecialWord unsigned || isDecimalNumber unsigned

def dropFloatSuffix (cs : List Char) : List Char :=
  match cs.reverse with
  | 'f' :: rest => rest.reverse
  | 'F' :: rest => rest.reverse
  | _ => cs

/-- A character that shows a number to be no integer. -/
def isFloatMark (c : Char) : Bool :=
  c == '.' || c == 'e' || c == 'E'

/-- The literal for a floating-point constant: the suffix is dropped, and a whole
number gains `.0`. -/
def floatLiteral? (raw : String) : Option String :=
  let cs := dropFloatSuffix (Text.trim raw.toList)
  if isFloatText cs then
    some (String.ofList (if cs.any isFloatMark then cs else cs ++ ['.', '0']))
  else none

end AbiBridge.Constant
