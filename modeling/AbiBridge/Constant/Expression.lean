import AbiBridge.Text.Blank
import AbiBridge.Text.DecimalDigit
import AbiBridge.Text.WordChar
import AbiBridge.Word

/-!
# Integer expressions

The constant expressions of C headers: literals joined by `|`, `<<`, `-`, `~`
and parentheses, with casts that do not change the value. The value is computed
in 128 bits.
-/

namespace AbiBridge.Constant

/-- An integer expression. Parentheses and casts leave no trace. -/
inductive Expr where
  | literal (word : List Char)
  | neg (operand : Expr)
  | complement (operand : Expr)
  | shift (operand amount : Expr)
  | or (left right : Expr)
  deriving DecidableEq, Repr

/-- The value fits 128 bits. -/
def fits (n : Int) : Bool :=
  Word.isSigned 128 n

def isLiteralSuffix (c : Char) : Bool :=
  c == 'u' || c == 'U' || c == 'l' || c == 'L'

def literalDigits (word : List Char) : List Char :=
  (word.reverse.dropWhile isLiteralSuffix).reverse

/-- The number that a literal denotes: hexadecimal after `0x`, octal after `0`. -/
def literalNumber? (word : List Char) : Option Nat :=
  match literalDigits word with
  | '0' :: 'x' :: digits => Text.numeral? 16 digits
  | '0' :: 'X' :: digits => Text.numeral? 16 digits
  | '0' :: c :: digits => Text.numeral? 8 (c :: digits)
  | digits => Text.numeral? 10 digits

def literalValue? (word : List Char) : Option Int :=
  ((literalNumber? word).map Int.ofNat).filter fits

def orBits (a b : Int) : Int :=
  (BitVec.ofInt 128 a ||| BitVec.ofInt 128 b).toInt

/-- A value shifted to the left; bits beyond the 128th are lost. -/
def shiftBits (a : Int) (amount : Nat) : Int :=
  Word.wrap 128 (a * Word.count amount)

/-- The value of an expression. A literal or a negation that does not fit has none,
nor has a shift by an amount that is not below 64. -/
def Expr.value? : Expr → Option Int
  | .literal word => literalValue? word
  | .neg operand => (operand.value?.map (- ·)).filter fits
  | .complement operand => operand.value?.map fun n => -n - 1
  | .shift operand amount => do
    let n ← operand.value?
    let k ← amount.value?
    if 0 ≤ k ∧ k < 64 then some (shiftBits n k.toNat) else none
  | .or left right => do
    let a ← left.value?
    let b ← right.value?
    some (orBits a b)

/-- A token of an expression. A number is a word that starts with a digit. -/
inductive Token where
  | number (word : List Char)
  | name (word : List Char)
  | shift
  | bar
  | minus
  | tilde
  | openParen
  | closeParen
  deriving DecidableEq, Repr

namespace Token

def isWordPart (c : Char) : Bool :=
  Text.isAsciiWordChar c || c == ':'

def isSeparator (c : Char) : Bool :=
  c == ' ' || c == '\t'

def ofPending : List Char → List Token
  | [] => []
  | c :: cs => if c.isDigit then [number (c :: cs)] else [name (c :: cs)]

def ofMark? : Char → Option Token
  | '|' => some bar
  | '-' => some minus
  | '~' => some tilde
  | '(' => some openParen
  | ')' => some closeParen
  | _ => none

/-- Read tokens, `pending` being the word read so far. -/
def scan (pending : List Char) : List Char → Option (List Token)
  | [] => some (ofPending pending)
  | '<' :: '<' :: cs => (scan [] cs).map (ofPending pending ++ shift :: ·)
  | c :: cs =>
    if isWordPart c then scan (pending ++ [c]) cs
    else if isSeparator c then (scan [] cs).map (ofPending pending ++ ·)
    else
      match ofMark? c with
      | some mark => (scan [] cs).map (ofPending pending ++ mark :: ·)
      | none => none

end Token

def tokens? (text : String) : Option (List Token) :=
  Token.scan [] (Text.trim text.toList)

/-- The tokens after the words of a cast and its closing parenthesis. -/
def skipCast? : List Token → Option (List Token)
  | .name _ :: rest => skipCast? rest
  | .closeParen :: rest => some rest
  | _ => none

mutual

/-- Read a term with its signs; the fuel bounds the number of calls. -/
def readUnary : Nat → List Token → Option (Expr × List Token)
  | 0, _ => none
  | fuel + 1, .minus :: rest => (readUnary fuel rest).map fun (e, rest) => (.neg e, rest)
  | fuel + 1, .tilde :: rest => (readUnary fuel rest).map fun (e, rest) => (.complement e, rest)
  | _ + 1, .number word :: rest => some (.literal word, rest)
  | fuel + 1, .openParen :: .name _ :: rest => (skipCast? rest).bind (readUnary fuel)
  | fuel + 1, .openParen :: rest =>
    match readOr fuel rest with
    | some (e, .closeParen :: rest) => some (e, rest)
    | _ => none
  | _ + 1, _ => none

/-- Read a term that may be shifted once. -/
def readShift : Nat → List Token → Option (Expr × List Token)
  | 0, _ => none
  | fuel + 1, tokens =>
    match readUnary fuel tokens with
    | some (e, .shift :: rest) =>
      (readUnary fuel rest).map fun (amount, rest) => (.shift e amount, rest)
    | found => found

def readOr : Nat → List Token → Option (Expr × List Token)
  | 0, _ => none
  | fuel + 1, tokens =>
    match readShift fuel tokens with
    | some (e, rest) => readOrRest fuel e rest
    | none => none

/-- Read further terms onto `left`. -/
def readOrRest : Nat → Expr → List Token → Option (Expr × List Token)
  | 0, _, _ => none
  | fuel + 1, left, .bar :: rest =>
    match readShift fuel rest with
    | some (right, rest) => readOrRest fuel (.or left right) rest
    | none => none
  | _ + 1, left, rest => some (left, rest)

end

/-- The expression that all the tokens form. -/
def Expr.ofTokens? (tokens : List Token) : Option Expr :=
  match readOr (4 * tokens.length + 4) tokens with
  | some (e, []) => some e
  | _ => none

def Expr.ofText? (text : String) : Option Expr :=
  (tokens? text).bind Expr.ofTokens?

def integerOfText? (text : String) : Option Int :=
  (Expr.ofText? text).bind Expr.value?

end AbiBridge.Constant
