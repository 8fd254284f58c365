import AbiBridge.Json.Basic
import AbiBridge.Text.DecimalDigit
import AbiBridge.Word

/-!
# Reading JSON text

The text is read from left to right into a document. Every function gives what it
read and, if the text was JSON so far, the characters that follow.
-/

namespace AbiBridge.Json

def isSpace (c : Char) : Bool :=
  c == ' ' || c == '\t' || c == '\n' || c == '\r'

def skipSpace (cs : List Char) : List Char :=
  cs.dropWhile isSpace

def hex4? (a b c d : Char) : Option Nat :=
  Text.numeral? 16 [a, b, c, d]

def simpleEscape? : Char → Option Char
  | '"' => some '"'
  | '\\' => some '\\'
  | '/' => some '/'
  | 'b' => some '\x08'
  | 'f' => some '\x0c'
  | 'n' => some '\n'
  | 'r' => some '\r'
  | 't' => some '\t'
  | _ => none

/-- A code unit that must be followed by a low surrogate. -/
def isHighSurrogate (n : Nat) : Bool := 0xd800 ≤ n && n < 0xdc00

/-- A code unit that must follow a high surrogate. -/
def isLowSurrogate (n : Nat) : Bool := 0xdc00 ≤ n && n < 0xe000

def surrogatePair (high low : Nat) : Char :=
  Char.ofNat (0x10000 + (high - 0xd800) * 0x400 + (low - 0xdc00))

/-- Read a string after its opening quote, `read` being the characters so far in
reverse order, or `none` once a surrogate stood alone. The result is `none` if the
text is not a string. -/
def scanString (read : Option (List Char)) : List Char → Option (Option String × List Char)
  | [] => none
  | '"' :: cs => some (read.map fun read => String.ofList read.reverse, cs)
  | '\\' :: 'u' :: a :: b :: c :: d :: '\\' :: 'u' :: e :: f :: g :: h :: cs =>
    match hex4? a b c d with
    | none => none
    | some high =>
      match isHighSurrogate high, hex4? e f g h with
      | true, some low =>
        if isLowSurrogate low then
          scanString (read.map (surrogatePair high low :: ·)) cs
        else scanString none ('\\' :: 'u' :: e :: f :: g :: h :: cs)
      | true, none => none
      | false, _ =>
        scanString (if isLowSurrogate high then none else read.map (Char.ofNat high :: ·))
          ('\\' :: 'u' :: e :: f :: g :: h :: cs)
  | '\\' :: 'u' :: a :: b :: c :: d :: cs =>
    match hex4? a b c d with
    | none => none
    | some code =>
      scanString (if isHighSurrogate code || isLowSurrogate code then none
        else read.map (Char.ofNat code :: ·)) cs
  | '\\' :: c :: cs =>
    match simpleEscape? c with
    | some escaped => scanString (read.map (escaped :: ·)) cs
    | none => none
  | c :: cs =>
    if c.toNat < 0x20 || c == '\\' then none else scanString (read.map (c :: ·)) cs

def spanDigits (cs : List Char) : List Char × List Char :=
  (cs.takeWhile Char.isDigit, cs.dropWhile Char.isDigit)

/-- The digits after a point and what follows them; nothing is read if there is no point. -/
def scanFraction : List Char → Option (Option (List Char) × List Char)
  | '.' :: cs =>
    let (digits, rest) := spanDigits cs
    if digits.isEmpty then none else some (some digits, rest)
  | cs => some (none, cs)

def scanExponent : List Char → Option (Option Int × List Char)
  | e :: cs =>
    if e = 'e' ∨ e = 'E' then
      let (negative, cs) := match cs with
        | '+' :: cs => (false, cs)
        | '-' :: cs => (true, cs)
        | cs => (false, cs)
      let (digits, rest) := spanDigits cs
      (Text.numeral? 10 digits).map fun n => (some (if negative then -n else n), rest)
    else some (none, e :: cs)
  | [] => some (none, [])

/-- The least magnitude that rounds to no finite number of double precision. -/
def doubleOverflow : Nat := Word.count 1024 - Word.count 970

/-- The number `mantissa · 10 ^ exponent` is beyond double precision. The number of
digits decides it without computing a large power. -/
def exceedsDouble (mantissa : Nat) (exponent : Int) : Bool :=
  let size : Int := (toString mantissa).length + exponent
  if mantissa = 0 ∨ size < 300 then false
  else if 320 < size then true
  else if exponent < 0 then doubleOverflow * Nat.pow 10 exponent.natAbs ≤ mantissa
  else doubleOverflow ≤ mantissa * Nat.pow 10 exponent.toNat

def ofNumber (negative : Bool) (digits : List Char) (fraction : Option (List Char))
    (exponent : Option Int) : Json :=
  let places := fraction.getD []
  let mantissa := (Text.numeral? 10 (digits ++ places)).getD 0
  let whole := fraction.isNone && exponent.isNone
  if whole && !negative && mantissa < Word.count 64 then .integer mantissa
  else if whole && negative && 0 < mantissa && mantissa ≤ Word.count 63 then .integer (-mantissa)
  else if exceedsDouble mantissa (exponent.getD 0 - places.length) then .unreadable
  else .real

def scanNumber (cs : List Char) : Option (Json × List Char) := do
  let (negative, cs) := match cs with
    | '-' :: cs => (true, cs)
    | cs => (false, cs)
  let (digits, rest) := spanDigits cs
  if digits.isEmpty ∨ (digits.head? = some '0' ∧ digits.length ≠ 1) then none
  else
    let (fraction, rest) ← scanFraction rest
    let (exponent, rest) ← scanExponent rest
    some (ofNumber negative digits fraction exponent, rest)

/-- A value, and the characters after it if the text was JSON to its end. -/
abbrev Scanned (α : Type) := α × Option (List Char)

def scanScalar : List Char → Scanned Json
  | 'n' :: 'u' :: 'l' :: 'l' :: cs => (.null, some cs)
  | 't' :: 'r' :: 'u' :: 'e' :: cs => (.bool true, some cs)
  | 'f' :: 'a' :: 'l' :: 's' :: 'e' :: cs => (.bool false, some cs)
  | '"' :: cs =>
    match scanString (some []) cs with
    | some (some s, cs) => (.string s, some cs)
    | some (none, cs) => (.unreadable, some cs)
    | none => (.fault, none)
  | cs =>
    match scanNumber cs with
    | some (number, cs) => (number, some cs)
    | none => (.fault, none)

mutual

/-- Read a value; the fuel bounds the number of calls. -/
def scanValue : Nat → List Char → Scanned Json
  | 0, _ => (.fault, none)
  | fuel + 1, cs =>
    match skipSpace cs with
    | '[' :: cs =>
      match skipSpace cs with
      | ']' :: cs => (.array [], some cs)
      | cs =>
        let (items, rest) := scanItems fuel cs
        (.array items, rest)
    | '{' :: cs =>
      match skipSpace cs with
      | '}' :: cs => (.object [], some cs)
      | cs =>
        let (members, rest) := scanMembers fuel cs
        (.object members, rest)
    | cs => scanScalar cs

def scanItems : Nat → List Char → Scanned (List Json)
  | 0, _ => ([.fault], none)
  | fuel + 1, cs =>
    match scanValue fuel cs with
    | (item, none) => ([item], none)
    | (item, some cs) =>
      match skipSpace cs with
      | ',' :: cs =>
        let (items, rest) := scanItems fuel cs
        (item :: items, rest)
      | ']' :: cs => ([item], some cs)
      | _ => ([item, .fault], none)

def scanMembers : Nat → List Char → Scanned (List (String × Json))
  | 0, _ => ([("", .fault)], none)
  | fuel + 1, cs =>
    match skipSpace cs with
    | '"' :: cs =>
      match scanString (some []) cs with
      | some (some name, cs) =>
        match skipSpace cs with
        | ':' :: cs =>
          match scanValue fuel cs with
          | (value, none) => ([(name, value)], none)
          | (value, some cs) =>
            match skipSpace cs with
            | ',' :: cs =>
              let (members, rest) := scanMembers fuel cs
              ((name, value) :: members, rest)
            | '}' :: cs => ([(name, value)], some cs)
            | _ => ([(name, value), ("", .fault)], none)
        | _ => ([(name, .fault)], none)
      | _ => ([("", .fault)], none)
    | _ => ([("", .fault)], none)

end

structure Reading where
  document : Json
  /-- The text was JSON to the end of the document, and only spaces follow. -/
  ends : Bool

def Reading.ofText (text : String) : Reading :=
  let cs := text.toList
  match scanValue (2 * cs.length + 2) cs with
  | (document, some rest) => ⟨document, (skipSpace rest).isEmpty⟩
  | (document, none) => ⟨document, false⟩

end AbiBridge.Json
