import AbiBridge.Json.Scan
import AbiBridge.Text.WordChar
import AbiBridge.Toml.Moment
import AbiBridge.Toml.Table
import AbiBridge.Word

/-!
# Reading configuration files

The text of a configuration file is read line by line into a table. Whatever is
wrong with it, the answer is just that it cannot be read.
-/

namespace AbiBridge.Toml

def isSpace (c : Char) : Bool :=
  c == ' ' || c == '\t'

def skipSpace (cs : List Char) : List Char :=
  cs.dropWhile isSpace

/-- A control character other than the tab. -/
def isControl (c : Char) : Bool :=
  (c.toNat < 0x20 && c != '\t') || c.toNat == 0x7f

/-- Each line break as a single character. -/
def unifyBreaks : List Char → List Char
  | '\r' :: '\n' :: cs => '\n' :: unifyBreaks cs
  | c :: cs => c :: unifyBreaks cs
  | [] => []

def skipComment : List Char → Option (List Char)
  | [] => some []
  | '\n' :: cs => some ('\n' :: cs)
  | c :: cs => if isControl c then none else skipComment cs

/-- The next line, if only spaces and a comment stand before it. -/
def endLine (cs : List Char) : Option (List Char) :=
  let rest := match skipSpace cs with
    | '#' :: cs => skipComment cs
    | cs => some cs
  match rest with
  | some [] => some []
  | some ('\n' :: cs) => some cs
  | _ => none

def skipBlankLines : Nat → List Char → Option (List Char)
  | 0, _ => none
  | fuel + 1, cs =>
    match skipSpace cs with
    | '\n' :: cs => skipBlankLines fuel cs
    | '#' :: cs => (skipComment cs).bind (skipBlankLines fuel)
    | cs => some cs

def scalar? (n : Nat) : Option Char :=
  if n < 0xd800 ∨ (0xdfff < n ∧ n < 0x110000) then some (Char.ofNat n) else none

def escape? : List Char → Option (Char × List Char)
  | 'u' :: a :: b :: c :: d :: cs => do
    some (← scalar? (← Text.numeral? 16 [a, b, c, d]), cs)
  | 'U' :: a :: b :: c :: d :: e :: f :: g :: h :: cs => do
    some (← scalar? (← Text.numeral? 16 [a, b, c, d, e, f, g, h]), cs)
  | '/' :: _ => none
  | c :: cs => (Json.simpleEscape? c).map fun escaped => (escaped, cs)
  | [] => none

def readBasic : Nat → List Char → List Char → Option (String × List Char)
  | 0, _, _ => none
  | _ + 1, read, '"' :: cs => some (String.ofList read.reverse, cs)
  | fuel + 1, read, '\\' :: cs =>
    (escape? cs).bind fun (c, cs) => readBasic fuel (c :: read) cs
  | fuel + 1, read, c :: cs => if isControl c then none else readBasic fuel (c :: read) cs
  | _ + 1, _, [] => none

def readLiteral (read : List Char) : List Char → Option (String × List Char)
  | '\x27' :: cs => some (String.ofList read.reverse, cs)
  | c :: cs => if isControl c then none else readLiteral (c :: read) cs
  | [] => none

/-- The quotes at the end of a string of several lines: three close it, and up to two
before them belong to it. -/
def closing? (quote : Char) (cs : List Char) : Option (List Char × List Char) :=
  let run := min 5 (cs.takeWhile (· == quote)).length
  if 3 ≤ run then some (List.replicate (run - 3) quote, cs.drop run) else none

def continued? (cs : List Char) : Option (List Char) :=
  match skipSpace cs with
  | '\n' :: cs => some (cs.dropWhile fun c => isSpace c || c == '\n')
  | _ => none

def readLines (quote : Char) : Nat → List Char → List Char → Option (String × List Char)
  | 0, _, _ => none
  | fuel + 1, read, cs =>
    match closing? quote cs with
    | some (quotes, rest) => some (String.ofList (read.reverse ++ quotes), rest)
    | none =>
      match cs with
      | '\\' :: cs' =>
        if quote = '"' then
          match continued? cs' with
          | some rest => readLines quote fuel read rest
          | none => (escape? cs').bind fun (c, rest) => readLines quote fuel (c :: read) rest
        else readLines quote fuel ('\\' :: read) cs'
      | c :: cs' =>
        if isControl c ∧ c ≠ '\n' then none else readLines quote fuel (c :: read) cs'
      | [] => none

/-- The line break right after the opening quotes is not part of the string. -/
def dropFirstBreak : List Char → List Char
  | '\n' :: cs => cs
  | cs => cs

def readString? : List Char → Option (String × List Char)
  | '"' :: cs => readBasic (cs.length + 1) [] cs
  | '\x27' :: cs => readLiteral [] cs
  | _ => none

def isBareKeyChar (c : Char) : Bool :=
  Text.isAsciiWordChar c || c == '-'

def readKeyPart (cs : List Char) : Option (String × List Char) :=
  match readString? cs with
  | some found => some found
  | none =>
    let bare := cs.takeWhile isBareKeyChar
    if bare.isEmpty then none else some (String.ofList bare, cs.dropWhile isBareKeyChar)

/-- Read a key: the parts before its last one, and that. -/
def readKey : Nat → List Char → Option ((List String × String) × List Char)
  | 0, _ => none
  | fuel + 1, cs => do
    let (part, rest) ← readKeyPart (skipSpace cs)
    match skipSpace rest with
    | '.' :: rest =>
      let ((path, last), rest) ← readKey fuel rest
      some ((part :: path, last), rest)
    | rest => some (([], part), rest)

/-- The digits of a number that may have single underscores between them. -/
def digits? (isDigit : Char → Bool) : List Char → Option (List Char)
  | [] => none
  | [c] => if isDigit c then some [c] else none
  | c :: '_' :: cs => if isDigit c then (digits? isDigit cs).map (c :: ·) else none
  | c :: cs => if isDigit c then (digits? isDigit cs).map (c :: ·) else none

def numeral? (base : Nat) (cs : List Char) : Option Nat :=
  (digits? (fun c => (Text.digitValue? base c).isSome) cs).bind (Text.numeral? base)

/-- The digits of the whole part of a number, which has no superfluous zero. -/
def wholeDigits? (cs : List Char) : Option (List Char) :=
  (digits? Char.isDigit cs).filter fun digits =>
    digits.length == 1 || digits.head? != some '0'

def splitSign : List Char → Bool × List Char
  | '+' :: cs => (false, cs)
  | '-' :: cs => (true, cs)
  | cs => (false, cs)

def integer? (word : List Char) : Option Int :=
  let magnitude := match word with
    | '0' :: 'x' :: digits => (numeral? 16 digits).map Int.ofNat
    | '0' :: 'o' :: digits => (numeral? 8 digits).map Int.ofNat
    | '0' :: 'b' :: digits => (numeral? 2 digits).map Int.ofNat
    | word =>
      let (negative, digits) := splitSign word
      ((wholeDigits? digits).bind (Text.numeral? 10)).map fun n =>
        if negative then -(n : Int) else n
  magnitude.filter (Word.isSigned 64)

def isExponent : List Char → Bool
  | [] => true
  | c :: cs => (c == 'e' || c == 'E') && (digits? Char.isDigit (splitSign cs).2).isSome

/-- A character before the fraction or the exponent of a number. -/
def isDigitPart (c : Char) : Bool :=
  c.isDigit || c == '_'

/-- The word is a number with a fraction or an exponent, or a special number. -/
def isFloat (word : List Char) : Bool :=
  let unsigned := (splitSign word).2
  let whole := unsigned.takeWhile isDigitPart
  String.ofList unsigned ∈ ["inf", "nan"] ||
    (wholeDigits? whole).isSome &&
      match unsigned.dropWhile isDigitPart with
      | [] => false
      | '.' :: rest =>
        (digits? Char.isDigit (rest.takeWhile isDigitPart)).isSome
          && isExponent (rest.dropWhile isDigitPart)
      | rest => isExponent rest

def word? (word : List Char) : Option Json :=
  if word = "true".toList then some (.bool true)
  else if word = "false".toList then some (.bool false)
  else
    match integer? word with
    | some n => some (.integer n)
    | none => if isFloat word then some .real else none

def isWordPart (c : Char) : Bool :=
  Text.isAsciiWordChar c || c == '+' || c == '-' || c == '.'

def readWord (cs : List Char) : Option (Json × List Char) :=
  match afterMoment? cs with
  | some rest => some (.real, rest)
  | none => (word? (cs.takeWhile isWordPart)).map fun json => (json, cs.dropWhile isWordPart)

def readScalar (cs : List Char) : Option (Json × List Char) :=
  match cs with
  | '"' :: '"' :: '"' :: cs =>
    (readLines '"' (cs.length + 1) [] (dropFirstBreak cs)).map fun (s, rest) => (.string s, rest)
  | '\x27' :: '\x27' :: '\x27' :: cs =>
    (readLines '\x27' (cs.length + 1) [] (dropFirstBreak cs)).map fun (s, rest) => (.string s, rest)
  | '"' :: _ => (readString? cs).map fun (s, rest) => (.string s, rest)
  | '\x27' :: _ => (readString? cs).map fun (s, rest) => (.string s, rest)
  | cs => readWord cs

mutual

/-- Read a value; the fuel bounds the number of calls. -/
def readValue : Nat → List Char → Option (Json × List Char)
  | 0, _ => none
  | fuel + 1, '[' :: cs =>
    (readItems fuel cs).map fun (items, rest) => (.array items, rest)
  | fuel + 1, '\x7b' :: cs =>
    match skipSpace cs with
    | '\x7d' :: rest => some (.object [], rest)
    | cs =>
      (readMembers fuel [] cs).map fun (entries, rest) => (.object (entriesToJson entries), rest)
  | _ + 1, cs => readScalar cs

/-- Read the items of an array, on any number of lines. -/
def readItems : Nat → List Char → Option (List Json × List Char)
  | 0, _ => none
  | fuel + 1, cs =>
    match skipBlankLines (cs.length + 1) cs with
    | none => none
    | some (']' :: rest) => some ([], rest)
    | some cs =>
      match readValue fuel cs with
      | none => none
      | some (item, rest) =>
        match skipBlankLines (rest.length + 1) rest with
        | some (',' :: rest) =>
          (readItems fuel rest).map fun (items, rest) => (item :: items, rest)
        | some (']' :: rest) => some ([item], rest)
        | _ => none

def readMembers : Nat → Entries → List Char → Option (Entries × List Char)
  | 0, _, _ => none
  | fuel + 1, entries, cs =>
    match readKey (cs.length + 1) cs with
    | some ((path, key), '=' :: rest) =>
      match readValue fuel (skipSpace rest) with
      | none => none
      | some (json, rest) =>
        match bind path key (.value json) entries with
        | none => none
        | some entries =>
          match skipSpace rest with
          | ',' :: rest => readMembers fuel entries rest
          | '\x7d' :: rest => some (entries, rest)
          | _ => none
    | _ => none

end

/-- What has been read: the path of the open table, and the whole table. -/
structure State where
  header : List String
  root : Entries

def State.readHeader (state : State) (cs : List Char) : Option (State × List Char) :=
  match cs with
  | '[' :: cs =>
    match readKey (cs.length + 1) cs with
    | some ((path, key), ']' :: ']' :: rest) => do
      let root ← openItem path key state.root
      some (⟨path ++ [key], root⟩, ← endLine rest)
    | _ => none
  | cs =>
    match readKey (cs.length + 1) cs with
    | some ((path, key), ']' :: rest) => do
      let root ← openTable path key state.root
      some (⟨path ++ [key], root⟩, ← endLine rest)
    | _ => none

def State.readBinding (state : State) (cs : List Char) : Option (State × List Char) :=
  match readKey (cs.length + 1) cs with
  | some ((path, key), '=' :: rest) => do
    let (json, rest) ← readValue (2 * rest.length + 2) (skipSpace rest)
    let root ← bindUnder state.header path key json state.root
    some ({ state with root }, ← endLine rest)
  | _ => none

/-- Read lines to the end; the fuel bounds their number. -/
def State.readLines : Nat → State → List Char → Option Entries
  | 0, _, _ => none
  | fuel + 1, state, cs =>
    match skipBlankLines (cs.length + 1) cs with
    | none => none
    | some [] => some state.root
    | some ('[' :: cs) => (state.readHeader cs).bind fun (state, rest) => readLines fuel state rest
    | some cs => (state.readBinding cs).bind fun (state, rest) => readLines fuel state rest

/-- The document of a configuration file, which may start with a byte order mark. -/
def ofText? (text : String) : Option Json :=
  let cs := match unifyBreaks text.toList with
    | '\ufeff' :: cs => cs
    | cs => cs
  (State.readLines (cs.length + 1) ⟨[], []⟩ cs).map fun root => .object (entriesToJson root)

end AbiBridge.Toml
