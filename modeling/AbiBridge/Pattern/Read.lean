import AbiBridge.Pattern.Basic
import AbiBridge.Pattern.Language

/-!
# Reading search patterns

The written form of patterns: literals, `.`, anchors, classes in brackets,
groups, alternatives, repetitions, and the option `i` to ignore case.
-/

namespace AbiBridge.Pattern

/-- The characters that a backslash may escape: the punctuation of ASCII, except
for angle brackets. -/
def isEscapable (c : Char) : Bool :=
  0x20 < c.toNat && c.toNat < 0x7f && !c.isAlphanum && c != '<' && c != '>'

def controlEscape? : Char → Option Char
  | 'n' => some '\n'
  | 't' => some '\t'
  | 'r' => some '\r'
  | 'f' => some '\x0c'
  | 'v' => some '\x0b'
  | 'a' => some '\x07'
  | _ => none

def classEscape? : Char → Option CharClass
  | 'd' => some (.digit false)
  | 'D' => some (.digit true)
  | 'w' => some (.word false)
  | 'W' => some (.word true)
  | 's' => some (.blank false)
  | 'S' => some (.blank true)
  | _ => none

def charEscape? (c : Char) : Option Char :=
  if isEscapable c then some c else controlEscape? c

def single (c : Char) : CharClass := .range c c

def literal (foldsCase : Bool) (c : Char) : Pattern :=
  .char { classes := [single c], foldsCase }

/-- Any character but a line break. -/
def anyChar : Pattern :=
  .char { classes := [single '\n'], negated := true }

def escape? (foldsCase : Bool) (c : Char) : Option Pattern :=
  match classEscape? c with
  | some kind => some (.char { classes := [kind] })
  | none =>
    match c with
    | 'b' => some (.wordBoundary false)
    | 'B' => some (.wordBoundary true)
    | 'A' => some .textStart
    | 'z' => some .textEnd
    | c => (charEscape? c).map (literal foldsCase)

/-- One character or escape inside brackets: a class, and the character if it is one. -/
def classItem? : List Char → Option (CharClass × Option Char × List Char)
  | '\\' :: c :: cs =>
    match classEscape? c with
    | some kind => some (kind, none, cs)
    | none => (charEscape? c).map fun c => (single c, some c, cs)
  | '[' :: _ => none
  | '\\' :: _ => none
  | c :: cs => some (single c, some c, cs)
  | [] => none

/-- Read the rest of a class in brackets. The first item may be a closing bracket.
The fuel bounds the number of items. -/
def readClasses : Nat → Bool → List Char → Option (List CharClass × List Char)
  | 0, _, _ => none
  | fuel + 1, isFirst, cs =>
    match isFirst, cs with
    | false, ']' :: cs => some ([], cs)
    | _, cs =>
      match classItem? cs with
      | none => none
      | some (kind, low?, rest) =>
        match low?, rest with
        | some low, '-' :: next :: rest' =>
          if next = ']' then
            (readClasses fuel false rest).map fun (kinds, rest) => (kind :: kinds, rest)
          else
            match classItem? (next :: rest') with
            | some (_, some high, rest) =>
              if low ≤ high then
                (readClasses fuel false rest).map fun (kinds, rest) =>
                  (.range low high :: kinds, rest)
              else none
            | _ => none
        | _, _ => (readClasses fuel false rest).map fun (kinds, rest) => (kind :: kinds, rest)

def readSet (foldsCase : Bool) (cs : List Char) : Option (Pattern × List Char) :=
  let (negated, cs) := match cs with
    | '^' :: cs => (true, cs)
    | cs => (false, cs)
  (readClasses (cs.length + 1) true cs).map fun (classes, rest) =>
    (.char { classes, negated, foldsCase }, rest)

def bounds? (cs : List Char) : Option ((Nat × Option Nat) × List Char) := do
  let least ← Text.numeral? 10 (cs.takeWhile Char.isDigit)
  match cs.dropWhile Char.isDigit with
  | '\x7d' :: rest => some ((least, some least), rest)
  | ',' :: '\x7d' :: rest => some ((least, none), rest)
  | ',' :: rest =>
    let most ← Text.numeral? 10 (rest.takeWhile Char.isDigit)
    match rest.dropWhile Char.isDigit with
    | '\x7d' :: rest => if least ≤ most then some ((least, some most), rest) else none
    | _ => none
  | _ => none

/-- The bounds of the repetition that the characters start with: the outer `none`
means that there is no repetition, the inner one that it is malformed. -/
def repetition? : List Char → Option (Option ((Nat × Option Nat) × List Char))
  | '*' :: cs => some (some ((0, none), cs))
  | '+' :: cs => some (some ((1, none), cs))
  | '?' :: cs => some (some ((0, some 1), cs))
  | '\x7b' :: cs => some (bounds? cs)
  | _ => none

/-- A repetition that prefers few matches finds the same texts. -/
def skipLazy : List Char → List Char
  | '?' :: cs => cs
  | cs => cs

/-- A pattern under construction: the alternatives before the last, and the pieces of
the last, both in reverse order. -/
structure Draft where
  branches : List Pattern
  pieces : List Pattern

namespace Draft

def start : Draft := ⟨[], []⟩

def branch (draft : Draft) : Pattern :=
  draft.pieces.foldl (fun rest piece => match rest with
    | .empty => piece
    | rest => .seq piece rest) .empty

def add (draft : Draft) (piece : Pattern) : Draft :=
  { draft with pieces := piece :: draft.pieces }

def next (draft : Draft) : Draft :=
  ⟨draft.branch :: draft.branches, []⟩

def finish (draft : Draft) : Pattern :=
  draft.branches.foldl (fun rest branch => .alt branch rest) draft.branch

end Draft

/-- Read a pattern up to its end or to an unmatched closing parenthesis. The fuel
bounds the number of steps. -/
def readFrom : Nat → Bool → Draft → List Char → Option (Pattern × List Char)
  | 0, _, _, _ => none
  | fuel + 1, foldsCase, draft, cs =>
    match repetition? cs with
    | some none => none
    | some (some ((least, most), rest)) =>
      match draft.pieces with
      | [] => none
      | piece :: pieces =>
        readFrom fuel foldsCase { draft with pieces := .repeats piece least most :: pieces }
          (skipLazy rest)
    | none =>
      let group (inner : Bool) (cs : List Char) : Option (Pattern × List Char) :=
        match readFrom fuel inner .start cs with
        | some (pattern, ')' :: rest) => readFrom fuel foldsCase (draft.add pattern) rest
        | _ => none
      match cs with
      | [] => some (draft.finish, [])
      | ')' :: _ => some (draft.finish, cs)
      | '|' :: cs => readFrom fuel foldsCase draft.next cs
      | '(' :: '?' :: 'i' :: ')' :: cs => readFrom fuel true draft cs
      | '(' :: '?' :: '-' :: 'i' :: ')' :: cs => readFrom fuel false draft cs
      | '(' :: '?' :: 'i' :: ':' :: cs => group true cs
      | '(' :: '?' :: ':' :: cs => group foldsCase cs
      | '(' :: cs => group foldsCase cs
      | '[' :: cs =>
        match readSet foldsCase cs with
        | some (set, rest) => readFrom fuel foldsCase (draft.add set) rest
        | none => none
      | '\\' :: c :: cs =>
        match escape? foldsCase c with
        | some pattern => readFrom fuel foldsCase (draft.add pattern) cs
        | none => none
      | '\\' :: [] => none
      | '.' :: cs => readFrom fuel foldsCase (draft.add anyChar) cs
      | '^' :: cs => readFrom fuel foldsCase (draft.add .textStart) cs
      | '$' :: cs => readFrom fuel foldsCase (draft.add .textEnd) cs
      | c :: cs => readFrom fuel foldsCase (draft.add (literal foldsCase c)) cs

def ofText? (text : String) : Option Pattern :=
  match readFrom (text.toList.length + 1) false .start text.toList with
  | some (pattern, []) => some pattern
  | _ => none

/-- The patterns that the program runs with. Properties of characters, named groups, POSIX classes,
the options `m` and `x`, and escapes by number are not read, and classes have no set operations. -/
def language : PatternLanguage where
  read? text := (ofText? text).map matchesIn

end AbiBridge.Pattern
