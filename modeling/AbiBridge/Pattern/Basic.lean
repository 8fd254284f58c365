import AbiBridge.Text.Blank
import AbiBridge.Text.CaseFold
import AbiBridge.Text.DecimalDigit
import AbiBridge.Text.WordChar

/-!
# Search patterns

Regular expressions over characters, and whether a text contains a match. A
pattern is run on sets of positions: from each position it leads to the positions
where a match that starts there may end.
-/

namespace AbiBridge

inductive CharClass where
  | range (low high : Char)
  | digit (negated : Bool)
  | word (negated : Bool)
  | blank (negated : Bool)
  deriving DecidableEq, Repr

def CharClass.contains (c : Char) : CharClass → Bool
  | range low high => low ≤ c && c ≤ high
  | digit negated => Text.isDecimalDigit c != negated
  | word negated => Text.isWordChar c != negated
  | blank negated => Text.isBlank c != negated

structure CharSet where
  classes : List CharClass
  negated : Bool := false
  /-- A character belongs to the set if one does that differs from it only by case. -/
  foldsCase : Bool := false
  deriving DecidableEq, Repr

def CharSet.contains (set : CharSet) (c : Char) : Bool :=
  let spellings := if set.foldsCase then Text.caseOrbit c else [c]
  (spellings.any fun c => set.classes.any (·.contains c)) != set.negated

inductive Pattern where
  | empty
  | char (set : CharSet)
  | textStart
  | textEnd
  | wordBoundary (negated : Bool)
  | seq (first second : Pattern)
  | alt (left right : Pattern)
  /-- At least `least` and at most `most` matches in a row. -/
  | repeats (inner : Pattern) (least : Nat) (most : Option Nat)
  deriving DecidableEq, Repr

namespace Pattern

/-- The positions that one step leads to from any of the given ones. -/
def advance (step : Nat → List Nat) (positions : List Nat) : List Nat :=
  (positions.flatMap step).eraseDups

def after (step : Nat → List Nat) : Nat → List Nat → List Nat
  | 0, positions => positions
  | count + 1, positions => after step count (advance step positions)

/-- The positions after at most `count` steps, `reached` being those found so far and
`frontier` the last of them. -/
def within (step : Nat → List Nat) : Nat → List Nat → List Nat → List Nat
  | 0, _, reached => reached
  | count + 1, frontier, reached =>
    let found := (advance step frontier).filter fun i => !reached.contains i
    if found.isEmpty then reached else within step count found (reached ++ found)

def wordAt (text : Array Char) (i : Nat) : Bool :=
  (text[i]?.map Text.isWordChar).getD false

/-- A word starts or ends at the position. -/
def isBoundary (text : Array Char) (i : Nat) : Bool :=
  (0 < i && wordAt text (i - 1)) != wordAt text i

/-- The positions where a match that starts at `i` may end. Where the number of
repetitions is not bounded, as many steps as there are positions suffice. -/
def ends (text : Array Char) : Pattern → Nat → List Nat
  | empty, i => [i]
  | char set, i => if (text[i]?.map set.contains).getD false then [i + 1] else []
  | textStart, i => if i = 0 then [i] else []
  | textEnd, i => if i = text.size then [i] else []
  | wordBoundary negated, i => if isBoundary text i != negated then [i] else []
  | seq first second, i => advance (second.ends text) (first.ends text i)
  | alt left right, i => (left.ends text i ++ right.ends text i).eraseDups
  | repeats inner least most, i =>
    let start := after (inner.ends text) least [i]
    let steps := match most with
      | some most => most - least
      | none => text.size + 1
    within (inner.ends text) steps start start

/-- Some part of the text matches. -/
def matchesIn (pattern : Pattern) (text : String) : Bool :=
  let chars := text.toList.toArray
  (List.range (chars.size + 1)).any fun i => !(pattern.ends chars i).isEmpty

end Pattern

end AbiBridge
