import AbiBridge.Text.Ranges

/-!
# Blank characters

The characters of the Unicode property White_Space, trimming by them, and the words
between them.
-/

namespace AbiBridge.Text

/-- The ranges of the property White_Space. -/
def blankRanges : List (Nat × Nat) :=
  [(0x9, 0xd), (0x20, 0x20), (0x85, 0x85), (0xa0, 0xa0), (0x1680, 0x1680), (0x2000, 0x200a),
   (0x2028, 0x2029), (0x202f, 0x202f), (0x205f, 0x205f), (0x3000, 0x3000)]

/-- A character that separates words and is dropped at the ends of a text. -/
def isBlank (c : Char) : Bool :=
  inRanges blankRanges c.toNat

def trim (cs : List Char) : List Char :=
  ((cs.dropWhile isBlank).reverse.dropWhile isBlank).reverse

def trimmed (text : String) : String :=
  String.ofList (trim text.toList)

def pendingWord : List Char → List String
  | [] => []
  | pending => [String.ofList pending]

/-- Split a text at its blanks, `pending` being the word read so far. -/
def splitWords (pending : List Char) : List Char → List String
  | [] => pendingWord pending
  | c :: cs =>
    if isBlank c then pendingWord pending ++ splitWords [] cs
    else splitWords (pending ++ [c]) cs

def words (cs : List Char) : List String :=
  splitWords [] cs

end AbiBridge.Text
