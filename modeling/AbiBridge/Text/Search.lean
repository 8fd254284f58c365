/-!
# Searching in texts
-/

namespace AbiBridge.Text

/-- What follows the first occurrence of `pattern`. -/
def after? (pattern : List Char) : List Char → Option (List Char)
  | [] => pattern.isPrefixOf? []
  | c :: cs =>
    match pattern.isPrefixOf? (c :: cs) with
    | some rest => some rest
    | none => after? pattern cs

def occurs (pattern text : String) : Bool :=
  (after? pattern.toList text.toList).isSome

def splitAt (separator : Char) : List Char → List (List Char)
  | [] => [[]]
  | c :: cs =>
    if c = separator then [] :: splitAt separator cs
    else
      match splitAt separator cs with
      | piece :: pieces => (c :: piece) :: pieces
      | [] => [[c]]

/-- The lines of a text; a text that ends in a line break has an empty last line. -/
def lines (text : String) : List String :=
  (splitAt '\n' text.toList).map String.ofList

def unlines (lines : List String) : String :=
  String.join (lines.map (· ++ "\n"))

def firstLine (text : String) : String :=
  String.ofList (text.toList.takeWhile (· != '\n'))

end AbiBridge.Text
