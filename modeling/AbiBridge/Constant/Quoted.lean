import AbiBridge.Text.Blank
import AbiBridge.Text.Search

/-!
# String constants

A C string becomes a literal that ends with a zero byte in the generated module.
-/

namespace AbiBridge.Constant

def unquote? : List Char → Option (List Char)
  | '"' :: cs =>
    match cs.reverse with
    | '"' :: inner => some inner.reverse
    | _ => none
  | _ => none

/-- The contents of a string constant, which may be written without quotes if it
contains none. -/
def stringContents? (raw : String) : Option (List Char) :=
  let cs := Text.trim raw.toList
  match unquote? cs with
  | some inner => some inner
  | none => if '"' ∈ cs then none else some cs

/-- The literal for a string constant. A zero byte inside is refused. -/
def stringLiteral? (raw : String) : Option String :=
  (stringContents? raw).bind fun inner =>
    if (Text.after? ['\\', '0'] inner).isSome then none
    else some ("c\"" ++ String.ofList inner ++ "\"")

end AbiBridge.Constant
