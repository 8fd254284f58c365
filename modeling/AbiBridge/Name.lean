import AbiBridge.Text.Search
import AbiBridge.Text.WordChar

/-!
# Names in the generated module

How the names of a descriptor become identifiers: qualified names are flattened,
keywords are escaped, wrappers drop the owner from the name of a flat function,
and the variant of a callback drops the suffix of its payload.
-/

namespace AbiBridge

/-- Each `::` becomes one underscore. -/
def flatten : List Char → List Char
  | ':' :: ':' :: cs => '_' :: flatten cs
  | c :: cs => c :: flatten cs
  | [] => []

def flatName (name : String) : String :=
  String.ofList (flatten name.toList)

/-- The keywords that can be escaped. -/
def escapableKeywords : List String :=
  ["abstract", "as", "async", "await", "become", "box", "break", "const", "continue", "do", "dyn",
   "else", "enum", "extern", "false", "final", "fn", "for", "if", "impl", "in", "let", "loop",
   "macro", "match", "mod", "move", "mut", "override", "priv", "pub", "ref", "return", "static",
   "struct", "trait", "true", "try", "type", "typeof", "unsafe", "unsized", "use", "virtual",
   "where", "while", "yield"]

/-- The keywords that stay keywords when they are escaped. -/
def pathKeywords : List String :=
  ["self", "Self", "super", "crate"]

/-- An identifier for a name: keywords are escaped, or given an underscore where
that is not possible. -/
def identifierFor (name : String) : String :=
  if name ∈ pathKeywords then name ++ "_"
  else if name ∈ escapableKeywords then "r#" ++ name
  else name

/-- The name of the wrapper of a flat function: what follows the first mention of
the owner and an underscore, if that is an identifier. -/
def wrapperFor? (owner flat : String) : Option String :=
  match Text.after? (owner.toList ++ ['_']) flat.toList with
  | some rest => if Text.isPlainIdentifier rest then some (String.ofList rest) else none
  | none => none

/-- The variant of the callback with the given payload: the name without a final
`_t`, unless nothing else is left. -/
def variantFor (payload : String) : String :=
  match ['_', 't'].isSuffixOf? payload.toList with
  | some (c :: cs) => String.ofList (c :: cs)
  | _ => payload

end AbiBridge
