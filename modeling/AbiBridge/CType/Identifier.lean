import AbiBridge.Text.WordChar

/-!
# Identifiers

The words that can name an entity in a type spelling.
-/

namespace AbiBridge.CType

/-- What may follow the first character of a name: word characters, and `::`
before the start of a further part. -/
def isNameRest : List Char → Bool
  | [] => true
  | ':' :: ':' :: c :: cs => Text.isIdentifierStart c && isNameRest cs
  | c :: cs => Text.isWordChar c && isNameRest cs

/-- An identifier, or several joined by `::`. -/
def isName (name : String) : Bool :=
  match name.toList with
  | [] => false
  | c :: cs => Text.isIdentifierStart c && isNameRest cs

/-- A word that may take part in the spelling of a pointee: the shape of a name,
but with colons anywhere after the first character. -/
def isPointeeWord (word : String) : Bool :=
  match word.toList with
  | [] => false
  | c :: cs => Text.isIdentifierStart c && cs.all fun c => Text.isWordChar c || c == ':'

end AbiBridge.CType
