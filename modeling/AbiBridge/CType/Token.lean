import AbiBridge.Text.Blank

/-!
# Tokens of a type spelling

A type spelling is read as a list of tokens: seven punctuation marks that always
stand alone, and words between them. Blanks only separate. The normal form of a
spelling sets its marks apart and writes one space wherever blanks stand.
-/

namespace AbiBridge.CType

inductive Token where
  | star
  | ampersand
  | openParen
  | closeParen
  | comma
  | openBracket
  | closeBracket
  | word (text : String)
  deriving DecidableEq, Repr

namespace Token

def ofMark? : Char → Option Token
  | '*' => some star
  | '&' => some ampersand
  | '(' => some openParen
  | ')' => some closeParen
  | ',' => some comma
  | '[' => some openBracket
  | ']' => some closeBracket
  | _ => none

def text : Token → String
  | star => "*"
  | ampersand => "&"
  | openParen => "("
  | closeParen => ")"
  | comma => ","
  | openBracket => "["
  | closeBracket => "]"
  | word text => text

def ofPending : List Char → List Token
  | [] => []
  | pending => [word (String.ofList pending)]

/-- Read tokens, `pending` being the word read so far. -/
def scan (pending : List Char) : List Char → List Token
  | [] => ofPending pending
  | c :: cs =>
    match ofMark? c with
    | some mark => ofPending pending ++ mark :: scan [] cs
    | none =>
      if Text.isBlank c then ofPending pending ++ scan [] cs
      else scan (pending ++ [c]) cs

end Token

def tokens (raw : String) : List Token :=
  Token.scan [] raw.toList

/-- The character, between spaces if it is a mark, and a space in place of a blank. -/
def spacedChar (c : Char) : List Char :=
  if (Token.ofMark? c).isSome then [' ', c, ' ']
  else if Text.isBlank c then [' ']
  else [c]

/-- The spelling with its marks set apart and one space between each two words. -/
def normalize (raw : String) : String :=
  " ".intercalate (Text.words (raw.toList.flatMap spacedChar))

end AbiBridge.CType
