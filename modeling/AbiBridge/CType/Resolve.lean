import AbiBridge.CType.Basic
import AbiBridge.CType.Declarator
import AbiBridge.CType.Identifier

/-!
# Reading a type spelling

A spelling is read by its outermost form. What is neither a function pointer nor
an array is a value type, or a value type behind one of seven fixed pointer
forms, tried from the most specific. C types whose width depends on the platform
are refused.
-/

namespace AbiBridge

/-- The place where a type stands. In a signature, as a parameter or a result, an
array decays to a pointer. -/
inductive Position where
  | value
  | signature
  deriving DecidableEq, Repr

structure UnsupportedType where
  raw : String
  deriving DecidableEq, Repr

namespace CType

def platformWidthSpellings : List String :=
  ["long", "long int", "signed long", "unsigned long", "unsigned long int", "long double",
   "wchar_t"]

def ofBareWords? (words : List String) : Option CType :=
  let spelling := " ".intercalate words
  if spelling ∈ platformWidthSpellings then none
  else
    match Primitive.ofSpelling? spelling with
    | some p => some (.primitive p)
    | none =>
      match words with
      | [name] => if name ≠ "void" ∧ isName name then some (.named name) else none
      | _ => none

/-- The words that may stand in front of a value type without changing it. -/
def isQualifier (word : String) : Bool :=
  word == "const" || word == "struct" || word == "enum"

def ofWords? : List String → Option CType
  | word :: next :: rest =>
    if isQualifier word then ofWords? (next :: rest) else ofBareWords? (word :: next :: rest)
  | words => ofBareWords? words

/-- The type behind a pointer; `void` stands for bytes. -/
def pointeeOfWords? (words : List String) : Option CType :=
  if words = ["void"] then some (.primitive .u8) else ofWords? words

def wordTexts? : List Token → Option (List String)
  | [] => some []
  | .word text :: rest => (wordTexts? rest).map (text :: ·)
  | _ => none

/-- A pointer form: an optional leading `const`, words, and a fixed end. -/
structure PointerForm where
  leadingConst : Bool
  ending : List Token
  wrap : CType → CType

/-- The pointer forms, the most specific first. -/
def pointerForms : List PointerForm :=
  [⟨true, [.star, .star], fun t => pointerTo (pointerTo t true) false⟩,
   ⟨false, [.star, .word "const", .star], fun t => pointerTo (pointerTo t false) true⟩,
   ⟨false, [.star, .star], fun t => pointerTo (pointerTo t false) false⟩,
   ⟨true, [.ampersand], fun t => referenceTo t true⟩,
   ⟨false, [.ampersand], fun t => referenceTo t false⟩,
   ⟨true, [.star], fun t => pointerTo t true⟩,
   ⟨false, [.star], fun t => pointerTo t false⟩]

def PointerForm.pointee? (form : PointerForm) (tokens : List Token) : Option (List String) := do
  let rest ← if form.leadingConst then [Token.word "const"].isPrefixOf? tokens else some tokens
  let words ← wordTexts? (← form.ending.isSuffixOf? rest)
  if words ≠ [] ∧ words.all isPointeeWord then some words else none

/-- The type of tokens that are neither a function pointer nor an array. The first
pointer form that fits decides. -/
def ofPlainTokens? (tokens : List Token) : Option CType :=
  if Token.star ∈ tokens ∨ Token.ampersand ∈ tokens then do
    let (form, words) ← pointerForms.findSome? fun form =>
      (form.pointee? tokens).map fun words => (form, words)
    (pointeeOfWords? words).map form.wrap
  else
    (wordTexts? tokens).bind ofWords?

/-- The lengths that words denote, each below 2^64. -/
def lengths? (words : List String) : Option (List Nat) :=
  words.mapM fun word => Text.word64? word.toList

def arrayAt (position : Position) (type : CType) : CType :=
  match position with
  | .value => type
  | .signature => type.decay

def ofTokens? (tokens : List Token) (position : Position) : Option CType :=
  match shape : Declarator.ofTokens tokens with
  | .function result params =>
    let params? := params.attach.mapM fun ⟨part, _⟩ => ofTokens? part .signature
    if result = [.word "void"] then
      params?.map fun params => .function params none true
    else
      (ofTokens? result .signature).bind fun result =>
        params?.map fun params => .function params (some result) true
  | .pointerToArray isConst element lengths =>
    (ofTokens? element .value).bind fun element =>
      (lengths? lengths).map fun lengths => pointerTo (nest element lengths) isConst
  | .array element lengths =>
    (ofTokens? element .value).bind fun element =>
      (lengths? lengths).map fun lengths => arrayAt position (nest element lengths)
  | .other => ofPlainTokens? tokens
termination_by tokens.length
decreasing_by
  · exact (Declarator.length_lt_of_function shape).2 part ‹_›
  · exact (Declarator.length_lt_of_function shape).1
  · exact Declarator.length_lt_of_pointerToArray shape
  · exact Declarator.length_lt_of_array shape

/-- Read a type spelling. A failure reports the spelling without the blanks
around it. -/
def resolve (raw : String) (position : Position) : Except UnsupportedType CType :=
  match ofTokens? (tokens raw) position with
  | some type => .ok type
  | none => .error ⟨Text.trimmed raw⟩

/-- Read a result type; `none` is `void`. -/
def resolveResult (raw : String) (position : Position) :
    Except UnsupportedType (Option CType) :=
  if tokens raw = [.word "void"] then .ok none else (resolve raw position).map some

end CType

end AbiBridge
