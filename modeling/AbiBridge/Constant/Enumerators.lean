import AbiBridge.Constant.Integer
import AbiBridge.Descriptor.Basic
import AbiBridge.Issue

/-!
# The constants of an enum

Each enumerator becomes a constant, except that a value or a name that occurred
before does not occur again. Enumerators that have no value of 32 bits are
reported.
-/

namespace AbiBridge

structure Enumerator where
  name : String
  literal : Constant.EnumeratorLiteral
  deriving DecidableEq

def EnumeratorValue.number? : EnumeratorValue → Option Int
  | signed n => some n
  | unsigned n => some n
  | text s => Constant.integerOfText? s

def EnumeratorValue.literal? (value : EnumeratorValue) : Option Constant.EnumeratorLiteral :=
  value.number?.bind Constant.enumeratorLiteral?

/-- The constants of the enumerators, `literals` and `names` being those seen
before. A literal counts as seen even if its constant was left out for its name. -/
def enumeratorsFrom (literals : List Constant.EnumeratorLiteral) (names : List String) :
    List EnumeratorDecl → List Enumerator
  | [] => []
  | decl :: decls =>
    match decl.value.literal? with
    | none => enumeratorsFrom literals names decls
    | some literal =>
      if literal ∈ literals then enumeratorsFrom literals names decls
      else if decl.name ∈ names then enumeratorsFrom (literal :: literals) names decls
      else ⟨decl.name, literal⟩ :: enumeratorsFrom (literal :: literals) (decl.name :: names) decls

def EnumDecl.enumerators (decl : EnumDecl) : List Enumerator :=
  enumeratorsFrom [] [] decl.values

/-- The issues of an enum that is called `owner` in the generated module. -/
def EnumDecl.issues (decl : EnumDecl) (owner : String) : List Issue :=
  (decl.values.filter (·.value.literal?.isNone)).map fun value =>
    .enumeratorTooWide owner value.name value.value.expression

end AbiBridge
