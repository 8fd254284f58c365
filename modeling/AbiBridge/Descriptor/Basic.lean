import AbiBridge.Dictionary

/-!
# Descriptors of an interface

What a vendor publishes about a native library: its types, constants and
functions as written in the C headers, and for each platform the sizes,
alignments and offsets that its compiler reported.
-/

namespace AbiBridge

/-- A field of a struct, its type as spelled in C. -/
structure FieldDecl where
  name : String
  type : String
  deriving DecidableEq, Inhabited

structure ParamDecl where
  name : String
  type : String
  /-- The parameter that holds the number of elements of this buffer. -/
  countName : Option String := none
  deriving DecidableEq, Inhabited

/-- A method, with the name of the flat C function behind it. -/
structure MethodDecl where
  name : String
  flatName : String
  result : String
  params : List ParamDecl := []
  deriving DecidableEq, Inhabited

structure AccessorDecl where
  kind : String
  name : String
  flatName : String
  deriving DecidableEq, Inhabited

/-- The value of an enumerator: a signed number of 64 bits, a number that only
fits 64 unsigned bits, or the text of an expression. -/
inductive EnumeratorValue where
  | signed (n : Int)
  | unsigned (n : Nat)
  | text (s : String)
  deriving DecidableEq, Inhabited

def EnumeratorValue.expression : EnumeratorValue → String
  | signed n => toString n
  | unsigned n => toString n
  | text s => s

structure EnumeratorDecl where
  name : String
  value : EnumeratorValue
  deriving DecidableEq, Inhabited

/-- An enum, at top level or nested in a struct or an interface. -/
structure EnumDecl where
  name : String
  values : List EnumeratorDecl := []
  deriving DecidableEq, Inhabited

structure ConstDecl where
  name : String
  type : String
  value : String
  deriving DecidableEq, Inhabited

structure TypedefDecl where
  name : String
  target : String
  deriving DecidableEq, Inhabited

/-- A struct. Payloads of callbacks carry the number of their callback. -/
structure StructDecl where
  name : String
  fields : List FieldDecl := []
  consts : List ConstDecl := []
  enums : List EnumDecl := []
  methods : List MethodDecl := []
  callbackId : Option Int := none
  deriving DecidableEq, Inhabited

/-- An interface: an opaque object with methods. -/
structure InterfaceDecl where
  name : String
  accessors : List AccessorDecl := []
  methods : List MethodDecl := []
  enums : List EnumDecl := []
  deriving DecidableEq, Inhabited

structure Api where
  callbackStructs : List StructDecl := []
  consts : List ConstDecl := []
  enums : List EnumDecl := []
  interfaces : List InterfaceDecl := []
  structs : List StructDecl := []
  typedefs : List TypedefDecl := []
  deriving DecidableEq, Inhabited

structure ReportedField where
  field : String
  size : Nat
  align : Nat
  offset : Option Nat := none
  deriving DecidableEq, Inhabited

structure ReportedStruct where
  size : Nat
  align : Nat
  fields : List ReportedField := []
  deriving DecidableEq, Inhabited

/-- The fact about a field; of several the first. -/
def ReportedStruct.field? (fact : ReportedStruct) (name : String) : Option ReportedField :=
  fact.fields.find? (·.field == name)

abbrev PlatformReport := Dictionary ReportedStruct

end AbiBridge
