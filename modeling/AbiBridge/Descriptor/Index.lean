import AbiBridge.CType.Resolver
import AbiBridge.Descriptor.Basic
import AbiBridge.Name

/-!
# The names of a descriptor

What each name stands for. An enum nested in a struct or an interface is known by
its qualified name and by the flat form of that. Where several entities have one
name the last that is entered counts: structs, enums, interfaces, typedefs, added
typedefs, and opaque types.
-/

namespace AbiBridge

inductive NameKind where
  | struct
  | enum
  | typedef
  | interface
  | opaqueType
  deriving DecidableEq, Repr

structure Index where
  kinds : Dictionary NameKind
  /-- The spellings of the targets of typedefs. -/
  targets : Dictionary String
  /-- The qualified names of nested enums. -/
  nested : List String

def qualifiedName (owner name : String) : String :=
  owner ++ "::" ++ name

namespace Index

def empty : Index := ⟨.empty, .empty, []⟩

def addName (index : Index) (name : String) (kind : NameKind) : Index :=
  { index with kinds := index.kinds.insert name kind }

def addNestedEnum (owner : String) (index : Index) (decl : EnumDecl) : Index :=
  let qualified := qualifiedName owner decl.name
  let index := (index.addName (flatName qualified) .enum).addName qualified .enum
  { index with nested := qualified :: index.nested }

def addStruct (index : Index) (decl : StructDecl) : Index :=
  decl.enums.foldl (addNestedEnum decl.name) (index.addName decl.name .struct)

def addEnum (index : Index) (decl : EnumDecl) : Index :=
  index.addName decl.name .enum

def addInterface (index : Index) (decl : InterfaceDecl) : Index :=
  decl.enums.foldl (addNestedEnum decl.name) (index.addName decl.name .interface)

def addTypedef (index : Index) (name target : String) : Index :=
  let index := index.addName name .typedef
  { index with targets := index.targets.insert name target }

def ofApi (api : Api) (extraTypedefs : Dictionary String) (opaqueTypes : List String) : Index :=
  let index := (api.structs ++ api.callbackStructs).foldl addStruct empty
  let index := api.enums.foldl addEnum index
  let index := api.interfaces.foldl addInterface index
  let index := api.typedefs.foldl (fun index decl => index.addTypedef decl.name decl.target) index
  let index := extraTypedefs.entries.foldl
    (fun index (name, target) => index.addTypedef name target) index
  opaqueTypes.foldl (fun index name => index.addName name .opaqueType) index

def kind? (index : Index) (name : String) : Option NameKind :=
  index.kinds.get? name

def contains (index : Index) (name : String) : Bool :=
  index.kinds.contains name

def isInterface (index : Index) (name : String) : Bool :=
  index.kind? name == some .interface

def isEnum (index : Index) (name : String) : Bool :=
  index.kind? name == some .enum

/-- The spelling of what a typedef stands for. -/
def target? (index : Index) (name : String) : Option String :=
  index.targets.get? name

/-- The name as seen inside `owner`: a name that stands for nothing by itself may be
that of an enum nested there. -/
def qualifyName (index : Index) (owner name : String) : String :=
  if !index.contains name && index.nested.contains (qualifiedName owner name) then
    qualifiedName owner name
  else name

def qualify (index : Index) (owner : String) (type : CType) : CType :=
  type.mapNames (index.qualifyName owner)

def firstUnknown? (index : Index) (type : CType) : Option String :=
  type.names.find? fun name => !index.contains name

/-- The number of looks that are taken along a chain of typedefs. -/
def maxTypedefDepth : Nat := 16

def step? (index : Index) (resolver : Resolver) (name : String) : Option CType :=
  (index.target? name).bind fun raw => (resolver.resolve raw .value).toOption

def underlyingWithin? (index : Index) (resolver : Resolver) : Nat → CType → Option CType
  | 0, _ => none
  | looks + 1, .named name =>
    (index.step? resolver name).bind (underlyingWithin? index resolver looks)
  | _ + 1, type => some type

/-- Follow typedefs to a type that is no name. -/
def underlying? (index : Index) (resolver : Resolver) (type : CType) : Option CType :=
  index.underlyingWithin? resolver maxTypedefDepth type

/-- The integer type that a type reduces to through typedefs. -/
def integerType? (index : Index) (resolver : Resolver) (type : CType) : Option Primitive :=
  ((index.underlying? resolver type).bind CType.primitive?).filter (·.isInteger)

/-- A typedef of an array decays like an array in signature position. -/
def decayTypedef (index : Index) (resolver : Resolver) (type : CType) : CType :=
  match type with
  | .named name =>
    if index.kind? name = some .typedef then
      match index.underlying? resolver type with
      | some (.array element _) => .pointerTo element false
      | _ => type
    else type
  | _ => type

end Index

end AbiBridge
