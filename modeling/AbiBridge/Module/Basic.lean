import AbiBridge.Constant.Enumerators
import AbiBridge.Layout.Struct
import AbiBridge.Param.Role

/-!
# Bindings modules

What a generated module contains, apart from how it is written.
-/

namespace AbiBridge

structure TypedefItem where
  name : String
  type : CType

/-- An enum: a type of its own around a number, with named constants. -/
structure EnumItem where
  /-- The flat name. -/
  name : String
  values : List Enumerator

structure ConstItem where
  name : String
  type : String
  value : String

/-- A flat function that takes an object as its first argument, with the name of its
wrapper if it has one. -/
structure Method where
  flatName : String
  wrapper : Option String
  params : List Param
  result : Option CType

inductive DefaultValue where
  | zero
  | zeroFloat
  | boolFalse
  | null
  | nullMut
  | noFunction
  | repeated (element : DefaultValue) (length : Nat)
  /-- The default of the struct with the given name. -/
  | struct (name : String)
  /-- The zero value of the enum with the given name. -/
  | enum (name : String)
  /-- The null handle of the interface with the given name. -/
  | handle (name : String)
  /-- Whatever the type itself has by default. -/
  | unknown
  deriving DecidableEq, Inhabited

structure FieldItem where
  name : String
  type : CType
  default : DefaultValue := .unknown

/-- A struct with its layout. Payloads carry the number of their callback. -/
structure StructItem where
  name : String
  layout : StructLayout
  fields : List FieldItem
  consts : List ConstItem := []
  methods : List Method := []
  callbackId : Option Int := none

/-- An interface: a handle with methods, and the functions that return it. -/
structure InterfaceItem where
  name : String
  accessors : List AccessorDecl
  methods : List Method

structure Callback where
  id : Int
  /-- The struct that is the payload. -/
  payload : String
  variant : String
  /-- The names of the fields of the payload, in the order of declaration. -/
  fields : List String
  /-- The native shim may mention the payload. -/
  inShim : Bool
  deriving DecidableEq

structure Bindings where
  extraTypedefs : List TypedefItem
  opaqueTypes : List String
  typedefs : List TypedefItem
  enums : List EnumItem
  consts : List ConstItem
  callbackStructs : List StructItem
  structs : List StructItem
  interfaces : List InterfaceItem
  callbacks : List Callback

namespace Bindings

/-- All structs, payloads first. -/
def allStructs (bindings : Bindings) : List StructItem :=
  bindings.callbackStructs ++ bindings.structs

def methods (bindings : Bindings) : List Method :=
  bindings.allStructs.flatMap (·.methods) ++ bindings.interfaces.flatMap (·.methods)

end Bindings

end AbiBridge
