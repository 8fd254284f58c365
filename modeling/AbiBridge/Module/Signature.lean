import AbiBridge.CType.Spelling
import AbiBridge.Module.Basic

/-!
# Flat functions and their wrappers

A flat function is declared with the parameters that it has in C. Its wrapper takes
slices in place of buffers and computes their lengths.
-/

namespace AbiBridge

def declaration (name : String) (type : CType) : String :=
  identifierFor name ++ ": " ++ type.rustText

/-- The parameter is passed as a zero-terminated text. -/
def Param.isText (param : Param) : Bool :=
  match param.wrapperType? with
  | some (.zeroTerminated _) => true
  | _ => false

/-- The number of elements of a buffer, in a type that may be too small for it. -/
def lengthArgument (head : Param) (countType : Option Primitive) : String :=
  let bytes := if head.isText then ".to_bytes()" else ""
  let length := identifierFor head.name ++ bytes ++ ".len()"
  match countType with
  | none | some .usize => length
  | some p => p.rustName ++ "::try_from(" ++ length ++ ").unwrap_or(" ++ p.rustName ++ "::MAX)"

def bufferArgument (head : Param) : String :=
  let name := identifierFor head.name
  match head.wrapperType? with
  | some (.zeroTerminated _) => name ++ ".as_ptr().cast()"
  | some (.slice _ false) => name ++ ".as_mut_ptr()"
  | _ => name ++ ".as_ptr()"

/-- What a wrapper passes for a parameter. -/
def Param.argument (params : List Param) (param : Param) : String :=
  match param.role with
  | .plain => identifierFor param.name
  | .head .. => bufferArgument param
  | .count i | .elided i =>
    match params[i]? with
    | some head => lengthArgument head param.countType
    | none => identifierFor param.name

/-- What a wrapper is called on. -/
inductive Receiver where
  | struct
  | interface
  deriving DecidableEq

def Receiver.parameter : Receiver → String
  | struct => "&mut self"
  | interface => "self"

def Receiver.argument : Receiver → String
  | struct => "self as *mut Self as *mut ::core::ffi::c_void"
  | interface => "self.ptr"

namespace Method

/-- The parameters of the wrapper besides the receiver. -/
def wrapperParams (method : Method) : List (String × CType) :=
  method.params.filterMap fun param => param.wrapperType?.map fun type => (param.name, type)

/-- What the wrapper passes to the flat function after the receiver. -/
def arguments (method : Method) : List String :=
  method.params.map (Param.argument method.params)

/-- The lines of the wrapper, if there is one. -/
def wrapperLines (method : Method) (receiver : Receiver) : List String :=
  match method.wrapper with
  | none => []
  | some name =>
    let params := method.wrapperParams.map fun (name, type) => declaration name type
    ["",
     "    pub unsafe fn " ++ name ++ "(" ++ ", ".intercalate (receiver.parameter :: params) ++ ")"
       ++ CType.rustResult method.result ++ " \x7b",
     "        unsafe \x7b " ++ method.flatName ++ "("
       ++ ", ".intercalate (receiver.argument :: method.arguments) ++ ") \x7d",
     "    \x7d"]

def flatParams (method : Method) : List (String × CType) :=
  method.params.map fun param => (param.name, param.type)

def flatLine (method : Method) : String :=
  let params := method.flatParams.map fun (name, type) => declaration name type
  "    pub fn " ++ method.flatName ++ "("
    ++ ", ".intercalate ("self_: *mut ::core::ffi::c_void" :: params) ++ ")"
    ++ CType.rustResult method.result ++ ";"

end Method

end AbiBridge
