import AbiBridge.CType.Spelling
import AbiBridge.Constant.Decimal
import AbiBridge.Constant.Integer
import AbiBridge.Constant.Quoted
import AbiBridge.Generate.Progress
import AbiBridge.Generate.Scope
import AbiBridge.Module.Basic

/-!
# Constants and enums of a module

The value of a constant is read by its type: a string behind a byte pointer, an
enumerator, a floating-point number, or an integer.
-/

namespace AbiBridge

/-- The name of a member as seen from outside its owner. -/
def memberName (owner : Option String) (name : String) : String :=
  match owner with
  | some owner => qualifiedName owner name
  | none => name

/-- A pointer to bytes, which as the type of a constant means a string. -/
def isBytePointer : CType → Bool
  | .pointer target _ _ => target.primitive? == some .u8 || target.primitive? == some .i8
  | _ => false

namespace Scope

def enumName? (scope : Scope) : CType → Option String
  | .named name => if scope.index.isEnum name then some name else none
  | _ => none

/-- The literal for a constant of a type that is neither a string nor an enum. -/
def numberLiteral? (scope : Scope) (type : CType) (raw : String) : Option String :=
  match (scope.index.underlying? scope.resolver type).bind CType.primitive? with
  | some p =>
    if p.isFloat then Constant.floatLiteral? raw
    else (Constant.integerLiteral? p raw).map (·.text)
  | none => none

def constantText? (scope : Scope) (type : CType) (raw : String) : Option (String × String) :=
  if isBytePointer type then
    (Constant.stringLiteral? raw).map fun value => ("&::core::ffi::CStr", value)
  else
    match scope.enumName? type with
    | some name => (Constant.enumValue? (flatName name) raw).map fun value => (flatName name, value)
    | none => (scope.numberLiteral? type raw).map fun value => (type.rustText, value)

def constantType (scope : Scope) (dropped : List String) (owner : Option String)
    (decl : ConstDecl) : Except Issue CType :=
  let entity := memberName owner decl.name
  match owner with
  | some owner => scope.resolveIn dropped owner entity decl.type .value
  | none => scope.resolve dropped entity decl.type .value

def constItem (scope : Scope) (dropped : List String) (owner : Option String)
    (decl : ConstDecl) : Except Issue ConstItem := do
  let type ← scope.constantType dropped owner decl
  match scope.constantText? type decl.value with
  | some (type, value) => .ok ⟨decl.name, type, value⟩
  | none => .error (.untranslatableConstant decl.name decl.value)

def constItems (scope : Scope) (dropped : List String) (owner : Option String) :
    List ConstDecl → Progress ConstItem
  | [] => .start dropped
  | decl :: decls =>
    let rest := constItems scope dropped owner decls
    if scope.skippedConstants.contains decl.name then rest
    else
      match scope.constItem dropped owner decl with
      | .ok item => rest.keep item []
      | .error issue => rest.note ⟨memberName owner decl.name, issue⟩

end Scope

/-- The name of an enum in the module; that of a nested one starts with its owner. -/
def enumItemName (owner : Option String) (decl : EnumDecl) : String :=
  match owner with
  | some owner => owner ++ "_" ++ decl.name
  | none => decl.name

/-- The enums of a descriptor with their owners: those at top level, and those nested in
payloads, structs and interfaces. -/
def Api.allEnums (api : Api) : List (Option String × EnumDecl) :=
  api.enums.map (none, ·)
    ++ (api.callbackStructs ++ api.structs).flatMap (fun decl =>
      decl.enums.map (some decl.name, ·))
    ++ api.interfaces.flatMap fun decl => decl.enums.map (some decl.name, ·)

def enumItem (owner : Option String) (decl : EnumDecl) : EnumItem :=
  ⟨enumItemName owner decl, decl.enumerators⟩

/-- The items with pairwise different names, the first of each; `seen` are names that
were met before. -/
def distinctEnums (seen : List String) : List EnumItem → List EnumItem
  | [] => []
  | item :: items =>
    if seen.contains item.name then distinctEnums seen items
    else item :: distinctEnums (item.name :: seen) items

def Api.enumItems (api : Api) : List EnumItem :=
  distinctEnums [] (api.allEnums.map fun (owner, decl) => enumItem owner decl)

/-- The issues of all enums, also of those whose names are taken. -/
def Api.enumLog (api : Api) : List EntityIssue :=
  api.allEnums.flatMap fun (owner, decl) =>
    let name := enumItemName owner decl
    (decl.issues name).map fun issue => ⟨name, issue⟩

end AbiBridge
