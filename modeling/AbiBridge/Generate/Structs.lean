import AbiBridge.Generate.Constants
import AbiBridge.Generate.Handle

/-!
# Typedefs, structs and interfaces of a module

Typedefs, payloads and structs are made in the order of declaration. One that fails
is left out, and what is made later cannot refer to it.
-/

namespace AbiBridge

namespace Scope

def typedefItems (scope : Scope) (dropped : List String) :
    List (String × String) → Progress TypedefItem
  | [] => .start dropped
  | (name, raw) :: entries =>
    match scope.resolve dropped name raw .value with
    | .ok type =>
      (typedefItems scope dropped entries).keep ⟨name, withHandles scope.index type⟩ []
    | .error issue => (typedefItems scope (name :: dropped) entries).note ⟨name, issue⟩

/-- The declared type of a field after retyping; the first rule that fits counts. -/
def retypedSpelling (scope : Scope) (name raw : String) : String :=
  let trimmed := Text.trimmed raw
  match scope.retypers.find? fun retyper =>
      retyper.source == trimmed && retyper.finds name with
  | some retyper => retyper.target
  | none => raw

/-- The type is a byte or a `bool`, if only through typedefs. -/
def isByteSized (scope : Scope) (type : CType) : Bool :=
  match (scope.index.underlying? scope.resolver type).bind CType.primitive? with
  | some .bool | some .u8 | some .i8 => true
  | _ => false

/-- The type of a field by its name: a byte with the name of a boolean is one. -/
def fieldType (scope : Scope) (name : String) (type : CType) : CType :=
  if scope.boolMarker.toList.isPrefixOf name.toList && scope.isByteSized type then
    .primitive .bool
  else type

def fieldItem (scope : Scope) (dropped : List String) (owner : String) (decl : FieldDecl) :
    Except Issue FieldItem := do
  let type ← scope.resolveIn dropped owner (owner ++ "." ++ decl.name)
    (scope.retypedSpelling decl.name decl.type) .value
  return { name := decl.name, type := scope.fieldType decl.name type }

/-- The parameter for a declaration, before its role is known. -/
def paramInput (scope : Scope) (dropped : List String) (owner method : String)
    (decl : ParamDecl) : Except Issue RawParam := do
  let type ← scope.resolveIn dropped owner (method ++ "(" ++ decl.name ++ ")") decl.type
    .signature
  let type := withHandles scope.index (scope.index.decayTypedef scope.resolver type)
  return {
    name := decl.name
    type
    countName := decl.countName
    countType := scope.index.integerType? scope.resolver type }

def method (scope : Scope) (dropped : List String) (owner : String) (decl : MethodDecl) :
    Except Issue Method := do
  let entity := qualifiedName owner decl.name
  let params ← decl.params.mapM (scope.paramInput dropped owner entity)
  let result ← scope.resolveResultIn dropped owner entity decl.result
  return {
    flatName := decl.flatName
    wrapper := (wrapperFor? owner decl.flatName).map identifierFor
    params := Param.ofRaw params
    result := result.map (withHandles scope.index) }

/-- The method, without wrapper if the name of that is taken. -/
def withFreeWrapper (taken : List String) (method : Method) : Method :=
  match method.wrapper with
  | some name => if taken.contains name then { method with wrapper := none } else method
  | none => method

/-- The methods for declarations; each name is given to the first wrapper that has it. -/
def methods (scope : Scope) (dropped : List String) (owner : String) (taken : List String) :
    List MethodDecl → Progress Method
  | [] => .start dropped
  | decl :: decls =>
    match scope.method dropped owner decl with
    | .ok method =>
      let method := withFreeWrapper taken method
      (methods scope dropped owner (method.wrapper.toList ++ taken) decls).keep method []
    | .error issue =>
      (methods scope dropped owner taken decls).note ⟨qualifiedName owner decl.name, issue⟩

/-- The layout of a struct. One that is not in the table has no fact on any platform. -/
def layoutOf (layouts : Layouts) (decl : StructDecl) : Except Issue StructLayout :=
  (layouts.get? decl.name).getD (.error (.unreportedStruct decl.name ""))

/-- The struct for a declaration, with the issues that it can be made in spite of. -/
def structItem (scope : Scope) (layouts : Layouts) (dropped : List String)
    (decl : StructDecl) : Except Issue (StructItem × List EntityIssue) := do
  let layout ← layoutOf layouts decl
  let fields ← decl.fields.mapM (scope.fieldItem dropped decl.name)
  let consts := scope.constItems dropped (some decl.name) decl.consts
  let methods := scope.methods dropped decl.name [] decl.methods
  let item : StructItem := {
    name := decl.name
    layout
    fields
    consts := consts.made
    methods := methods.made
    callbackId := decl.callbackId }
  return (item, layout.diagnostics.map (⟨decl.name, ·⟩) ++ consts.log ++ methods.log)

def structItems (scope : Scope) (layouts : Layouts) (dropped : List String) :
    List StructDecl → Progress StructItem
  | [] => .start dropped
  | decl :: decls =>
    match scope.structItem layouts dropped decl with
    | .ok (item, log) => (structItems scope layouts dropped decls).keep item log
    | .error issue =>
      (structItems scope layouts (decl.name :: dropped) decls).note ⟨decl.name, issue⟩

/-- Give the fields of a struct their final types and default values. -/
def finishStruct (scope : Scope) (item : StructItem) : StructItem :=
  { item with fields := item.fields.map fun field =>
      let type := withHandles scope.index field.type
      { field with type, default := defaultValue scope.index scope.resolver type } }

def interfaceItems (scope : Scope) (dropped : List String) :
    List InterfaceDecl → Progress InterfaceItem
  | [] => .start dropped
  | decl :: decls =>
    let methods := scope.methods dropped decl.name [] decl.methods
    (interfaceItems scope dropped decls).keep
      ⟨decl.name, decl.accessors, methods.made⟩ methods.log

end Scope

end AbiBridge
