import AbiBridge.Descriptor.Basic
import AbiBridge.Json.Basic

/-!
# Writing descriptors

The JSON form of the records of a descriptor. Every field is written; an absent
optional one is left out.
-/

namespace AbiBridge

namespace Json

def ofList {α : Type} (write : α → Json) (items : List α) : Json :=
  .array (items.map write)

def ofStrings (items : List String) : Json :=
  ofList .string items

def ofNat (n : Nat) : Json := .integer n

def optionalMember {α : Type} (name : String) (write : α → Json) :
    Option α → List (String × Json)
  | none => []
  | some value => [(name, write value)]

def ofDictionary {α : Type} (write : α → Json) (dictionary : Dictionary α) : Json :=
  .object (dictionary.entries.map fun (name, value) => (name, write value))

end Json

open Json (ofList ofNat optionalMember)

def FieldDecl.toJson (field : FieldDecl) : Json :=
  .object [("fieldname", .string field.name), ("fieldtype", .string field.type)]

def ParamDecl.toJson (param : ParamDecl) : Json :=
  .object ([("paramname", .string param.name), ("paramtype", .string param.type)]
    ++ optionalMember "array_count" .string param.countName)

def MethodDecl.toJson (method : MethodDecl) : Json :=
  .object [("methodname", .string method.name), ("methodname_flat", .string method.flatName),
    ("returntype", .string method.result), ("params", ofList ParamDecl.toJson method.params)]

def AccessorDecl.toJson (accessor : AccessorDecl) : Json :=
  .object [("kind", .string accessor.kind), ("name", .string accessor.name),
    ("name_flat", .string accessor.flatName)]

def EnumeratorValue.toJson : EnumeratorValue → Json
  | signed n => .integer n
  | unsigned n => .integer n
  | text s => .string s

def EnumeratorDecl.toJson (enumerator : EnumeratorDecl) : Json :=
  .object [("name", .string enumerator.name), ("value", enumerator.value.toJson)]

def EnumDecl.toJson (decl : EnumDecl) : Json :=
  .object [("enumname", .string decl.name), ("values", ofList EnumeratorDecl.toJson decl.values)]

def ConstDecl.toJson (decl : ConstDecl) : Json :=
  .object [("constname", .string decl.name), ("consttype", .string decl.type),
    ("constval", .string decl.value)]

def TypedefDecl.toJson (decl : TypedefDecl) : Json :=
  .object [("typedef", .string decl.name), ("type", .string decl.target)]

def StructDecl.toJson (decl : StructDecl) : Json :=
  .object ([("struct", .string decl.name), ("fields", ofList FieldDecl.toJson decl.fields),
    ("consts", ofList ConstDecl.toJson decl.consts), ("enums", ofList EnumDecl.toJson decl.enums),
    ("methods", ofList MethodDecl.toJson decl.methods)]
    ++ optionalMember "callback_id" .integer decl.callbackId)

def InterfaceDecl.toJson (decl : InterfaceDecl) : Json :=
  .object [("classname", .string decl.name),
    ("accessors", ofList AccessorDecl.toJson decl.accessors),
    ("methods", ofList MethodDecl.toJson decl.methods),
    ("enums", ofList EnumDecl.toJson decl.enums)]

def Api.toJson (api : Api) : Json :=
  .object [("callback_structs", ofList StructDecl.toJson api.callbackStructs),
    ("consts", ofList ConstDecl.toJson api.consts), ("enums", ofList EnumDecl.toJson api.enums),
    ("interfaces", ofList InterfaceDecl.toJson api.interfaces),
    ("structs", ofList StructDecl.toJson api.structs),
    ("typedefs", ofList TypedefDecl.toJson api.typedefs)]

def ReportedField.toJson (fact : ReportedField) : Json :=
  .object ([("field", .string fact.field), ("size", ofNat fact.size), ("align", ofNat fact.align)]
    ++ optionalMember "offset" ofNat fact.offset)

def ReportedStruct.toJson (fact : ReportedStruct) : Json :=
  .object [("size", ofNat fact.size), ("align", ofNat fact.align),
    ("fields", ofList ReportedField.toJson fact.fields)]

def PlatformReport.toJson (report : PlatformReport) : Json :=
  Json.ofDictionary ReportedStruct.toJson report

end AbiBridge
