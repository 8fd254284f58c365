import AbiBridge.Descriptor.Basic
import AbiBridge.Json.Decode
import AbiBridge.Word

/-!
# Reading descriptors

The records of a descriptor in their JSON form. Members that no record knows are
skipped.
-/

namespace AbiBridge

open Json (Field Reader readRecord readString readList readOption readSize readInt32)

namespace Descriptor

def readField : Reader FieldDecl :=
  readRecord { name := "", type := "" }
    [.required "fieldname" readString fun r x => { r with name := x },
     .required "fieldtype" readString fun r x => { r with type := x }]

def readParam : Reader ParamDecl :=
  readRecord { name := "", type := "" }
    [.required "paramname" readString fun r x => { r with name := x },
     .required "paramtype" readString fun r x => { r with type := x },
     .optional "array_count" (readOption readString) fun r x => { r with countName := x }]

def readMethod : Reader MethodDecl :=
  readRecord { name := "", flatName := "", result := "" }
    [.required "methodname" readString fun r x => { r with name := x },
     .required "methodname_flat" readString fun r x => { r with flatName := x },
     .required "returntype" readString fun r x => { r with result := x },
     .optional "params" (readList readParam) fun r x => { r with params := x }]

def readAccessor : Reader AccessorDecl :=
  readRecord { kind := "", name := "", flatName := "" }
    [.required "kind" readString fun r x => { r with kind := x },
     .required "name" readString fun r x => { r with name := x },
     .required "name_flat" readString fun r x => { r with flatName := x }]

/-- The value of an enumerator. All of it is read before its kind is told. -/
def readEnumeratorValue : Reader EnumeratorValue := fun _ json =>
  if json.isReadable then
    match json with
    | .integer n => .ok (if Word.isSigned 64 n then .signed n else .unsigned n.toNat)
    | .string s => .ok (.text s)
    | _ => .error (.shape .noEnumeratorValue)
  else .error .notJson

def readEnumerator : Reader EnumeratorDecl :=
  readRecord { name := "", value := .text "" }
    [.required "name" readString fun r x => { r with name := x },
     .required "value" readEnumeratorValue fun r x => { r with value := x }]

def readEnum : Reader EnumDecl :=
  readRecord { name := "" }
    [.required "enumname" readString fun r x => { r with name := x },
     .optional "values" (readList readEnumerator) fun r x => { r with values := x }]

def readConst : Reader ConstDecl :=
  readRecord { name := "", type := "", value := "" }
    [.required "constname" readString fun r x => { r with name := x },
     .required "consttype" readString fun r x => { r with type := x },
     .required "constval" readString fun r x => { r with value := x }]

def readTypedef : Reader TypedefDecl :=
  readRecord { name := "", target := "" }
    [.required "typedef" readString fun r x => { r with name := x },
     .required "type" readString fun r x => { r with target := x }]

def readStruct : Reader StructDecl :=
  readRecord { name := "" }
    [.required "struct" readString fun r x => { r with name := x },
     .optional "fields" (readList readField) fun r x => { r with fields := x },
     .optional "consts" (readList readConst) fun r x => { r with consts := x },
     .optional "enums" (readList readEnum) fun r x => { r with enums := x },
     .optional "methods" (readList readMethod) fun r x => { r with methods := x },
     .optional "callback_id" (readOption readInt32) fun r x => { r with callbackId := x }]

def readInterface : Reader InterfaceDecl :=
  readRecord { name := "" }
    [.required "classname" readString fun r x => { r with name := x },
     .optional "accessors" (readList readAccessor) fun r x => { r with accessors := x },
     .optional "methods" (readList readMethod) fun r x => { r with methods := x },
     .optional "enums" (readList readEnum) fun r x => { r with enums := x }]

def readApi : Reader Api :=
  readRecord {}
    [.optional "callback_structs" (readList readStruct) fun r x => { r with callbackStructs := x },
     .optional "consts" (readList readConst) fun r x => { r with consts := x },
     .optional "enums" (readList readEnum) fun r x => { r with enums := x },
     .optional "interfaces" (readList readInterface) fun r x => { r with interfaces := x },
     .optional "structs" (readList readStruct) fun r x => { r with structs := x },
     .optional "typedefs" (readList readTypedef) fun r x => { r with typedefs := x }]

def readFieldFact : Reader ReportedField :=
  readRecord { field := "", size := 0, align := 0 }
    [.required "field" readString fun r x => { r with field := x },
     .required "size" readSize fun r x => { r with size := x },
     .required "align" readSize fun r x => { r with align := x },
     .optional "offset" (readOption readSize) fun r x => { r with offset := x }]

def readStructFact : Reader ReportedStruct :=
  readRecord { size := 0, align := 0 }
    [.required "size" readSize fun r x => { r with size := x },
     .required "align" readSize fun r x => { r with align := x },
     .optional "fields" (readList readFieldFact) fun r x => { r with fields := x }]

def readLayoutReport : Reader PlatformReport :=
  Json.readDictionary readStructFact

end Descriptor

end AbiBridge
