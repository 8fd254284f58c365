/-!
# Issues

What can be wrong with one entity of a descriptor: a struct, a field, a
parameter, a callback or a constant. An issue concerns that entity alone; the
entities beside it are generated all the same.
-/

namespace AbiBridge

inductive Issue where
  | unsupportedType (entity raw : String)
  | unresolvedName (entity name : String)
  /-- The report of a platform lacks the struct. -/
  | unreportedStruct (name platform : String)
  /-- The report of a platform lacks the field. -/
  | unreportedField (struct field platform : String)
  | callbackIdTaken (id : Int) (first second : String)
  /-- A field of a callback payload cannot be made from bytes. -/
  | payloadNotFromBytes (name field type : String)
  | untranslatableConstant (name value : String)
  | enumeratorTooWide (owner name value : String)
  deriving DecidableEq, Inhabited

namespace Issue

def quote (text : String) : String :=
  "`" ++ text ++ "`"

def message : Issue → String
  | unsupportedType entity raw => entity ++ ": unsupported type " ++ quote raw
  | unresolvedName entity name => entity ++ ": unresolved named type " ++ quote name
  | unreportedStruct name platform =>
    "struct " ++ quote name ++ " has no layout fact for " ++ platform
  | unreportedField struct field platform =>
    "field " ++ quote (struct ++ "." ++ field) ++ " has no layout fact for " ++ platform
  | callbackIdTaken id first second =>
    "callback id " ++ toString id ++ " is used by both " ++ quote first ++ " and " ++ quote second
  | payloadNotFromBytes name field type =>
    "callback payload " ++ quote name ++ ": field " ++ quote field ++ " has non-extern type "
      ++ quote type
  | untranslatableConstant name value =>
    "constant " ++ quote name ++ ": cannot translate value " ++ quote value
  | enumeratorTooWide owner name value =>
    "enum " ++ quote owner ++ ": value " ++ quote (name ++ " = " ++ value)
      ++ " does not fit in 32 bits"

/-- The issue keeps its entity out of the output; another one only degrades it. -/
def isFatal : Issue → Bool
  | unreportedField .. => false
  | _ => true

end Issue

/-- An issue with the name of the entity that it is reported for. -/
structure EntityIssue where
  entity : String
  issue : Issue
  deriving DecidableEq, Inhabited

end AbiBridge
