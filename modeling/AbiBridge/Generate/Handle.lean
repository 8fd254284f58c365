import AbiBridge.Descriptor.Index
import AbiBridge.Module.Basic

/-!
# Handles and default values

A pointer to an interface is passed as the handle of the interface. Every field of
a generated struct has a default value, which for a typedef is that of the type it
stands for.
-/

namespace AbiBridge

mutual

/-- The type with every pointer to an interface replaced by its handle. -/
def withHandles (index : Index) : CType → CType
  | .pointer target nullable isConst =>
    match target with
    | .named name =>
      if index.isInterface name then .named name else .pointer (.named name) nullable isConst
    | target => .pointer (withHandles index target) nullable isConst
  | .array element length => .array (withHandles index element) length
  | .function params result nullable =>
    .function (toHandlesOfAll index params) (toHandlesOfResult index result) nullable
  | type => type

def toHandlesOfAll (index : Index) : List CType → List CType
  | [] => []
  | type :: types => withHandles index type :: toHandlesOfAll index types

def toHandlesOfResult (index : Index) : Option CType → Option CType
  | none => none
  | some type => some (withHandles index type)

end

def Primitive.default (p : Primitive) : DefaultValue :=
  if p = .bool then .boolFalse else if p.isFloat then .zeroFloat else .zero

/-- The default value of a type. Each array and each typedef on the way takes one of
the looks; without a look left a typedef is not followed. -/
def defaultWithin (index : Index) (resolver : Resolver) : Nat → CType → DefaultValue
  | _, .primitive p => p.default
  | _, .pointer _ _ isConst => if isConst then .null else .nullMut
  | looks, .array element length =>
    .repeated (defaultWithin index resolver (looks - 1) element) length
  | _, .function .. => .noFunction
  | _, .zeroTerminated _ => .unknown
  | _, .slice .. => .unknown
  | looks, .named name =>
    match index.kind? name with
    | some .struct => .struct name
    | some .enum => .enum name
    | some .interface => .handle name
    | some .typedef =>
      match looks with
      | 0 => .unknown
      | looks + 1 =>
        match index.step? resolver name with
        | some target => defaultWithin index resolver looks (withHandles index target)
        | none => .unknown
    | _ => .unknown
termination_by looks type => (looks, sizeOf type)
decreasing_by
  · cases looks <;> decreasing_tactic
  · decreasing_tactic

/-- The default value of a type whose interface pointers are handles. -/
def defaultValue (index : Index) (resolver : Resolver) (type : CType) : DefaultValue :=
  defaultWithin index resolver Index.maxTypedefDepth type

end AbiBridge
