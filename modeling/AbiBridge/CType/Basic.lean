import AbiBridge.CType.Primitive

/-!
# C types

The types that a binary interface mentions, after reading: scalars, names of
other entities, pointers, arrays and functions. Slices and zero-terminated
pointers never come from a C spelling; they are what a wrapper offers in place
of a buffer pointer.
-/

namespace AbiBridge

/-- A C type as the generator sees it. -/
inductive CType where
  | primitive (p : Primitive)
  /-- A typedef, struct, enum or interface, possibly qualified by its owner. -/
  | named (name : String)
  /-- A data pointer, or a reference if it is not nullable. -/
  | pointer (target : CType) (nullable isConst : Bool)
  | array (element : CType) (length : Nat)
  /-- A constant pointer to a run of elements that ends with a zero. -/
  | zeroTerminated (element : CType)
  /-- A pointer together with the number of elements behind it. -/
  | slice (element : CType) (isConst : Bool)
  /-- A pointer to a function; the result `none` is `void`. -/
  | function (params : List CType) (result : Option CType) (nullable : Bool)
  deriving Inhabited

namespace CType

def pointerTo (target : CType) (isConst : Bool) : CType :=
  .pointer target true isConst

/-- A pointer that is never null. -/
def referenceTo (target : CType) (isConst : Bool) : CType :=
  .pointer target false isConst

/-- An array of arrays, the first length outermost. -/
def nest (element : CType) (lengths : List Nat) : CType :=
  lengths.foldr (fun length inner => .array inner length) element

def primitive? : CType → Option Primitive
  | .primitive p => some p
  | _ => none

@[simp] theorem primitive?_eq_some_iff {type : CType} {p : Primitive} :
    type.primitive? = some p ↔ type = .primitive p := by
  cases type <;> simp [primitive?]

/-- The type is passed as an address, with or without a length. -/
def isPointerLike : CType → Bool
  | .pointer .. | .zeroTerminated .. | .slice .. | .function .. => true
  | _ => false

/-- The type can be a buffer: a nullable data pointer of one level. -/
def isBuffer : CType → Bool
  | .pointer target nullable _ => nullable && !target.isPointerLike
  | _ => false

/-- An array in signature position is a pointer to its first element. -/
def decay : CType → CType
  | .array element _ => pointerTo element false
  | type => type

mutual

/-- The names that the type refers to, from left to right, with repetitions. -/
def names : CType → List String
  | .primitive _ => []
  | .named name => [name]
  | .pointer target _ _ => target.names
  | .array element _ => element.names
  | .zeroTerminated element => element.names
  | .slice element _ => element.names
  | .function params result _ => namesOfAll params ++ namesOfResult result

def namesOfAll : List CType → List String
  | [] => []
  | type :: types => type.names ++ namesOfAll types

def namesOfResult : Option CType → List String
  | none => []
  | some type => type.names

end

mutual

def mapNames (f : String → String) : CType → CType
  | .primitive p => .primitive p
  | .named name => .named (f name)
  | .pointer target nullable isConst => .pointer (target.mapNames f) nullable isConst
  | .array element length => .array (element.mapNames f) length
  | .zeroTerminated element => .zeroTerminated (element.mapNames f)
  | .slice element isConst => .slice (element.mapNames f) isConst
  | .function params result nullable =>
    .function (mapNamesOfAll f params) (mapNamesOfResult f result) nullable

def mapNamesOfAll (f : String → String) : List CType → List CType
  | [] => []
  | type :: types => type.mapNames f :: mapNamesOfAll f types

def mapNamesOfResult (f : String → String) : Option CType → Option CType
  | none => none
  | some type => some (type.mapNames f)

end

end CType

end AbiBridge
