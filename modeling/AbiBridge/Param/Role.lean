import AbiBridge.CType.Basic
import AbiBridge.Param.BufferLabel

/-!
# Roles of parameters

A buffer pointer and the parameter that counts its elements become one slice in
the signature of a wrapper. Parameters are looked at from left to right; a buffer
takes the first count that is not taken yet.
-/

namespace AbiBridge

/-- What a parameter is for. Other parameters are referred to by position. -/
inductive Role where
  | plain
  /-- A buffer, with the parameter that counts its elements. -/
  | head (count : Option Nat) (zeroTerminated : Bool)
  /-- The count of a buffer. -/
  | count (head : Nat)
  /-- The count of a zero-terminated buffer. -/
  | elided (head : Nat)
  deriving DecidableEq, Repr

/-- The parameter is computed and does not occur in the signature of a wrapper. -/
def Role.isComputed : Role → Bool
  | count _ | elided _ => true
  | _ => false

structure RawParam where
  name : String
  type : CType
  /-- The parameter that is declared to hold the count of this buffer. -/
  countName : Option String := none
  /-- The integer type that the parameter reduces to; others are no counts. -/
  countType : Option Primitive := none

structure Param where
  name : String
  type : CType
  role : Role
  countType : Option Primitive
  /-- The type of the parameter in the signature of a wrapper, if it occurs there. -/
  wrapperType? : Option CType

def isCountOf (param : RawParam) (buffer : BufferLabel) (candidate : RawParam) : Bool :=
  candidate.countType.isSome
    && (param.countName == some candidate.name || namesCountOf buffer.logical candidate.name)

/-- The first count for the buffer at position `i` that is not taken. -/
def countFor? (params : List RawParam) (taken : List Nat) (i : Nat) (param : RawParam)
    (buffer : BufferLabel) : Option Nat :=
  (params.zipIdx.find? fun (candidate, j) =>
    j != i && !taken.contains j && isCountOf param buffer candidate).map (·.2)

/-- The roles given so far, and the positions of the counts among them. -/
structure Roles where
  roles : List Role
  taken : List Nat

def Roles.assign (params : List RawParam) (state : Roles) (param : RawParam) (i : Nat) :
    Roles :=
  if state.roles[i]? ≠ some .plain ∨ !param.type.isBuffer then state
  else
    match BufferLabel.ofName? param.name with
    | none => state
    | some buffer =>
      let zeroTerminated := buffer.isZeroTerminated
      match countFor? params state.taken i param buffer with
      | some j =>
        { roles := (state.roles.set i (.head (some j) zeroTerminated)).set j
            (if zeroTerminated then .elided i else .count i)
          taken := j :: state.taken }
      | none =>
        if zeroTerminated then { state with roles := state.roles.set i (.head none true) }
        else state

def rolesOf (params : List RawParam) : List Role :=
  let start : Roles := ⟨params.map fun _ => .plain, []⟩
  (params.zipIdx.foldl (fun state (param, i) => Roles.assign params state param i) start).roles

/-- The type that a wrapper takes in place of a buffer pointer. A zero-terminated
run of constant bytes needs no count; another buffer without one has no such type. -/
def bufferType? (type : CType) (hasCount zeroTerminated : Bool) : Option CType :=
  match type with
  | .pointer target _ isConst =>
    if zeroTerminated ∧ isConst ∧ target.primitive? = some .u8 then
      some (.zeroTerminated target)
    else if zeroTerminated ∧ !hasCount then none
    else some (.slice target isConst)
  | _ => none

/-- A parameter with the given role, which has no type in a wrapper yet. -/
def RawParam.withRole (param : RawParam) (role : Role) : Param :=
  { name := param.name, type := param.type, role, countType := param.countType
    wrapperType? := none }

/-- The parameter as it is declared, in a wrapper too. -/
def Param.asDeclared (param : Param) : Param :=
  { param with role := .plain, wrapperType? := some param.type }

/-- Find the type that the parameter at position `i` has in a wrapper. A head without such a
type is left as it is declared, and so is its count. -/
def Param.offer (params : List Param) (i : Nat) : List Param :=
  match params[i]? with
  | none => params
  | some param =>
    match param.role with
    | .plain => params.set i param.asDeclared
    | .count _ | .elided _ => params.set i { param with wrapperType? := none }
    | .head count zeroTerminated =>
      match bufferType? param.type count.isSome zeroTerminated with
      | some type => params.set i { param with wrapperType? := some type }
      | none =>
        let params := params.set i param.asDeclared
        match count with
        | none => params
        | some j => params.modify j Param.asDeclared

def Param.ofRaw (params : List RawParam) : List Param :=
  let given := params.zipWith RawParam.withRole (rolesOf params)
  (List.range given.length).foldl Param.offer given

end AbiBridge
