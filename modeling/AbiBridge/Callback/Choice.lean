import AbiBridge.Descriptor.Index
import AbiBridge.Module.Basic
import AbiBridge.CType.Spelling

/-!
# The set of callbacks

Which structs become variants of the union of all callbacks. A number belongs to
the first struct that can be a payload; a struct cannot if one of its fields
cannot be made from bytes.
-/

namespace AbiBridge

/-- The type cannot be made from bytes: it carries a length, or it is an interface or
an opaque type by value, if only inside an array. -/
def cannotBeBytes (index : Index) : CType → Bool
  | .slice .. | .zeroTerminated _ => true
  | .array element _ => cannotBeBytes index element
  | .named name =>
    index.kind? name == some .interface || index.kind? name == some .opaqueType
  | _ => false

inductive CallbackOutcome where
  | accepted (callback : Callback)
  | rejected (payload : String) (issue : Issue)

def StructItem.toCallback (item : StructItem) (id : Int) (deny : List String) : Callback where
  id
  payload := item.name
  variant := variantFor item.name
  fields := item.fields.map (·.name)
  inShim := !deny.contains item.name

/-- The outcomes for structs, `taken` holding the numbers that are given away and to
which payloads. -/
def decideFrom (index : Index) (deny : List String) (taken : List (Int × String)) :
    List StructItem → List CallbackOutcome
  | [] => []
  | item :: items =>
    match item.callbackId with
    | none => decideFrom index deny taken items
    | some id =>
      match taken.lookup id with
      | some first =>
        .rejected item.name (.callbackIdTaken id first item.name)
          :: decideFrom index deny taken items
      | none =>
        match item.fields.find? fun field => cannotBeBytes index field.type with
        | some field =>
          .rejected item.name (.payloadNotFromBytes item.name field.name field.type.cText)
            :: decideFrom index deny taken items
        | none =>
          .accepted (item.toCallback id deny)
            :: decideFrom index deny ((id, item.name) :: taken) items

structure CallbackChoice where
  callbacks : List Callback
  rejected : List EntityIssue

def CallbackOutcome.callback? : CallbackOutcome → Option Callback
  | accepted callback => some callback
  | rejected .. => none

def CallbackOutcome.rejection? : CallbackOutcome → Option EntityIssue
  | accepted _ => none
  | rejected payload issue => some ⟨payload, issue⟩

/-- Decide on structs in their order. Interface pointers in the types of their fields
must not have become handles yet. -/
def chooseCallbacks (items : List StructItem) (index : Index) (deny : List String) :
    CallbackChoice :=
  let outcomes := decideFrom index deny [] items
  ⟨outcomes.filterMap (·.callback?), outcomes.filterMap (·.rejection?)⟩

end AbiBridge
