import AbiBridge.Name
import AbiBridge.Payload.Scalar

/-!
# Payloads

The struct that comes with a callback: its size, its alignment, its fields, and the
table of the bytes that the fields take, by which a buffer is checked.
-/

namespace AbiBridge

structure FieldExtent where
  name : String
  offset : Nat
  size : Nat
  /-- The declared alignment, if a report gave one. -/
  align : Option Nat
  deriving DecidableEq, Repr

/-- The position after the last byte of the field. -/
def FieldExtent.stop (span : FieldExtent) : Nat :=
  span.offset + span.size

def FieldExtent.covers (span : FieldExtent) (i : Nat) : Bool :=
  span.offset ≤ i && i < span.stop

structure PayloadMember where
  name : String
  offset : Nat
  type : DataType
  deriving DecidableEq, Repr

structure Payload where
  id : Int
  name : String
  size : Nat
  align : Nat
  members : List PayloadMember
  /-- The table of fields. -/
  spans : List FieldExtent
  deriving DecidableEq, Repr

namespace Payload

def variant (payload : Payload) : String :=
  variantFor payload.name

def read (payload : Payload) (record : List UInt8) : List (String × DataValue) :=
  payload.members.map fun member => (member.name, member.type.read (record.drop member.offset))

/-- Every field of the table lies inside the record. -/
def FitsTable (payload : Payload) : Prop :=
  ∀ span ∈ payload.spans, span.stop ≤ payload.size

instance (payload : Payload) : Decidable payload.FitsTable :=
  inferInstanceAs (Decidable (∀ span ∈ payload.spans, span.stop ≤ payload.size))

end Payload

end AbiBridge
