import AbiBridge.Payload.Basic

/-!
# Decoding payloads

A record is made from the leading bytes of a buffer, with zeros where the buffer is
too short. To check the table of fields, the record is made a second time, field by
field, and the two are compared byte by byte without padding.
-/

namespace AbiBridge

/-- The first `size` bytes of a buffer, zeros following the end of it. -/
def leadingBytes (size : Nat) (buffer : List UInt8) : List UInt8 :=
  (buffer.take size).rightpad size 0

def FieldExtent.copy (span : FieldExtent) (buffer record : List UInt8) : List UInt8 :=
  record.mapIdx fun i byte => if span.covers i then buffer[i]?.getD byte else byte

structure ShortBuffer where
  payload : String
  field : String
  /-- The position after the field. -/
  stop : Nat
  /-- The length of the buffer. -/
  length : Nat
  deriving DecidableEq, Repr

def ShortBuffer.message (failure : ShortBuffer) : String :=
  "truncated callback payload " ++ failure.payload ++ ": field `" ++ failure.field
    ++ "` ends at byte " ++ toString failure.stop ++ ", buffer has " ++ toString failure.length

inductive CopyFailure where
  | truncated (failure : ShortBuffer)
  /-- The buffer has the field and the record has no room for it. -/
  | outsideRecord (field : String)
  deriving DecidableEq, Repr

namespace Payload

/-- The record made from the leading bytes of a buffer. -/
def fastRecord (payload : Payload) (buffer : List UInt8) : List UInt8 :=
  leadingBytes payload.size buffer

def copyField (payload : Payload) (buffer record : List UInt8) (span : FieldExtent) :
    Except CopyFailure (List UInt8) :=
  if buffer.length < span.stop then
    .error (.truncated ⟨payload.name, span.name, span.stop, buffer.length⟩)
  else if payload.size < span.stop then .error (.outsideRecord span.name)
  else .ok (span.copy buffer record)

/-- The record made field by field, zeros between the fields. -/
def checkedRecord (payload : Payload) (buffer : List UInt8) : Except CopyFailure (List UInt8) :=
  payload.spans.foldlM (payload.copyField buffer) (List.replicate payload.size 0)

/-- The bytes of the fields of a record in the order of the table. A field that is not
inside the record has none. -/
def fieldBytes (payload : Payload) (record : List UInt8) : List UInt8 :=
  payload.spans.flatMap fun span =>
    if span.stop ≤ record.length then (record.drop span.offset).take span.size else []

end Payload

/-- How the two ways to decode a buffer compare. -/
structure DecodeComparison where
  payload : String
  callbackId : Int
  /-- The size of the record. -/
  expectedLength : Nat
  /-- The length of the buffer. -/
  actualLength : Nat
  truncated : Option ShortBuffer
  /-- The bytes of the fields in the record that was made at once. -/
  fast : List UInt8
  /-- The bytes of the fields in the record that was made field by field, if it was. -/
  slow : List UInt8

namespace DecodeComparison

def hasOtherLength (report : DecodeComparison) : Bool :=
  report.expectedLength != report.actualLength

/-- The two records differ in a field. -/
def hasOtherBytes (report : DecodeComparison) : Bool :=
  report.truncated.isNone && report.fast != report.slow

def isClean (report : DecodeComparison) : Bool :=
  !report.hasOtherLength && report.truncated.isNone && !report.hasOtherBytes

end DecodeComparison

def hexText (bytes : List UInt8) : String :=
  String.ofList (bytes.flatMap fun byte =>
    [Nat.digitChar (byte.toNat / 16), Nat.digitChar (byte.toNat % 16)])

namespace DecodeComparison

def dump (report : DecodeComparison) (record buffer : List UInt8) : String :=
  "[vbind] layout check failed for " ++ report.payload ++ " (callback "
    ++ toString report.callbackId ++ "): expected " ++ toString report.expectedLength
    ++ " bytes, got " ++ toString report.actualLength
    ++ "\n    struct: " ++ hexText record ++ "\n   message: " ++ hexText buffer
    ++ "\n      slow: " ++ hexText report.slow ++ "\n      fast: " ++ hexText report.fast

def warnings (report : DecodeComparison) (record buffer : List UInt8) : List String :=
  if report.isClean then []
  else
    (report.truncated.map fun failure =>
      "[vbind] callback " ++ toString report.callbackId ++ ": " ++ failure.message).toList
      ++ [report.dump record buffer]

end DecodeComparison

/-- A table of fields that reaches beyond the record. -/
structure OutsideRecord where
  field : String
  deriving DecidableEq, Repr

structure Decoded where
  record : List UInt8
  warnings : List String

namespace Payload

def report (payload : Payload) (buffer slow : List UInt8) (truncated : Option ShortBuffer) :
    DecodeComparison where
  payload := payload.name
  callbackId := payload.id
  expectedLength := payload.size
  actualLength := buffer.length
  truncated
  fast := payload.fieldBytes (payload.fastRecord buffer)
  slow

/-- Decode a buffer in both ways and compare. -/
def validate (payload : Payload) (buffer : List UInt8) : Except OutsideRecord DecodeComparison :=
  match payload.checkedRecord buffer with
  | .ok record => .ok (payload.report buffer (payload.fieldBytes record) none)
  | .error (.truncated failure) => .ok (payload.report buffer [] (some failure))
  | .error (.outsideRecord field) => .error ⟨field⟩

/-- Decode a buffer. The leading bytes count, whatever the comparison says. -/
def decode (payload : Payload) (buffer : List UInt8) : Except OutsideRecord Decoded := do
  let record := payload.fastRecord buffer
  let report ← payload.validate buffer
  return ⟨record, report.warnings record buffer⟩

end Payload

/-- A callback as it is delivered: its number and the bytes of its payload. -/
structure Delivery where
  id : Int
  bytes : List UInt8

/-- The callback with the payload at an address, which may be null. -/
def Delivery.ofAddress (id : Int) (memory : Option (List UInt8)) (length : Nat) :
    Delivery :=
  ⟨id, (memory.getD []).take length⟩

/-- The payload that the callback carries, if its number is known. -/
def Delivery.payload? (callback : Delivery) (known : List Payload) : Option Payload :=
  known.find? (·.id == callback.id)

end AbiBridge
