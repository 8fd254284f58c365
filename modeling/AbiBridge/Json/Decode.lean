import AbiBridge.Dictionary
import AbiBridge.Json.Scan
import AbiBridge.Word

/-!
# Reading records from documents

A reader turns a document into a value of a type, or says what is wrong with it.
A record is read from an object, whose members are taken in their order, or from
an array of its fields in the order of their declaration. The first problem that
is met counts.
-/

namespace AbiBridge.Json

/-- How a document was given: as text, as a value that was read before, or as a
table of a configuration file. They differ where an array has more items than the
record has fields. -/
inductive Form where
  | text
  | value
  | table
  deriving DecidableEq, Repr

inductive ShapeError where
  | missingField (name : String)
  | duplicateField (name : String)
  | invalidType
  | invalidValue
  | invalidLength (length : Nat)
  | noEnumeratorValue
  deriving DecidableEq, Repr

def ShapeError.message : ShapeError → String
  | missingField name => "missing field `" ++ name ++ "`"
  | duplicateField name => "duplicate field `" ++ name ++ "`"
  | invalidType => "invalid type"
  | invalidValue => "invalid value"
  | invalidLength length => "invalid length " ++ toString length
  | noEnumeratorValue => "data did not match any variant of untagged enum RawValue"

inductive ReadError where
  | notJson
  | shape (error : ShapeError)
  deriving DecidableEq, Repr

abbrev Reader (α : Type) := Form → Json → Except ReadError α

def mismatch {α : Type} : Json → Except ReadError α
  | .fault | .unreadable => .error .notJson
  | _ => .error (.shape .invalidType)

def readString : Reader String
  | _, .string s => .ok s
  | _, json => mismatch json

def readInteger (inRange : Int → Bool) : Reader Int
  | _, .integer n => if inRange n then .ok n else .error (.shape .invalidValue)
  | _, json => mismatch json

def readSize : Reader Nat := fun form json =>
  (readInteger (Word.isUnsigned 64) form json).map Int.toNat

def readInt32 : Reader Int :=
  readInteger (Word.isSigned 32)

def readList {α : Type} (reader : Reader α) : Reader (List α)
  | form, .array items => items.mapM (reader form)
  | _, json => mismatch json

def readOption {α : Type} (reader : Reader α) : Reader (Option α)
  | _, .null => .ok none
  | form, json => (reader form json).map some

/-- Read the members of a dictionary into it; a later binding of a name replaces
an earlier one. -/
def readBindings {α : Type} (reader : Reader α) (form : Form) (found : Dictionary α) :
    List (String × Json) → Except ReadError (Dictionary α)
  | [] => .ok found
  | (name, json) :: members => do
    let value ← reader form json
    readBindings reader form (found.insert name value) members

def readDictionary {α : Type} (reader : Reader α) : Reader (Dictionary α)
  | form, .object members => readBindings reader form .empty members
  | _, json => mismatch json

/-- A field of a record that is under construction. -/
structure Field (α : Type) where
  name : String
  /-- The record cannot do without the field. -/
  mandatory : Bool
  /-- Read the field into the record. -/
  read : Form → α → Json → Except ReadError α

def Field.required {α β : Type} (name : String) (reader : Reader β) (set : α → β → α) :
    Field α :=
  ⟨name, true, fun form record json => (reader form json).map (set record)⟩

/-- A field that keeps its default value when it is absent. -/
def Field.optional {α β : Type} (name : String) (reader : Reader β) (set : α → β → α) :
    Field α :=
  ⟨name, false, fun form record json => (reader form json).map (set record)⟩

/-- Read members into a record, `seen` being the fields read so far. Members that
are no fields are skipped. -/
def readMembers {α : Type} (fields : List (Field α)) (form : Form) (record : α)
    (seen : List String) : List (String × Json) → Except ReadError (α × List String)
  | [] => .ok (record, seen)
  | (name, json) :: members =>
    match fields.find? (·.name == name) with
    | none =>
      if json.isComplete then readMembers fields form record seen members else .error .notJson
    | some field =>
      if name ∈ seen then .error (.shape (.duplicateField name))
      else do
        let record ← field.read form record json
        readMembers fields form record (name :: seen) members

/-- Read the items of an array into the fields of a record, from the one at `index`
on. Fields at the end may be missing if they have defaults. -/
def readPositions {α : Type} (form : Form) (record : α) (index : Nat) :
    List (Field α) → List Json → Except ReadError α
  | [], [] => .ok record
  | [], extra =>
    match form with
    | .text => .error .notJson
    | .value => .error (.shape (.invalidLength (index + extra.length)))
    | .table => .ok record
  | field :: fields, [] =>
    if field.mandatory then .error (.shape (.invalidLength index))
    else readPositions form record (index + 1) fields []
  | field :: fields, json :: items => do
    let record ← field.read form record json
    readPositions form record (index + 1) fields items

/-- A record; `blank` holds the values of absent fields. -/
def readRecord {α : Type} (blank : α) (fields : List (Field α)) : Reader α
  | form, .object members => do
    let (record, seen) ← readMembers fields form blank [] members
    match fields.find? fun field => field.mandatory && !seen.contains field.name with
    | some field => .error (.shape (.missingField field.name))
    | none => .ok record
  | form, .array items => readPositions form blank 0 fields items
  | _, json => mismatch json

mutual

/-- The value with the members of every object in the order of their names, the
last of several with one name. -/
def canonical : Json → Json
  | .array items => .array (canonicalItems items)
  | .object members => .object (Dictionary.ofList (canonicalMembers members)).entries
  | json => json

def canonicalItems : List Json → List Json
  | [] => []
  | item :: items => item.canonical :: canonicalItems items

def canonicalMembers : List (String × Json) → List (String × Json)
  | [] => []
  | (name, value) :: members => (name, value.canonical) :: canonicalMembers members

end

/-- Read a value from a text that must hold nothing else. -/
def decodeText {α : Type} (reader : Reader α) (text : String) : Except ReadError α := do
  let reading := Reading.ofText text
  let value ← reader .text reading.document
  if reading.ends then .ok value else .error .notJson

def decodeValue {α : Type} (reader : Reader α) (json : Json) : Except ReadError α :=
  reader .value json.canonical

end AbiBridge.Json
