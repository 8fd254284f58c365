/-!
# JSON documents

A document holds what can be read from a text, up to the place where the text
stops being JSON. That place is the value `fault`, and nothing follows it. A
reader that walks a document in order therefore meets the first problem first,
whether it lies in the text or in the shape of the value.
-/

namespace AbiBridge

/-- A JSON value, possibly broken off. -/
inductive Json where
  | null
  | bool (b : Bool)
  /-- An integer of 64 bits, signed or unsigned, written without fraction or exponent. -/
  | integer (n : Int)
  /-- Any other number. -/
  | real
  | string (s : String)
  | array (items : List Json)
  | object (members : List (String × Json))
  /-- A token that is spelled correctly and stands for no value: a string with a
  lone surrogate, or a number beyond all bounds. It can be skipped, not read. -/
  | unreadable
  /-- From here on the text is not JSON. -/
  | fault
  deriving Inhabited

namespace Json

mutual

/-- The text is JSON to the end of the value. -/
def isComplete : Json → Bool
  | .array items => allComplete items
  | .object members => membersComplete members
  | .fault => false
  | _ => true

def allComplete : List Json → Bool
  | [] => true
  | item :: items => item.isComplete && allComplete items

def membersComplete : List (String × Json) → Bool
  | [] => true
  | (_, value) :: members => value.isComplete && membersComplete members

end

mutual

def isReadable : Json → Bool
  | .array items => allReadable items
  | .object members => membersReadable members
  | .fault | .unreadable => false
  | _ => true

def allReadable : List Json → Bool
  | [] => true
  | item :: items => item.isReadable && allReadable items

def membersReadable : List (String × Json) → Bool
  | [] => true
  | (_, value) :: members => value.isReadable && membersReadable members

end

/-- The member of an object with the given name; of several the last. -/
def get? (name : String) : Json → Option Json
  | .object members => members.reverse.lookup name
  | _ => none

def items : Json → List Json
  | .array items => items
  | _ => []

def members : Json → List (String × Json)
  | .object members => members
  | _ => []

def string? : Json → Option String
  | .string s => some s
  | _ => none

def integer? : Json → Option Int
  | .integer n => some n
  | _ => none

def bool? : Json → Option Bool
  | .bool b => some b
  | _ => none

def isNull : Json → Bool
  | .null => true
  | _ => false

end Json

end AbiBridge
