import AbiBridge.Json.Basic

/-!
# Writing JSON

A value is written on one line without spaces. What is no JSON value is written
as `null`.
-/

namespace AbiBridge.Json

def hexDigit (n : Nat) : Char :=
  if n < 10 then Char.ofNat ('0'.toNat + n) else Char.ofNat ('a'.toNat + (n - 10))

def escape (c : Char) : List Char :=
  if c == '"' then ['\\', '"']
  else if c == '\\' then ['\\', '\\']
  else if c.toNat < 0x20 then
    ['\\', 'u', '0', '0', hexDigit (c.toNat / 16), hexDigit (c.toNat % 16)]
  else [c]

def quoted (s : String) : String :=
  "\"" ++ String.ofList (s.toList.flatMap escape) ++ "\""

mutual

def print : Json → String
  | .bool b => if b then "true" else "false"
  | .integer n => toString n
  | .string s => quoted s
  | .array items => "[" ++ printItems items ++ "]"
  | .object members => "\x7b" ++ printMembers members ++ "\x7d"
  | _ => "null"

def printItems : List Json → String
  | [] => ""
  | [item] => item.print
  | item :: items => item.print ++ "," ++ printItems items

def printMembers : List (String × Json) → String
  | [] => ""
  | [(name, value)] => quoted name ++ ":" ++ value.print
  | (name, value) :: members => quoted name ++ ":" ++ value.print ++ "," ++ printMembers members

end

end AbiBridge.Json
