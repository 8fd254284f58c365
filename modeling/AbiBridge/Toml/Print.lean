import AbiBridge.Json.Basic
import AbiBridge.Toml.Read

/-!
# Writing TOML

A document starts with its plain values; its tables follow under their headers. An
array of two or more items has a line for each of them.
-/

namespace AbiBridge.Toml

def fourDigits (n : Nat) : List Char :=
  let digits := (Nat.toDigits 16 n).map Char.toUpper
  List.replicate (4 - digits.length) '0' ++ digits

def escapeChar (c : Char) : List Char :=
  match c with
  | '"' => ['\\', '"']
  | '\\' => ['\\', '\\']
  | '\n' => ['\\', 'n']
  | '\t' => ['\\', 't']
  | '\r' => ['\\', 'r']
  | c => if isControl c then ['\\', 'u'] ++ fourDigits c.toNat else [c]

def quoted (s : String) : String :=
  String.ofList ('"' :: s.toList.flatMap escapeChar ++ ['"'])

/-- A key, between quotes if it has other characters than a bare key may have. -/
def key (name : String) : String :=
  if !name.isEmpty && name.toList.all isBareKeyChar then name else quoted name

mutual

def inlineText : Json → String
  | .bool b => if b then "true" else "false"
  | .integer n => toString n
  | .string s => quoted s
  | .array items => "[" ++ inlineItems items ++ "]"
  | .object members => "\x7b " ++ inlineMembers members ++ " \x7d"
  | _ => quoted ""

def inlineItems : List Json → String
  | [] => ""
  | [item] => inlineText item
  | item :: items => inlineText item ++ ", " ++ inlineItems items

def inlineMembers : List (String × Json) → String
  | [] => ""
  | [(name, value)] => key name ++ " = " ++ inlineText value
  | (name, value) :: members =>
    key name ++ " = " ++ inlineText value ++ ", " ++ inlineMembers members

end

def memberLines (name : String) (value : Json) : List String :=
  match value with
  | .array (first :: second :: rest) =>
    (key name ++ " = [")
      :: (first :: second :: rest).map (fun item => "    " ++ inlineText item ++ ",") ++ ["]"]
  | value => [key name ++ " = " ++ inlineText value]

def bodyLines (members : List (String × Json)) : List String :=
  members.flatMap fun (name, value) => memberLines name value

/-- The tables that a member of a document holds, each with its header; a plain value
holds none. -/
def tables (name : String) (value : Json) : List (List String) :=
  match value with
  | .object members => [("[" ++ key name ++ "]") :: bodyLines members]
  | .array items =>
    items.filterMap fun item =>
      match item with
      | .object members => some (("[[" ++ key name ++ "]]") :: bodyLines members)
      | _ => none
  | _ => []

def lines (members : List (String × Json)) : List String :=
  let plain := members.filter fun (name, value) => (tables name value).isEmpty
  let blocks := members.flatMap fun (name, value) => tables name value
  [""].intercalate (if plain.isEmpty then blocks else bodyLines plain :: blocks)

end AbiBridge.Toml
