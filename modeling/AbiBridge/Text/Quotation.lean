/-!
# Texts inside messages

A message shows a text that a user wrote between quotes, on one line: quotes,
backslashes and control characters are escaped.
-/

namespace AbiBridge.Text

def shortEscape? : Char → Option Char
  | '"' => some '"'
  | '\\' => some '\\'
  | '\n' => some 'n'
  | '\r' => some 'r'
  | '\t' => some 't'
  | '\x00' => some '0'
  | _ => none

def shown (c : Char) : List Char :=
  match shortEscape? c with
  | some letter => ['\\', letter]
  | none =>
    if c.toNat < 0x20 ∨ c.toNat = 0x7f then
      ['\\', 'u', '\x7b'] ++ Nat.toDigits 16 c.toNat ++ ['\x7d']
    else [c]

def quotation (text : String) : String :=
  String.ofList ('"' :: text.toList.flatMap shown ++ ['"'])

end AbiBridge.Text
