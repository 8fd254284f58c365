import AbiBridge.CType.Basic
import AbiBridge.Name

/-!
# Written forms of a type

The canonical C spelling of a type, with array lengths after what they belong
to, and its spelling in the generated module.
-/

namespace AbiBridge

namespace CType

def constWord (isConst : Bool) : String :=
  if isConst then "const " else ""

mutual

/-- The C spelling of the type followed by `suffix`, where the lengths of an
array stand after the suffix. -/
def spell : CType → String → String
  | .primitive p, suffix => p.cName ++ suffix
  | .named name, suffix => name ++ suffix
  | .pointer target nullable isConst, suffix =>
    let sigil := if nullable then "*" else "&"
    match target with
    | .pointer .. => target.spell "" ++ constWord isConst ++ sigil ++ suffix
    | .array .. => constWord isConst ++ target.spell (" (" ++ sigil ++ ")") ++ suffix
    | _ => constWord isConst ++ target.spell "" ++ " " ++ sigil ++ suffix
  | .array element length, suffix =>
    element.spell (suffix ++ "[" ++ toString length ++ "]")
  | .zeroTerminated element, suffix => "const " ++ element.spell "" ++ " *" ++ suffix
  | .slice element isConst, suffix =>
    constWord isConst ++ element.spell "" ++ " *" ++ suffix
  | .function params result _, suffix =>
    spellResult result ++ " (*)(" ++ spellParams params ++ ")" ++ suffix

def spellParams : List CType → String
  | [] => ""
  | [type] => type.spell ""
  | type :: types => type.spell "" ++ ", " ++ spellParams types

def spellResult : Option CType → String
  | none => "void"
  | some type => type.spell ""

end

/-- The canonical C spelling of the type. -/
def cText (type : CType) : String :=
  type.spell ""

mutual

def rustText : CType → String
  | .primitive p => p.rustName
  | .named name => flatName name
  | .pointer target _ isConst =>
    (if isConst then "*const " else "*mut ") ++ target.rustText
  | .array element length => "[" ++ element.rustText ++ "; " ++ toString length ++ "]"
  | .zeroTerminated _ => "&::core::ffi::CStr"
  | .slice element isConst =>
    (if isConst then "&[" else "&mut [") ++ element.rustText ++ "]"
  | .function params result _ =>
    "Option<unsafe extern \"C\" fn(" ++ rustParams params ++ ")" ++ rustResult result ++ ">"

def rustParams : List CType → String
  | [] => ""
  | [type] => type.rustText
  | type :: types => type.rustText ++ ", " ++ rustParams types

/-- The result in the generated module; nothing is written for `void`. -/
def rustResult : Option CType → String
  | none => ""
  | some type => " -> " ++ type.rustText

end

end CType

end AbiBridge
