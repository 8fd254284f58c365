import AbiBridge.Module.Basic

/-!
# Targets of a module

What a module is written for: the condition that tells its two platforms apart, how
they pack structs, and the native code that it is linked with.
-/

namespace AbiBridge

structure ModuleTarget where
  /-- The condition that selects platform A. -/
  condition : String
  packA : Nat
  packB : Nat
  /-- What the symbols of the shim start with. -/
  marker : String
  linkName : Option String
  /-- The shim has a function that returns the root object. -/
  hasRoot : Bool
  /-- The interface of the root object. -/
  rootInterface : Option String

namespace ModuleTarget

def packSizeName : String := "STRUCT_PLATFORM_PACK_SIZE"

/-- An expression that chooses between the values on A and on B. -/
def choice (target : ModuleTarget) (a b : Nat) : String :=
  "if cfg!(" ++ target.condition ++ ") \x7b " ++ toString a ++ " \x7d else \x7b " ++ toString b
    ++ " \x7d"

def valueText (target : ModuleTarget) : PlatformNumber → String
  | .literal n => toString n
  | .conditional a b => target.choice a b
  | .packSize => packSizeName

/-- The representation of a struct that is packed to the given alignment. -/
def packed (align : Nat) : String :=
  "repr(C, packed(" ++ toString align ++ "))"

/-- The attributes that give a struct its alignment. -/
def packing (target : ModuleTarget) (align : PlatformNumber) : List String :=
  match align with
  | .literal n => ["#[" ++ packed n ++ "]"]
  | _ =>
    let (a, b) := align.split target.packA target.packB
    ["#[cfg_attr(" ++ target.condition ++ ", " ++ packed a ++ ")]",
     "#[cfg_attr(not(" ++ target.condition ++ "), " ++ packed b ++ ")]"]

end ModuleTarget

end AbiBridge
