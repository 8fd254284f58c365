import AbiBridge.Config.Basic
import AbiBridge.Pattern.Language
import AbiBridge.Text.Blank
import AbiBridge.Text.WordChar
import AbiBridge.Word

/-!
# Valid configurations

What a configuration must satisfy before it is used, and the wording of the first
fault that is found.
-/

namespace AbiBridge

inductive ConfigFault where
  | emptyPlatformName (platform : String)
  | packSizeNotPowerOfTwo (platform : String) (packSize : Nat)
  | emptyCondition
  | conditionOfComplement
  | invalidShimMarker (marker : String)
  | emptyTarget (pattern : String)
  | invalidPattern (pattern : String)
  | invalidTypeName (name : String)
  deriving DecidableEq

/-- The wording of a fault, up to the first line break that it has of its own. -/
def ConfigFault.message : ConfigFault → String
  | emptyPlatformName platform => platform ++ " has an empty name"
  | packSizeNotPowerOfTwo platform packSize =>
    platform ++ " pack_size " ++ toString packSize ++ " is not a power of two"
  | emptyCondition => "platform_a has an empty cfg"
  | conditionOfComplement => "platform_b is the complement of platform_a and takes no cfg"
  | invalidShimMarker marker => "shim_prefix `" ++ marker ++ "` is not a C identifier"
  | emptyTarget pattern => "field patch `" ++ pattern ++ "` has an empty to_type"
  | invalidPattern pattern => "field patch `" ++ pattern ++ "`: regex parse error:"
  | invalidTypeName name => "`" ++ name ++ "` is not a valid type name"

def isPowerOfTwo (n : Nat) : Bool :=
  n != 0 && Word.count n.log2 == n

def isCIdentifier (name : String) : Bool :=
  Text.isPlainIdentifier name.toList

def Platform.fault? (label : String) (platform : Platform) : Option ConfigFault :=
  if (Text.trim platform.name.toList).isEmpty then some (.emptyPlatformName label)
  else if isPowerOfTwo platform.packSize then none
  else some (.packSizeNotPowerOfTwo label platform.packSize)

def Retyping.fault? (patterns : PatternLanguage) (retyping : Retyping) : Option ConfigFault :=
  if retyping.target.isEmpty then some (.emptyTarget retyping.pattern)
  else if (patterns.read? retyping.pattern).isNone then some (.invalidPattern retyping.pattern)
  else none

namespace Config

def fault? (config : Config) (patterns : PatternLanguage) : Option ConfigFault :=
  config.platformA.fault? "platform_a"
  <|> config.platformB.fault? "platform_b"
  <|> (if (Text.trim config.condition.toList).isEmpty then some .emptyCondition else none)
  <|> (if config.platformB.condition.isSome then some .conditionOfComplement else none)
  <|> (if isCIdentifier config.naming.shimMarker then none
        else some (.invalidShimMarker config.naming.shimMarker))
  <|> config.retypings.findSome? (Retyping.fault? patterns)
  <|> ((config.extraTypedefs.names ++ config.opaqueTypes).find? fun name =>
        !isCIdentifier name).map .invalidTypeName

end Config

end AbiBridge
