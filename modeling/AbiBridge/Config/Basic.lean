import AbiBridge.Layout.Struct

/-!
# Configuration

What a user decides about a run: where the inputs and outputs are, the two
platforms, the naming conventions of the library, and which entities are
retyped, added or left out. Everything has a default.
-/

namespace AbiBridge

structure InputPaths where
  api : String := "steam_api.json"
  layoutA : String := "align-info-windows.json"
  layoutB : String := "align-info-macos.json"
  deriving DecidableEq, Inhabited

structure OutputPaths where
  rust : String := "src/bindings.rs"
  shim : String := "src/shim.cpp"
  deriving DecidableEq, Inhabited

structure Naming where
  /-- What the symbols of the shim start with. -/
  shimMarker : String := "vbind"
  /-- What the names of boolean fields start with. -/
  boolMarker : String := "m_b"
  deriving DecidableEq, Inhabited

structure ShimSettings where
  includes : List String := []
  /-- The native function that returns the root object. -/
  rootAccessor : Option String := none
  /-- The interface of the root object. -/
  rootInterface : Option String := none
  /-- The callback structs that the shim must not mention. -/
  deny : List String := []
  deriving DecidableEq, Inhabited

structure Filters where
  excludedCallbacks : List String := []
  skippedConstants : List String := []
  deriving DecidableEq, Inhabited

/-- Fields of type `source` whose name matches the pattern get the type `target`. -/
structure Retyping where
  pattern : String
  source : String
  target : String
  deriving DecidableEq, Inhabited

structure Config where
  inputs : InputPaths := {}
  outputs : OutputPaths := {}
  platformA : Platform := { name := "windows", condition := some "windows", packSize := 8 }
  platformB : Platform := { name := "unix", packSize := 4 }
  naming : Naming := {}
  shim : ShimSettings := {}
  filters : Filters := {}
  /-- Spellings of types that are replaced before they are read. -/
  typeOverrides : Dictionary String := .empty
  retypings : List Retyping :=
    [⟨"(?i)steamid", "uint64", "CSteamID"⟩, ⟨"(?i)gameid", "uint64", "CGameID"⟩]
  /-- Typedefs that the descriptor uses and does not declare. -/
  extraTypedefs : Dictionary String := .empty
  /-- Types that only occur behind pointers. -/
  opaqueTypes : List String := []
  /-- The native library to link against. -/
  linkName : Option String := none
  deriving Inhabited

namespace Config

/-- The condition that selects platform A. -/
def condition (config : Config) : String :=
  config.platformA.condition.getD "windows"

def sample : Config where
  shim := {
    includes := ["steam_api.h", "steam_gameserver.h"]
    rootAccessor := some "SteamClient"
    rootInterface := some "ISteamClient"
    deny := ["SteamNetworkingFakeIPResult_t"] }
  filters := {
    excludedCallbacks := ["PS3TrophiesInstalled_t", "GSStatsUnloaded_t"]
    skippedConstants := ["k_SteamDatagramPOPID_dev", "k_SteamItemInstanceIDInvalid"] }
  typeOverrides := .ofList
    [("RequestPlayersForGameResultCallback_t::PlayerAcceptState_t", "int"),
     ("const ScePadTriggerEffectParam *", "const void *")]
  extraTypedefs := .ofList
    [("CSteamID", "uint64_t"), ("CGameID", "uint64_t"),
     ("SteamAPIWarningMessageHook_t", "void (*)(int, const char *)")]
  opaqueTypes :=
    ["SteamDatagramRelayAuthTicket", "ISteamNetworkingConnectionSignaling",
     "ISteamNetworkingSignalingRecvContext"]
  linkName := some "steam_api"

end Config

end AbiBridge
