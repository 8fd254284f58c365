import AbiBridge.Callback.Shim
import AbiBridge.Generate.Run
import AbiBridge.Module.Render

/-!
# Outputs of a run

A run has two outputs: the text of the module, and the source of the native shim that
tells about its payloads.
-/

namespace AbiBridge

def Config.target (config : Config) : ModuleTarget where
  condition := config.condition
  packA := config.platformA.packSize
  packB := config.platformB.packSize
  marker := config.naming.shimMarker
  linkName := config.linkName
  hasRoot := config.shim.rootAccessor.isSome
  rootInterface := config.shim.rootInterface

def Config.shimTarget (config : Config) : ShimTarget where
  includes := config.shim.includes
  marker := config.naming.shimMarker
  rootAccessor := config.shim.rootAccessor
  rootInterface := config.shim.rootInterface

namespace Generated

def moduleText (generated : Generated) (config : Config) : String :=
  generated.bindings.render config.target

def shimText (generated : Generated) (config : Config) : String :=
  Shim.render config.shimTarget generated.bindings.callbacks

end Generated

end AbiBridge
