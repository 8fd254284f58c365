import AbiBridge.Config.Basic
import AbiBridge.Descriptor.Write
import AbiBridge.Text.Search
import AbiBridge.Toml.Print

/-!
# Writing configurations

The JSON form of a configuration and its form as a configuration file. Absent
settings are left out.
-/

namespace AbiBridge

open Json (ofStrings ofNat optionalMember)

def Platform.toJson (platform : Platform) : Json :=
  .object ([("name", .string platform.name)]
    ++ optionalMember "cfg" .string platform.condition
    ++ [("pack_size", ofNat platform.packSize)])

def ShimSettings.toJson (shim : ShimSettings) : Json :=
  .object ([("includes", ofStrings shim.includes)]
    ++ optionalMember "root_accessor" .string shim.rootAccessor
    ++ optionalMember "root_interface" .string shim.rootInterface
    ++ [("deny", ofStrings shim.deny)])

def Retyping.toJson (retyping : Retyping) : Json :=
  .object [("pattern", .string retyping.pattern), ("from_type", .string retyping.source),
    ("to_type", .string retyping.target)]

def Config.toJson (config : Config) : Json :=
  .object ([("inputs", .object [("api", .string config.inputs.api),
      ("layout_a", .string config.inputs.layoutA), ("layout_b", .string config.inputs.layoutB)]),
    ("outputs", .object [("rust", .string config.outputs.rust),
      ("shim", .string config.outputs.shim)]),
    ("platform_a", config.platformA.toJson), ("platform_b", config.platformB.toJson),
    ("naming", .object [("shim_prefix", .string config.naming.shimMarker),
      ("bool_field_prefix", .string config.naming.boolMarker)]),
    ("shim", config.shim.toJson),
    ("filters", .object [("excluded_callbacks", ofStrings config.filters.excludedCallbacks),
      ("skip_constants", ofStrings config.filters.skippedConstants)]),
    ("type_overrides", Json.ofDictionary .string config.typeOverrides),
    ("field_patches", Json.ofList Retyping.toJson config.retypings),
    ("extra_typedefs", Json.ofDictionary .string config.extraTypedefs),
    ("opaque_types", ofStrings config.opaqueTypes)]
    ++ optionalMember "link_name" .string config.linkName)

def Config.fileText (config : Config) : String :=
  Text.unlines
    (["# vbind-gen configuration", "# Generated by: vbind-gen gen-config", "#",
      "# Paths are relative to this file.", ""]
      ++ Toml.lines config.toJson.members)

end AbiBridge
