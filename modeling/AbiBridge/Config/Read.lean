import AbiBridge.Config.Basic
import AbiBridge.Json.Decode
import AbiBridge.Toml.Read

/-!
# Reading configurations

A configuration is read from a table of named settings.
-/

namespace AbiBridge

open Json (Reader readRecord readString readList readOption readSize readDictionary)

namespace Config

def readInputs : Reader InputPaths :=
  readRecord {}
    [.optional "api" readString fun r x => { r with api := x },
     .optional "layout_a" readString fun r x => { r with layoutA := x },
     .optional "layout_b" readString fun r x => { r with layoutB := x }]

def readOutputs : Reader OutputPaths :=
  readRecord {}
    [.optional "rust" readString fun r x => { r with rust := x },
     .optional "shim" readString fun r x => { r with shim := x }]

def readPlatform : Reader Platform :=
  readRecord { name := "", packSize := 0 }
    [.required "name" readString fun r x => { r with name := x },
     .optional "cfg" (readOption readString) fun r x => { r with condition := x },
     .required "pack_size" readSize fun r x => { r with packSize := x }]

def readNaming : Reader Naming :=
  readRecord {}
    [.optional "shim_prefix" readString fun r x => { r with shimMarker := x },
     .optional "bool_field_prefix" readString fun r x => { r with boolMarker := x }]

def readShim : Reader ShimSettings :=
  readRecord {}
    [.optional "includes" (readList readString) fun r x => { r with includes := x },
     .optional "root_accessor" (readOption readString) fun r x => { r with rootAccessor := x },
     .optional "root_interface" (readOption readString) fun r x => { r with rootInterface := x },
     .optional "deny" (readList readString) fun r x => { r with deny := x }]

def readFilters : Reader Filters :=
  readRecord {}
    [.optional "excluded_callbacks" (readList readString) fun r x =>
       { r with excludedCallbacks := x },
     .optional "skip_constants" (readList readString) fun r x => { r with skippedConstants := x }]

def readRetyping : Reader Retyping :=
  readRecord { pattern := "", source := "", target := "" }
    [.required "pattern" readString fun r x => { r with pattern := x },
     .required "from_type" readString fun r x => { r with source := x },
     .required "to_type" readString fun r x => { r with target := x }]

def read : Reader Config :=
  readRecord {}
    [.optional "inputs" readInputs fun r x => { r with inputs := x },
     .optional "outputs" readOutputs fun r x => { r with outputs := x },
     .optional "platform_a" readPlatform fun r x => { r with platformA := x },
     .optional "platform_b" readPlatform fun r x => { r with platformB := x },
     .optional "naming" readNaming fun r x => { r with naming := x },
     .optional "shim" readShim fun r x => { r with shim := x },
     .optional "filters" readFilters fun r x => { r with filters := x },
     .optional "type_overrides" (readDictionary readString) fun r x =>
       { r with typeOverrides := x },
     .optional "field_patches" (readList readRetyping) fun r x => { r with retypings := x },
     .optional "extra_typedefs" (readDictionary readString) fun r x =>
       { r with extraTypedefs := x },
     .optional "opaque_types" (readList readString) fun r x => { r with opaqueTypes := x },
     .optional "link_name" (readOption readString) fun r x => { r with linkName := x }]

def ofText? (text : String) : Option Config :=
  (Toml.ofText? text).bind fun table => (read .table table).toOption

end Config

end AbiBridge
