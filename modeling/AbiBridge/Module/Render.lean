import AbiBridge.Module.Item
import AbiBridge.Text.Search

/-!
# The text of a module

The sections of a module in their fixed order. A section without items is left out,
save those of the callbacks and of the native shim.
-/

namespace AbiBridge

namespace Bindings

def header : List String :=
  ["// Generated by vbind-gen. Do not edit.", "", "#![allow(", "    non_camel_case_types,",
   "    non_snake_case,", "    non_upper_case_globals,", "    dead_code,", "    deprecated,",
   "    clippy::all", ")]"]

def titled (title : String) (body : List String) : List String :=
  ["", "// " ++ title, ""] ++ body

def lineSection (title : String) (body : List String) : List String :=
  if body.isEmpty then [] else titled title body

def blockSection (title : String) (blocks : List (List String)) : List String :=
  if blocks.isEmpty then [] else titled title ([""].intercalate blocks)

/-- The constant for the packing and the types that the configuration adds. -/
def preludeSection (bindings : Bindings) (target : ModuleTarget) : List String :=
  titled "prelude"
    (("pub const " ++ ModuleTarget.packSizeName ++ ": usize = "
        ++ target.choice target.packA target.packB ++ ";")
      :: bindings.extraTypedefs.map TypedefItem.line
      ++ bindings.opaqueTypes.flatMap opaqueLines)

/-- The first entry for each name, `seen` holding the names that are taken. -/
def firstOfEach (seen : List String) : List (String × String) → List (String × String)
  | [] => []
  | (name, line) :: entries =>
    if seen.contains name then firstOfEach seen entries
    else (name, line) :: firstOfEach (name :: seen) entries

def accessorDeclaration (item : InterfaceItem) (accessor : AccessorDecl) : String × String :=
  (accessor.flatName, "    pub fn " ++ accessor.flatName ++ "() -> " ++ item.name ++ ";")

def flatFunctions (bindings : Bindings) : List (String × String) :=
  firstOfEach []
    (bindings.methods.map (fun method => (method.flatName, method.flatLine))
      ++ bindings.interfaces.flatMap fun item => item.accessors.map (accessorDeclaration item))

def flatSection (bindings : Bindings) (target : ModuleTarget) : List String :=
  let functions := bindings.flatFunctions
  if functions.isEmpty then []
  else
    titled "flat functions"
      ((target.linkName.map fun name => "#[link(name = \"" ++ name ++ "\")]").toList
        ++ braced "extern \"C\"" (functions.map (·.2)))

def variantLine (callback : Callback) : String :=
  "    " ++ callback.variant ++ "(" ++ callback.payload ++ "),"

def decodeCase (callback : Callback) : String :=
  "            " ++ toString callback.id ++ " => Some(Self::" ++ callback.variant
    ++ "(::vbind::decode_payload(bytes))),"

def idCase (callback : Callback) : String :=
  "            Self::" ++ callback.variant ++ "(_) => " ++ toString callback.id ++ ","

def decodeBody (callbacks : List Callback) : List String :=
  if callbacks.isEmpty then ["        let _ = (id, bytes);", "        None"]
  else
    ["        match id \x7b"] ++ callbacks.map decodeCase
      ++ ["            _ => None,", "        \x7d"]

def idBody (callbacks : List Callback) : List String :=
  if callbacks.isEmpty then ["        match *self \x7b\x7d"]
  else ["        match self \x7b"] ++ callbacks.map idCase ++ ["        \x7d"]

def callbackSection (bindings : Bindings) : List String :=
  let callbacks := bindings.callbacks
  titled "callbacks"
    (["#[derive(Clone, Copy, Debug)]"]
      ++ braced "pub enum CallbackUnion" (callbacks.map variantLine)
      ++ [""]
      ++ braced "impl ::vbind::CallbackSet for CallbackUnion"
        (["    fn decode(id: i32, bytes: &[u8]) -> Option<Self> \x7b"] ++ decodeBody callbacks
          ++ ["    \x7d", "", "    fn callback_id(&self) -> i32 \x7b"] ++ idBody callbacks
          ++ ["    \x7d"]))

def shimFunctions (target : ModuleTarget) : List String :=
  let root := target.rootInterface.getD "*mut ::core::ffi::c_void"
  (if target.hasRoot then
    ["    pub fn " ++ target.marker ++ "_root_client() -> " ++ root ++ ";"]
    else [])
    ++ ["_callback_size(id: i32)", "_callback_align(id: i32)",
        "_callback_field_size(id: i32, field: i32)",
        "_callback_field_align(id: i32, field: i32)"].map
      fun signature => "    fn " ++ target.marker ++ signature ++ " -> i32;"

/-- A call of a function of the shim, with zero for a negative answer. -/
def shimCall (target : ModuleTarget) (call : String) : String :=
  "        usize::try_from(unsafe \x7b " ++ target.marker ++ call ++ " \x7d).unwrap_or(0)"

def payloadQuestion (target : ModuleTarget) (name symbol : String) : List String :=
  ["    fn " ++ name ++ "(&self, callback_id: i32) -> usize \x7b",
   shimCall target (symbol ++ "(callback_id)"), "    \x7d"]

def fieldQuestion (target : ModuleTarget) (name symbol : String) : List String :=
  ["    fn " ++ name ++ "(&self, callback_id: i32, field: usize) -> usize \x7b",
   "        let Ok(field) = i32::try_from(field) else \x7b", "            return 0;",
   "        \x7d;", shimCall target (symbol ++ "(callback_id, field)"), "    \x7d"]

/-- The body of the function that checks every payload against the shim. -/
def checkBody (callbacks : List Callback) : List String :=
  if callbacks.isEmpty then ["    Vec::new()"]
  else
    ["    let shim = NativeShim;", "    let mut found = Vec::new();"]
      ++ callbacks.map (fun callback =>
        "    found.extend(::vbind::cross_check::<" ++ callback.payload ++ ">(&shim));")
      ++ ["    found"]

def shimSection (bindings : Bindings) (target : ModuleTarget) : List String :=
  titled "native shim"
    (braced "extern \"C\"" (shimFunctions target)
      ++ ["", "/// Layout facts reported by the compiled native shim.",
          "#[derive(Clone, Copy, Debug, Default)]", "pub struct NativeShim;", ""]
      ++ braced "impl ::vbind::NativeIntrospection for NativeShim"
        ([""].intercalate
          [payloadQuestion target "payload_size" "_callback_size",
           payloadQuestion target "payload_align" "_callback_align",
           fieldQuestion target "field_size" "_callback_field_size",
           fieldQuestion target "field_align" "_callback_field_align"])
      ++ ["", "/// Cross-check every callback payload against the native shim."]
      ++ braced "pub fn cross_check_all() -> Vec<::vbind::LayoutDiscrepancy>"
        (checkBody bindings.callbacks))

def lines (bindings : Bindings) (target : ModuleTarget) : List String :=
  header
    ++ bindings.preludeSection target
    ++ lineSection "typedefs" (bindings.typedefs.map TypedefItem.line)
    ++ blockSection "enums" (bindings.enums.map EnumItem.lines)
    ++ lineSection "constants" (bindings.consts.map (ConstItem.line ""))
    ++ blockSection "callback structs" (bindings.callbackStructs.map (StructItem.lines · target))
    ++ blockSection "structs" (bindings.structs.map (StructItem.lines · target))
    ++ blockSection "interfaces" (bindings.interfaces.map InterfaceItem.lines)
    ++ bindings.flatSection target
    ++ bindings.callbackSection
    ++ bindings.shimSection target

def render (bindings : Bindings) (target : ModuleTarget) : String :=
  Text.unlines (bindings.lines target)

end Bindings

end AbiBridge
