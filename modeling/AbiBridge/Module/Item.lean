import AbiBridge.Module.Signature
import AbiBridge.Module.Target

/-!
# Items of a module

The lines of typedefs, enums, constants, structs and interfaces.
-/

namespace AbiBridge

def braced (head : String) (body : List String) : List String :=
  (head ++ " \x7b") :: body ++ ["\x7d"]

def TypedefItem.line (item : TypedefItem) : String :=
  "pub type " ++ flatName item.name ++ " = " ++ item.type.rustText ++ ";"

/-- The lines of a type that only occurs behind pointers. -/
def opaqueLines (name : String) : List String :=
  ["", "#[repr(C)]"] ++ braced ("pub struct " ++ flatName name) ["    _opaque: [u8; 0],"]

def ConstItem.line (indent : String) (item : ConstItem) : String :=
  indent ++ "pub const " ++ identifierFor item.name ++ ": " ++ item.type ++ " = " ++ item.value ++ ";"

def Enumerator.line (enumerator : Enumerator) : String :=
  "    pub const " ++ identifierFor enumerator.name ++ ": Self = Self(" ++ enumerator.literal.text
    ++ ");"

def EnumItem.lines (item : EnumItem) : List String :=
  ["#[repr(transparent)]",
   "#[derive(Clone, Copy, Debug, PartialEq, Eq, Hash, ::vbind::Extern)]",
   "pub struct " ++ item.name ++ "(pub i32);"]
    ++ (if item.values.isEmpty then []
      else "" :: braced ("impl " ++ item.name) (item.values.map Enumerator.line))

def DefaultValue.text : DefaultValue → String
  | zero => "0"
  | zeroFloat => "0.0"
  | boolFalse => "false"
  | null => "::core::ptr::null()"
  | nullMut => "::core::ptr::null_mut()"
  | noFunction => "None"
  | repeated element length => "[" ++ element.text ++ "; " ++ toString length ++ "]"
  | struct name => flatName name ++ "::default()"
  | enum name => flatName name ++ "(0)"
  | handle name => flatName name ++ " \x7b ptr: ::core::ptr::null_mut() \x7d"
  | unknown => "::core::default::Default::default()"

namespace StructItem

def isPayload (item : StructItem) : Bool :=
  item.callbackId.isSome

/-- The names of the fields in the declaration, the filler included. -/
def declaredNames (item : StructItem) : List String :=
  item.fields.map (·.name) ++ if item.layout.filler then ["_padding"] else []

def attributes (item : StructItem) (target : ModuleTarget) : List String :=
  target.packing item.layout.align ++
    match item.callbackId with
    | some id =>
      ["#[derive(Clone, Copy, Debug, ::vbind::Extern, ::vbind::CallbackPayload)]",
       "#[vbind(callback_id = " ++ toString id ++ ")]"]
    | none => ["#[derive(Clone, Copy, Debug, ::vbind::Extern)]"]

/-- The alignment of the field with the given name, if both reports give it. -/
def alignOf? (item : StructItem) (name : String) : Option PlatformNumber :=
  (item.layout.field? name).bind (·.align)

/-- The attribute of a field. Payloads tell the alignments of their fields; a field
without one is marked. -/
def fieldAttribute (item : StructItem) (target : ModuleTarget) (field : FieldItem) :
    List String :=
  match item.alignOf? field.name with
  | some align =>
    if item.isPayload then ["    #[vbind(align = " ++ target.valueText align ++ ")]"] else []
  | none =>
    ["    #[deprecated(note = \"unresolved alignment of `" ++ item.name ++ "::" ++ field.name
      ++ "`\")]"]

def fieldLines (item : StructItem) (target : ModuleTarget) (field : FieldItem) : List String :=
  item.fieldAttribute target field ++ ["    pub " ++ declaration field.name field.type ++ ","]

def declarationLines (item : StructItem) (target : ModuleTarget) : List String :=
  item.attributes target
    ++ braced ("pub struct " ++ item.name)
      (item.fields.flatMap (item.fieldLines target)
        ++ if item.layout.filler then ["    pub _padding: u8,"] else [])

/-- The check of the offset of a field whose layout is known. -/
def offsetCheck? (item : StructItem) (target : ModuleTarget) (field : FieldLayout) :
    Option String :=
  match field.align, field.offset with
  | some _, some offset =>
    some ("::vbind::assert_offset!(" ++ item.name ++ ", " ++ identifierFor field.name ++ ", "
      ++ target.valueText offset ++ ");")
  | _, _ => none

def checkLines (item : StructItem) (target : ModuleTarget) : List String :=
  ("::vbind::assert_layout!(" ++ item.name ++ ", size = " ++ target.valueText item.layout.size
      ++ ", align = " ++ target.valueText item.layout.align ++ ");")
    :: item.layout.fields.filterMap (item.offsetCheck? target)

def defaultLines (item : StructItem) : List String :=
  let fields := item.fields.map fun field =>
    "            " ++ identifierFor field.name ++ ": " ++ field.default.text ++ ","
  let filler := if item.layout.filler then ["            _padding: 0,"] else []
  braced ("impl Default for " ++ item.name)
    (["    fn default() -> Self \x7b", "        Self \x7b"] ++ fields ++ filler
      ++ ["        \x7d", "    \x7d"])

def implLines (item : StructItem) : List String :=
  if item.consts.isEmpty && item.methods.all (·.wrapper.isNone) then []
  else
    "" :: braced ("impl " ++ item.name)
      (item.consts.map (ConstItem.line "    ")
        ++ item.methods.flatMap (Method.wrapperLines · .struct))

def lines (item : StructItem) (target : ModuleTarget) : List String :=
  item.declarationLines target ++ [""] ++ item.checkLines target ++ [""] ++ item.defaultLines
    ++ item.implLines

end StructItem

def InterfaceItem.accessorLines (item : InterfaceItem) (accessor : AccessorDecl) :
    List String :=
  "" :: braced ("pub unsafe fn " ++ identifierFor accessor.name ++ "() -> " ++ item.name)
    ["    unsafe \x7b " ++ accessor.flatName ++ "() \x7d"]

def InterfaceItem.lines (item : InterfaceItem) : List String :=
  ["#[repr(transparent)]", "#[derive(Clone, Copy, Debug, ::vbind::Extern)]"]
    ++ braced ("pub struct " ++ item.name) ["    pub ptr: *mut ::core::ffi::c_void,"]
    ++ [""]
    ++ braced ("impl " ++ item.name)
      (["    pub fn is_null(&self) -> bool \x7b", "        self.ptr.is_null()", "    \x7d"]
        ++ item.methods.flatMap (Method.wrapperLines · .interface))
    ++ item.accessors.flatMap item.accessorLines

end AbiBridge
