import AbiBridge.Descriptor.Read
import AbiBridge.Proofs.Json.Record

/-!
# Writing descriptors and reading them back

What is read as a descriptor or as a layout report, from a text or from a document and from
objects or arrays, is written as a document that is read as the same descriptor again.
-/

namespace AbiBridge

open Json (Accepted Codec Form ReadsBack Reencoded Shape)

namespace Descriptor

theorem readEnumeratorValue_eq_ok_iff {form : Form} {json : Json} {value : EnumeratorValue} :
    readEnumeratorValue form json = .ok value
      ↔ (∃ n, json = .integer n
        ∧ value = if Word.isSigned 64 n then .signed n else .unsigned n.toNat)
        ∨ ∃ s, json = .string s ∧ value = .text s := by
  constructor
  · intro h
    cases json with
    | integer n => exact .inl ⟨n, rfl, (Except.ok.inj h).symm⟩
    | string s => exact .inr ⟨s, rfl, (Except.ok.inj h).symm⟩
    | _ =>
      unfold readEnumeratorValue at h
      split at h <;> cases h
  · rintro (⟨n, rfl, rfl⟩ | ⟨s, rfl, rfl⟩)
    · rfl
    · rfl

/-- The value of an enumerator is written as it was read, so it keeps its kind. -/
theorem toJson_of_readEnumeratorValue {form : Form} {json : Json} {value : EnumeratorValue}
    (hwords : json.holdsWords = true) (h : readEnumeratorValue form json = .ok value) :
    value.toJson = json := by
  rcases readEnumeratorValue_eq_ok_iff.mp h with ⟨n, rfl, rfl⟩ | ⟨s, rfl, rfl⟩
  · split
    · rfl
    · next hsigned =>
      rw [Json.holdsWords, Bool.or_eq_true] at hwords
      have hunsigned := hwords.resolve_left hsigned
      rw [EnumeratorValue.toJson, Int.toNat_of_nonneg (Word.isUnsigned_iff.mp hunsigned).1]
  · rfl

theorem readsBack_enumeratorValue (form : Form) {json : Json} {value : EnumeratorValue}
    (hwords : json.holdsWords = true) (h : readEnumeratorValue form json = .ok value) :
    ReadsBack readEnumeratorValue EnumeratorValue.toJson value := by
  intro arrange harrange form'
  rw [toJson_of_readEnumeratorValue hwords h]
  have hread := readEnumeratorValue_eq_ok_iff.mp h
  have hscalar : arrange json = json := by
    rcases hread with ⟨n, rfl, -⟩ | ⟨s, rfl, -⟩
    · exact harrange.integer n
    · exact harrange.string s
  rw [hscalar]
  exact readEnumeratorValue_eq_ok_iff.mpr hread

def enumeratorValueCodec : Codec EnumeratorValue where
  read := readEnumeratorValue
  write := EnumeratorValue.toJson
  blank := .text ""
  readsBack_blank := by
    have hread : readEnumeratorValue .value (.string "") = .ok (.text "") := rfl
    exact readsBack_enumeratorValue .value rfl hread
  readsBack {form _ _} hwords h := readsBack_enumeratorValue form hwords h

def fieldShape : Shape FieldDecl where
  blank := { name := "", type := "" }
  slots :=
    [.required "fieldname" .string (·.name) (fun r x => { r with name := x }) fun _ _ => rfl,
     .required "fieldtype" .string (·.type) (fun r x => { r with type := x }) fun _ _ => rfl]

def fieldCodec : Codec FieldDecl :=
  fieldShape.codec readField FieldDecl.toJson rfl fun _ => rfl

def paramShape : Shape ParamDecl where
  blank := { name := "", type := "" }
  slots :=
    [.required "paramname" .string (·.name) (fun r x => { r with name := x }) fun _ _ => rfl,
     .required "paramtype" .string (·.type) (fun r x => { r with type := x }) fun _ _ => rfl,
     .option "array_count" .string (fun _ _ => nofun) (·.countName)
      (fun r x => { r with countName := x }) fun _ _ => rfl]

def paramCodec : Codec ParamDecl :=
  paramShape.codec readParam ParamDecl.toJson rfl fun
    | { countName := none, .. } => rfl
    | { countName := some _, .. } => rfl

def methodShape : Shape MethodDecl where
  blank := { name := "", flatName := "", result := "" }
  slots :=
    [.required "methodname" .string (·.name) (fun r x => { r with name := x }) fun _ _ => rfl,
     .required "methodname_flat" .string (·.flatName) (fun r x => { r with flatName := x })
      fun _ _ => rfl,
     .required "returntype" .string (·.result) (fun r x => { r with result := x }) fun _ _ => rfl,
     .list "params" paramCodec (·.params) (fun r x => { r with params := x }) fun _ _ => rfl]

def methodCodec : Codec MethodDecl :=
  methodShape.codec readMethod MethodDecl.toJson rfl fun _ => rfl

def accessorShape : Shape AccessorDecl where
  blank := { kind := "", name := "", flatName := "" }
  slots :=
    [.required "kind" .string (·.kind) (fun r x => { r with kind := x }) fun _ _ => rfl,
     .required "name" .string (·.name) (fun r x => { r with name := x }) fun _ _ => rfl,
     .required "name_flat" .string (·.flatName) (fun r x => { r with flatName := x })
      fun _ _ => rfl]

def accessorCodec : Codec AccessorDecl :=
  accessorShape.codec readAccessor AccessorDecl.toJson rfl fun _ => rfl

def enumeratorShape : Shape EnumeratorDecl where
  blank := { name := "", value := .text "" }
  slots :=
    [.required "name" .string (·.name) (fun r x => { r with name := x }) fun _ _ => rfl,
     .required "value" enumeratorValueCodec (·.value) (fun r x => { r with value := x })
      fun _ _ => rfl]

def enumeratorCodec : Codec EnumeratorDecl :=
  enumeratorShape.codec readEnumerator EnumeratorDecl.toJson rfl fun _ => rfl

def enumShape : Shape EnumDecl where
  blank := { name := "" }
  slots :=
    [.required "enumname" .string (·.name) (fun r x => { r with name := x }) fun _ _ => rfl,
     .list "values" enumeratorCodec (·.values) (fun r x => { r with values := x }) fun _ _ => rfl]

def enumCodec : Codec EnumDecl :=
  enumShape.codec readEnum EnumDecl.toJson rfl fun _ => rfl

def constShape : Shape ConstDecl where
  blank := { name := "", type := "", value := "" }
  slots :=
    [.required "constname" .string (·.name) (fun r x => { r with name := x }) fun _ _ => rfl,
     .required "consttype" .string (·.type) (fun r x => { r with type := x }) fun _ _ => rfl,
     .required "constval" .string (·.value) (fun r x => { r with value := x }) fun _ _ => rfl]

def constCodec : Codec ConstDecl :=
  constShape.codec readConst ConstDecl.toJson rfl fun _ => rfl

def typedefShape : Shape TypedefDecl where
  blank := { name := "", target := "" }
  slots :=
    [.required "typedef" .string (·.name) (fun r x => { r with name := x }) fun _ _ => rfl,
     .required "type" .string (·.target) (fun r x => { r with target := x }) fun _ _ => rfl]

def typedefCodec : Codec TypedefDecl :=
  typedefShape.codec readTypedef TypedefDecl.toJson rfl fun _ => rfl

def structShape : Shape StructDecl where
  blank := { name := "" }
  slots :=
    [.required "struct" .string (·.name) (fun r x => { r with name := x }) fun _ _ => rfl,
     .list "fields" fieldCodec (·.fields) (fun r x => { r with fields := x }) fun _ _ => rfl,
     .list "consts" constCodec (·.consts) (fun r x => { r with consts := x }) fun _ _ => rfl,
     .list "enums" enumCodec (·.enums) (fun r x => { r with enums := x }) fun _ _ => rfl,
     .list "methods" methodCodec (·.methods) (fun r x => { r with methods := x }) fun _ _ => rfl,
     .option "callback_id" .int32 (fun _ _ => nofun) (·.callbackId)
      (fun r x => { r with callbackId := x }) fun _ _ => rfl]

def structCodec : Codec StructDecl :=
  structShape.codec readStruct StructDecl.toJson rfl fun
    | { callbackId := none, .. } => rfl
    | { callbackId := some _, .. } => rfl

def interfaceShape : Shape InterfaceDecl where
  blank := { name := "" }
  slots :=
    [.required "classname" .string (·.name) (fun r x => { r with name := x }) fun _ _ => rfl,
     .list "accessors" accessorCodec (·.accessors) (fun r x => { r with accessors := x })
      fun _ _ => rfl,
     .list "methods" methodCodec (·.methods) (fun r x => { r with methods := x }) fun _ _ => rfl,
     .list "enums" enumCodec (·.enums) (fun r x => { r with enums := x }) fun _ _ => rfl]

def interfaceCodec : Codec InterfaceDecl :=
  interfaceShape.codec readInterface InterfaceDecl.toJson rfl fun _ => rfl

def apiShape : Shape Api where
  blank := {}
  slots :=
    [.list "callback_structs" structCodec (·.callbackStructs)
      (fun r x => { r with callbackStructs := x }) fun _ _ => rfl,
     .list "consts" constCodec (·.consts) (fun r x => { r with consts := x }) fun _ _ => rfl,
     .list "enums" enumCodec (·.enums) (fun r x => { r with enums := x }) fun _ _ => rfl,
     .list "interfaces" interfaceCodec (·.interfaces) (fun r x => { r with interfaces := x })
      fun _ _ => rfl,
     .list "structs" structCodec (·.structs) (fun r x => { r with structs := x }) fun _ _ => rfl,
     .list "typedefs" typedefCodec (·.typedefs) (fun r x => { r with typedefs := x })
      fun _ _ => rfl]

def apiCodec : Codec Api :=
  apiShape.codec readApi Api.toJson rfl fun _ => rfl

def fieldFactShape : Shape ReportedField where
  blank := { field := "", size := 0, align := 0 }
  slots :=
    [.required "field" .string (·.field) (fun r x => { r with field := x }) fun _ _ => rfl,
     .required "size" .size (·.size) (fun r x => { r with size := x }) fun _ _ => rfl,
     .required "align" .size (·.align) (fun r x => { r with align := x }) fun _ _ => rfl,
     .option "offset" .size (fun _ _ => nofun) (·.offset) (fun r x => { r with offset := x })
      fun _ _ => rfl]

def fieldFactCodec : Codec ReportedField :=
  fieldFactShape.codec readFieldFact ReportedField.toJson rfl fun
    | { offset := none, .. } => rfl
    | { offset := some _, .. } => rfl

def structFactShape : Shape ReportedStruct where
  blank := { size := 0, align := 0 }
  slots :=
    [.required "size" .size (·.size) (fun r x => { r with size := x }) fun _ _ => rfl,
     .required "align" .size (·.align) (fun r x => { r with align := x }) fun _ _ => rfl,
     .list "fields" fieldFactCodec (·.fields) (fun r x => { r with fields := x }) fun _ _ => rfl]

def structFactCodec : Codec ReportedStruct :=
  structFactShape.codec readStructFact ReportedStruct.toJson rfl fun _ => rfl

def layoutReportCodec : Codec PlatformReport :=
  .dictionary structFactCodec

/-- Descriptors and layout reports that are accepted are read again as they were from the
documents that they are written as. These documents have a member for the number of a callback,
the count of an array or an offset only if there is one, and the value of an enumerator is
written as it was read. -/
theorem accepted_reencoded :
    (∀ api, Accepted readApi api → Reencoded readApi Api.toJson api)
      ∧ (∀ report, Accepted readLayoutReport report →
        Reencoded readLayoutReport PlatformReport.toJson report)
      ∧ (∀ decl : StructDecl, decl.toJson.get? "callback_id" = decl.callbackId.map .integer)
      ∧ (∀ param : ParamDecl, param.toJson.get? "array_count" = param.countName.map .string)
      ∧ (∀ fact : ReportedField, fact.toJson.get? "offset" = fact.offset.map Json.ofNat)
      ∧ ∀ form json value, json.holdsWords = true → readEnumeratorValue form json = .ok value →
        value.toJson = json := by
  refine ⟨fun _ => apiCodec.reencoded, fun _ => layoutReportCodec.reencoded, ?_, ?_, ?_,
    fun form json value => toJson_of_readEnumeratorValue⟩
  · rintro ⟨name, fields, consts, enums, methods, _ | id⟩ <;> rfl
  · rintro ⟨name, type, _ | count⟩ <;> rfl
  · rintro ⟨field, size, align, _ | offset⟩ <;> rfl

/-- The structs of a description are arrays, one with `null` for the number of its callback. -/
theorem accepted_reencoded_positional :
    let mode : EnumDecl := ⟨"EMode", [⟨"k_All", .unsigned 18446744073709551615⟩]⟩
    let api : Api := { callbackStructs := [⟨"Key_t", [], [], [mode], [], none⟩] }
    let report : PlatformReport := .ofList [("Key_t", ⟨4, 4, [⟨"m_nCount", 4, 4, none⟩]⟩)]
    Reencoded readApi Api.toJson api
      ∧ Reencoded readLayoutReport PlatformReport.toJson report := by
  intro mode api report
  have hapi : Json.decodeText readApi "[[[\"Key_t\", [], [], [[\"EMode\",
    [[\"k_All\", 18446744073709551615]]]], [], null]]]" = .ok api := by decide +kernel
  have hreport : readLayoutReport .value (.object [("Key_t", .array [.integer 4, .integer 4,
    .array [.array [.string "m_nCount", .integer 4, .integer 4]]])]) = .ok report := rfl
  exact ⟨accepted_reencoded.1 api (.text _ hapi),
    accepted_reencoded.2.1 report (.document .value _ rfl hreport)⟩

end Descriptor

end AbiBridge
