import AbiBridge.Proofs.Generate.ArrayParams
import AbiBridge.Proofs.Generate.Methods

/-!
# Arrays by value

No parameter of a method passes an array by value: spelled out it decays while its type is read,
and behind a typedef afterwards. The parameters of a function type inside of other types decay in
the first way only, so a typedef of an array stays there as it is.
-/

namespace AbiBridge

open CType

def Method.types (method : Method) : List CType :=
  method.params.map (·.type) ++ method.params.filterMap (·.wrapperType?) ++ method.result.toList

def Bindings.types (bindings : Bindings) : List CType :=
  (bindings.extraTypedefs ++ bindings.typedefs).map (·.type)
    ++ bindings.allStructs.flatMap (fun item => item.fields.map (·.type))
    ++ bindings.methods.flatMap Method.types

theorem Bindings.mem_types_iff {bindings : Bindings} {type : CType} :
    type ∈ bindings.types
      ↔ (∃ item ∈ bindings.extraTypedefs ++ bindings.typedefs, item.type = type)
        ∨ (∃ item ∈ bindings.allStructs, ∃ field ∈ item.fields, field.type = type)
        ∨ ∃ method ∈ bindings.methods, type ∈ method.types := by
  rw [types, List.mem_append, List.mem_append, List.mem_map, List.mem_flatMap, List.mem_flatMap,
    or_assoc]
  simp only [List.mem_map]

namespace Scope

variable {scope : Scope} {dropped taken : List String} {owner : String}

/-- The method takes no array by value, and no function in its types has an array as a
parameter. -/
structure TakesNoArray (scope : Scope) (method : Method) : Prop where
  params : ∀ param ∈ method.params, ¬ scope.index.IsArrayValue scope.resolver param.type
  wrapper : ∀ param ∈ method.params, ∀ type ∈ param.wrapperType?,
    ¬ scope.index.IsArrayValue scope.resolver type
  functions : ∀ type ∈ method.types, type.TakesNoArray

theorem paramInput_type {method : String} {decl : ParamDecl} {raw : RawParam}
    (h : scope.paramInput dropped owner method decl = .ok raw) :
    ¬ scope.index.IsArrayValue scope.resolver raw.type ∧ raw.type.TakesNoArray := by
  obtain ⟨type, htype, rfl⟩ := paramInput_eq_ok_iff.mp h
  obtain ⟨read, hread, rfl⟩ := exists_read_of_resolveIn htype
  have harray : ¬ (scope.index.qualify owner read).IsArray := by
    rw [Index.qualify, isArray_mapNames_iff]
    exact (denotedAt_of_resolve hread).denoted.not_isArray
  have hfunctions : (scope.index.qualify owner read).TakesNoArray :=
    (takesNoArray_of_resolve hread).mapNames _
  exact ⟨Index.not_isArrayValue_withHandles_decayTypedef harray,
    (Index.takesNoArray_decayTypedef hfunctions).withHandles _⟩

theorem takesNoArray_of_resolveResultIn {entity raw : String} {result : Option CType}
    (h : scope.resolveResultIn dropped owner entity raw = .ok result) :
    ∀ type ∈ result, type.TakesNoArray := by
  intro type htype
  obtain ⟨read, hread, rfl⟩ := exists_read_of_resolveResultIn h type htype
  unfold Resolver.resolveResult CType.resolveResult at hread
  split at hread
  · cases hread
  · cases htype : CType.resolve (scope.resolver.replace raw) .signature with
    | error failure =>
      rw [htype] at hread
      cases hread
    | ok found =>
      rw [htype] at hread
      cases hread
      exact (takesNoArray_of_resolve htype).mapNames _

theorem takesNoArray_method {decl : MethodDecl} {method : Method}
    (h : scope.method dropped owner decl = .ok method) : scope.TakesNoArray method := by
  obtain ⟨params, result, hparams, hresult, hmade, hmadeResult⟩ := method_eq_ok h
  have htypes : ∀ param ∈ method.params,
      ¬ scope.index.IsArrayValue scope.resolver param.type ∧ param.type.TakesNoArray := by
    intro param hparam
    rw [hmade] at hparam
    obtain ⟨raw, hraw, htype⟩ := mem_ofRaw hparam
    obtain ⟨paramDecl, -, hinput⟩ := exists_of_mem_mapM hparams raw hraw
    rw [← htype]
    exact paramInput_type hinput
  have hwrapper : ∀ param ∈ method.params, ∀ type ∈ param.wrapperType?,
      ¬ scope.index.IsArrayValue scope.resolver type ∧ type.TakesNoArray := by
    intro param hparam type htype
    obtain ⟨harray, hfunctions⟩ := htypes param hparam
    rw [hmade] at hparam
    rcases type_eq_or_of_mem_ofRaw hparam htype with rfl | ⟨counted, z, hbuffer⟩
    · exact ⟨harray, hfunctions⟩
    · exact ⟨Index.not_isArrayValue_of_bufferType? hbuffer, hfunctions.bufferType? hbuffer⟩
  refine ⟨fun param hparam => (htypes param hparam).1,
    fun param hparam type htype => (hwrapper param hparam type htype).1, fun type htype => ?_⟩
  rw [Method.types, List.mem_append, List.mem_append] at htype
  rcases htype with (htype | htype) | htype
  · obtain ⟨param, hparam, rfl⟩ := List.mem_map.mp htype
    exact (htypes param hparam).2
  · obtain ⟨param, hparam, htype⟩ := List.mem_filterMap.mp htype
    exact (hwrapper param hparam type htype).2
  · rw [Option.mem_toList, hmadeResult, Option.map_eq_some_iff] at htype
    obtain ⟨read, hread, rfl⟩ := htype
    exact (takesNoArray_of_resolveResultIn hresult read hread).withHandles _

theorem takesNoArray_of_mem_methods {decls : List MethodDecl} {method : Method}
    (h : method ∈ (scope.methods dropped owner taken decls).made) : scope.TakesNoArray method := by
  obtain ⟨decl, -, made, taken', hmade, rfl⟩ := exists_withFreeWrapper_of_mem_methods h
  obtain ⟨hparams, hwrapper, hfunctions⟩ := takesNoArray_method hmade
  rw [withFreeWrapper]
  split
  · split <;> exact ⟨hparams, hwrapper, hfunctions⟩
  · exact ⟨hparams, hwrapper, hfunctions⟩

theorem takesNoArray_fieldItem {decl : FieldDecl} {field : FieldItem}
    (h : scope.fieldItem dropped owner decl = .ok field) : field.type.TakesNoArray := by
  obtain ⟨type, htype, rfl⟩ := fieldItem_eq_ok_iff.mp h
  obtain ⟨read, hread, rfl⟩ := exists_read_of_resolveIn htype
  change (scope.fieldType _ _).TakesNoArray
  rw [fieldType]
  split
  · exact takesNoArray_primitive .bool
  · exact (takesNoArray_of_resolve hread).mapNames _

section Run

variable {config : Config} {api : Api} {reportA reportB : PlatformReport} {layouts : Layouts}

/-- Every struct of a module comes from a draft with the same methods, fields being finished. -/
theorem exists_draft_of_mem_allStructs {item : StructItem}
    (h : item ∈ (scope.generate config api reportA reportB).bindings.allStructs) :
    ∃ decl draft layouts left, scope.IsMadeFrom layouts left draft decl
      ∧ item.methods ⊆ draft.methods
      ∧ item.fields = (scope.finishStruct draft).fields := by
  rw [generate_allStructs] at h
  obtain ⟨survivor, hsurvivor, rfl⟩ := List.mem_map.mp h
  obtain ⟨draft, hdraft, rfl, -⟩ := of_mem_pruneAll_allStructs hsurvivor
  have hmethods : (draft.retainMethods (scope.leftOut config api reportA reportB)).methods
      ⊆ draft.methods := fun method hmethod => (of_mem_retainMethods hmethod).1
  rcases mem_drafts_allStructs_iff.mp hdraft with ⟨hpayload, -⟩ | hstruct
  · obtain ⟨decl, -, hmade⟩ := exists_isMadeFrom hpayload
    exact ⟨decl, draft, _, _, hmade, hmethods, rfl⟩
  · obtain ⟨decl, -, hmade⟩ := exists_isMadeFrom hstruct
    exact ⟨decl, draft, _, _, hmade, hmethods, rfl⟩

theorem takesNoArray_of_mem_allStructs {item : StructItem}
    (h : item ∈ (scope.generate config api reportA reportB).bindings.allStructs) :
    (∀ field ∈ item.fields, field.type.TakesNoArray)
      ∧ ∀ method ∈ item.methods, scope.TakesNoArray method := by
  obtain ⟨decl, draft, layouts, left, hmade, hmethods, hfields⟩ := exists_draft_of_mem_allStructs h
  constructor
  · intro field hfield
    rw [hfields] at hfield
    obtain ⟨made, hmem, rfl⟩ := List.mem_map.mp hfield
    obtain ⟨fieldDecl, -, hfieldMade⟩ := hmade.fields made hmem
    exact (takesNoArray_fieldItem hfieldMade).withHandles _
  · intro method hmethod
    obtain ⟨left', -, heq⟩ := hmade.methods
    have hdraft := hmethods hmethod
    rw [heq] at hdraft
    exact takesNoArray_of_mem_methods hdraft

theorem takesNoArray_of_mem_typedefs {item : TypedefItem}
    (h : item ∈ (scope.generate config api reportA reportB).bindings.extraTypedefs
      ++ (scope.generate config api reportA reportB).bindings.typedefs) :
    item.type.TakesNoArray := by
  have hdraft := (of_mem_pruneAll_allTypedefs h).1
  have hmade : ∃ raw type, scope.resolver.resolve raw .value = .ok type
      ∧ item.type = withHandles scope.index type := by
    rcases List.mem_append.mp hdraft with hextra | hown
    · obtain ⟨raw, type, left, -, htype, heq⟩ := exists_of_mem_typedefItems_made hextra
      exact ⟨raw, type, (resolve_eq_ok htype).1, heq⟩
    · obtain ⟨raw, type, left, -, htype, heq⟩ := exists_of_mem_typedefItems_made hown
      exact ⟨raw, type, (resolve_eq_ok htype).1, heq⟩
  obtain ⟨raw, type, hread, heq⟩ := hmade
  rw [heq]
  exact (takesNoArray_of_resolve hread).withHandles _

theorem takesNoArray_of_mem_generate_methods {method : Method}
    (h : method ∈ (scope.generate config api reportA reportB).bindings.methods) :
    scope.TakesNoArray method := by
  rcases List.mem_append.mp h with h | h
  · obtain ⟨item, hitem, hmethod⟩ := List.mem_flatMap.mp h
    exact (takesNoArray_of_mem_allStructs hitem).2 method hmethod
  · obtain ⟨item, hitem, hmethod⟩ := List.mem_flatMap.mp h
    obtain ⟨decl, -, rfl⟩ := mem_interfaceItems_made_iff.mp hitem
    exact takesNoArray_of_mem_methods hmethod

end Run

end Scope

/-- A type passes an array by value where a run generates a module. -/
def Config.PassesArray (config : Config) (api : Api) (type : CType) : Prop :=
  (Index.ofApi api config.extraTypedefs config.opaqueTypes).IsArrayValue
    (.ofOverrides config.typeOverrides) type

/-- A name stands for a typedef of an array where a run generates a module. -/
def Config.IsArrayTypedef (config : Config) (api : Api) (name : String) : Prop :=
  (Index.ofApi api config.extraTypedefs config.opaqueTypes).IsArrayTypedef
    (.ofOverrides config.typeOverrides) name

/-- No method takes an array by value. A function in a type of the module does so exactly where
a parameter is the name of a typedef of an array, and never by an array itself. -/
theorem generate_passesArray {patterns : PatternLanguage} {config : Config} {api : Api}
    {reportA reportB : PlatformReport} {generated : Generated}
    (h : config.generate patterns api reportA reportB = .ok generated) :
    (∀ method ∈ generated.bindings.methods, ∀ param ∈ method.params,
        ¬ config.PassesArray api param.type
          ∧ ∀ type ∈ param.wrapperType?, ¬ config.PassesArray api type)
      ∧ ∀ type ∈ generated.bindings.types, ∀ params result nullable,
          IsPart (.function params result nullable) type → ∀ param ∈ params,
            ¬ param.IsArray
              ∧ (config.PassesArray api param
                ↔ ∃ name, param = .named name ∧ config.IsArrayTypedef api name) := by
  obtain ⟨retypers, -, rfl⟩ := Config.generate_eq_ok_iff.mp h
  constructor
  · intro method hmethod param hparam
    have hmade := Scope.takesNoArray_of_mem_generate_methods hmethod
    exact ⟨hmade.params param hparam, hmade.wrapper param hparam⟩
  · intro type htype params result nullable hpart param hparam
    have hfree : type.TakesNoArray := by
      rcases Bindings.mem_types_iff.mp htype with
        ⟨item, hitem, rfl⟩ | ⟨item, hitem, field, hfield, rfl⟩ | ⟨method, hmethod, hmem⟩
      · exact Scope.takesNoArray_of_mem_typedefs hitem
      · exact (Scope.takesNoArray_of_mem_allStructs hitem).1 field hfield
      · exact (Scope.takesNoArray_of_mem_generate_methods hmethod).functions type hmem
    have harray := hfree params result nullable hpart param hparam
    exact ⟨harray, or_iff_right harray⟩

/-- A typedef of an array, as a parameter of a method and of a function in a field. -/
def itemsApi : Api where
  structs := [{
    name := "Holder_t"
    fields := [⟨"m_fn", "void (*)(Items_t)"⟩]
    methods := [⟨"Read", "Holder_Read", "void", [{ name := "items", type := "Items_t" }]⟩] }]
  typedefs := [⟨"Items_t", "int[3]"⟩]

def itemsReport : PlatformReport :=
  .ofList [("Holder_t", ⟨8, 8, [⟨"m_fn", 8, 8, some 0⟩]⟩)]

def itemsConfig : Config where
  retypings := []

theorem generate_passesArray_items :
    ∃ generated, itemsConfig.generate Pattern.language itemsApi itemsReport itemsReport
        = .ok generated
      ∧ ∃ method ∈ generated.bindings.methods, ∃ param ∈ method.params,
        param.type.rustText = "*mut i32" ∧ ¬ itemsConfig.PassesArray itemsApi param.type := by
  have hgenerate : itemsConfig.generate Pattern.language itemsApi itemsReport itemsReport
      = .ok ((itemsConfig.scope itemsApi []).generate itemsConfig itemsApi itemsReport
        itemsReport) := rfl
  have hdecays : ∃ method ∈ ((itemsConfig.scope itemsApi []).generate itemsConfig itemsApi
      itemsReport itemsReport).bindings.methods, ∃ param ∈ method.params,
      param.type.rustText = "*mut i32" := by decide +kernel
  obtain ⟨method, hmethod, param, hparam, htext⟩ := hdecays
  obtain ⟨harray, -⟩ := (generate_passesArray hgenerate).1 method hmethod param hparam
  exact ⟨_, hgenerate, method, hmethod, param, hparam, htext, harray⟩

theorem isArrayTypedef_items : itemsConfig.IsArrayTypedef itemsApi "Items_t" := by
  have hraw : CType.resolve "int[3]" .value = .ok (.array (.primitive .i32) 3) :=
    resolve_of_array rfl rfl rfl rfl rfl
  refine ⟨by decide, _, _, Index.underlyingWithin?_named_eq_some_iff.mpr
    ⟨1, "int[3]", by decide, .last (by decide), hraw, by simp⟩⟩

def takesOnly (name : String) : CType → Bool
  | .function [.named other] _ _ => other == name
  | _ => false

theorem exists_of_takesOnly {name : String} {type : CType} (h : takesOnly name type = true) :
    ∃ result nullable, type = .function [.named name] result nullable := by
  unfold takesOnly at h
  split at h
  · next other result nullable =>
    rw [eq_of_beq h]
    exact ⟨result, nullable, rfl⟩
  · cases h

/-- The function in the field takes the array by value. -/
theorem generate_function_passesArray :
    ∃ generated, itemsConfig.generate Pattern.language itemsApi itemsReport itemsReport
        = .ok generated
      ∧ ∃ type ∈ generated.bindings.types, ∃ params result nullable,
        IsPart (.function params result nullable) type
          ∧ ∃ param ∈ params, itemsConfig.PassesArray itemsApi param := by
  refine ⟨_, rfl, ?_⟩
  have htakes : ∃ type ∈ ((itemsConfig.scope itemsApi []).generate itemsConfig itemsApi
      itemsReport itemsReport).bindings.types, takesOnly "Items_t" type = true := by
    decide +kernel
  obtain ⟨type, htype, htakes⟩ := htakes
  obtain ⟨result, nullable, rfl⟩ := exists_of_takesOnly htakes
  exact ⟨_, htype, _, _, _, .whole, _, List.mem_cons_self, .inr ⟨_, rfl, isArrayTypedef_items⟩⟩

end AbiBridge
