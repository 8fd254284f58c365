import AbiBridge.Proofs.Descriptor.Order
import AbiBridge.Proofs.Generate.Methods

/-!
# What stays does not depend on the order

Descriptors that differ in the order of typedefs, structs and payloads lead to the same
typedefs, structs and callbacks, and to the same methods that name only what is known.
-/

namespace AbiBridge

section Reorders

variable {config : Config} {api api' : Api} (h : api.Reorders api')
include h

theorem Config.perm_typedefEntries :
    (config.typedefEntries api).Perm (config.typedefEntries api') :=
  ((h.typedefs.filter _).map _).append_left _

theorem Config.perm_includedCallbacks :
    (config.includedCallbacks api).Perm (config.includedCallbacks api') :=
  h.callbackStructs.filter _

theorem Config.perm_structDecls : (config.structDecls api).Perm (config.structDecls api') :=
  (Config.perm_includedCallbacks h).append h.structs

theorem Config.Distinct.reorder (hdistinct : config.Distinct api) : config.Distinct api' where
  names := (((Config.perm_typedefEntries h).map _).append
    ((Config.perm_structDecls h).map _)).nodup_iff.mp hdistinct.names
  ids := ((Config.perm_includedCallbacks h).filterMap _).nodup_iff.mp hdistinct.ids

end Reorders

/-- The target of a typedef is the one that the run is to make. -/
theorem Config.target?_eq_some_iff {config : Config} {api : Api}
    (hnames : ((config.typedefEntries api).map (·.1)).Nodup) {name raw : String} :
    (Index.ofApi api config.extraTypedefs config.opaqueTypes).target? name = some raw
      ↔ (name, raw) ∈ config.typedefEntries api := by
  refine ⟨Config.mem_typedefEntries_of_target?, fun hentry => ?_⟩
  have htarget : (Index.ofApi api config.extraTypedefs config.opaqueTypes).HasTarget name := by
    rw [Index.hasTarget_ofApi]
    rcases List.mem_append.mp hentry with hextra | hown
    · exact .inl (List.mem_map_of_mem hextra)
    · obtain ⟨decl, hdecl, heq⟩ := List.mem_map.mp hown
      cases heq
      exact .inr (List.mem_map_of_mem (List.mem_filter.mp hdecl).1)
  obtain ⟨raw', hraw'⟩ := Option.isSome_iff_exists.mp htarget
  have hentry' := Config.mem_typedefEntries_of_target? hraw'
  have hsame : (name, raw') = (name, raw) := List.inj_on_of_nodup_map hnames hentry' hentry rfl
  cases hsame
  exact hraw'

theorem Config.sameAs_ofApi {config : Config} {api api' : Api} (h : api.Reorders api')
    (hdistinct : config.Distinct api) :
    (Index.ofApi api config.extraTypedefs config.opaqueTypes).SameAs
      (Index.ofApi api' config.extraTypedefs config.opaqueTypes) where
  contains name := by
    have hstructs := ((h.structs.append h.callbackStructs).flatMap_right
      fun decl => decl.name :: nestedEnumNames decl.name decl.enums).mem_iff (a := name)
    have htypedefs := (h.typedefs.map (·.name)).mem_iff (a := name)
    rw [Bool.eq_iff_iff, Index.contains_ofApi, Index.contains_ofApi, h.enums, h.interfaces,
      hstructs, htypedefs]
  nested name := by
    have hstructs := ((h.structs.append h.callbackStructs).flatMap_right
      fun decl => Index.qualifiedEnumNames decl.name decl.enums).mem_iff (a := name)
    rw [Bool.eq_iff_iff, List.contains_iff_mem, List.contains_iff_mem, Index.nested_ofApi,
      Index.nested_ofApi, h.interfaces, hstructs]
  targets name := by
    have hnames := (List.nodup_append.mp hdistinct.names).1
    have hnames' := (List.nodup_append.mp (hdistinct.reorder h).names).1
    refine Option.ext fun raw => ?_
    rw [Config.target?_eq_some_iff hnames, Config.target?_eq_some_iff hnames',
      (Config.perm_typedefEntries h).mem_iff]
  kinds := Index.sameKinds_ofApi h.typedefs h.enums h.interfaces config.extraTypedefs
    config.opaqueTypes

namespace Scope

def withIndex (scope : Scope) (index : Index) : Scope :=
  { scope with index }

section SameTypes

variable {scope : Scope} {index : Index} (h : scope.index.SameTypes index)
include h

theorem withHandles_withIndex :
    AbiBridge.withHandles (scope.withIndex index).index = AbiBridge.withHandles scope.index :=
  funext fun type => (h.withHandles type).symm

theorem fieldType_withIndex (name : String) (type : CType) :
    (scope.withIndex index).fieldType name type = scope.fieldType name type := by
  have hbyte : (scope.withIndex index).isByteSized type = scope.isByteSized type := by
    have htarget : (scope.withIndex index).index.underlying? (scope.withIndex index).resolver type
        = scope.index.underlying? scope.resolver type := (h.underlying? scope.resolver type).symm
    rw [isByteSized, isByteSized, htarget]
  rw [fieldType, fieldType, hbyte]
  rfl

end SameTypes

section SameAs

variable {scope : Scope} {index : Index} (h : scope.index.SameAs index)
include h

theorem qualify_withIndex (owner : String) :
    (scope.withIndex index).index.qualify owner = scope.index.qualify owner :=
  funext fun type => (h.qualify owner type).symm

theorem checkNames_withIndex (dropped : List String) (entity : String) (type : CType) :
    (scope.withIndex index).checkNames dropped entity type
      = scope.checkNames dropped entity type := by
  have hmissing : (scope.withIndex index).firstMissing? dropped type
      = scope.firstMissing? dropped type :=
    congrArg (·.or (firstDropped? dropped type)) (h.firstUnknown? type).symm
  rw [checkNames, checkNames, hmissing]

theorem resolve_withIndex (dropped : List String) (entity raw : String) (position : Position) :
    (scope.withIndex index).resolve dropped entity raw position
      = scope.resolve dropped entity raw position := by
  rw [resolve, resolve, funext (checkNames_withIndex h dropped entity)]
  rfl

theorem resolveIn_withIndex (dropped : List String) (owner entity raw : String)
    (position : Position) :
    (scope.withIndex index).resolveIn dropped owner entity raw position
      = scope.resolveIn dropped owner entity raw position := by
  rw [resolveIn, resolveIn, funext (checkNames_withIndex h dropped entity),
    qualify_withIndex h]
  rfl

theorem resolveResultIn_withIndex (dropped : List String) (owner entity raw : String) :
    (scope.withIndex index).resolveResultIn dropped owner entity raw
      = scope.resolveResultIn dropped owner entity raw := by
  rw [resolveResultIn, resolveResultIn, funext (checkNames_withIndex h dropped entity),
    qualify_withIndex h]
  rfl

theorem fieldItem_withIndex (dropped : List String) (owner : String) (decl : FieldDecl) :
    (scope.withIndex index).fieldItem dropped owner decl
      = scope.fieldItem dropped owner decl := by
  rw [fieldItem, fieldItem, resolveIn_withIndex h,
    funext (fieldType_withIndex h.sameTypes decl.name)]
  rfl

theorem paramInput_withIndex (dropped : List String) (owner method : String) (decl : ParamDecl) :
    (scope.withIndex index).paramInput dropped owner method decl
      = scope.paramInput dropped owner method decl := by
  have hdecay : (scope.withIndex index).index.decayTypedef scope.resolver
      = scope.index.decayTypedef scope.resolver :=
    funext fun type => (h.sameTypes.decayTypedef scope.resolver type).symm
  have hinteger : (scope.withIndex index).index.integerType? scope.resolver
      = scope.index.integerType? scope.resolver :=
    funext fun type => (h.sameTypes.integerType? scope.resolver type).symm
  have hresolver : (scope.withIndex index).resolver = scope.resolver := rfl
  rw [paramInput, paramInput, resolveIn_withIndex h, withHandles_withIndex h.sameTypes, hresolver,
    hdecay, hinteger]

theorem method_withIndex (dropped : List String) (owner : String) (decl : MethodDecl) :
    (scope.withIndex index).method dropped owner decl = scope.method dropped owner decl := by
  rw [Scope.method, Scope.method, resolveResultIn_withIndex h, withHandles_withIndex h.sameTypes]
  simp only [funext (paramInput_withIndex h dropped owner (qualifiedName owner decl.name))]

end SameAs

section Reorders

variable {scope : Scope} {config : Config} {api api' : Api} {pair : PlatformPair} {index : Index}
  (h : api.Reorders api') (hsame : scope.index.SameAs index)
include h hsame

theorem LeftOut.reorder {name : String} (hleft : scope.LeftOut config api pair name) :
    (scope.withIndex index).LeftOut config api' pair name := by
  induction hleft with
  | broken hbroken =>
    refine .broken ?_
    cases hbroken with
    | typedef hentry hnone =>
      refine .typedef ((Config.perm_typedefEntries h).mem_iff.mp hentry) fun type htype => ?_
      rw [resolve_withIndex hsame] at htype
      exact hnone type htype
    | layout hdecl hnone => exact .layout ((Config.perm_structDecls h).mem_iff.mp hdecl) hnone
    | field hdecl hfield hnone =>
      refine .field ((Config.perm_structDecls h).mem_iff.mp hdecl) hfield fun item hitem => ?_
      rw [fieldItem_withIndex hsame] at hitem
      exact hnone item hitem
    | payload hdecl hid hfield hitem hbytes =>
      rw [← fieldItem_withIndex hsame] at hitem
      rw [hsame.sameTypes.cannotBeBytes] at hbytes
      exact .payload ((Config.perm_includedCallbacks h).mem_iff.mp hdecl) hid hfield hitem hbytes
  | refers hrefers _ ih =>
    refine .refers ?_ ih
    cases hrefers with
    | typedef hentry htype hother =>
      rw [← resolve_withIndex hsame] at htype
      exact .typedef ((Config.perm_typedefEntries h).mem_iff.mp hentry) htype hother
    | field hdecl hfield hitem hother =>
      rw [← fieldItem_withIndex hsame] at hitem
      exact .field ((Config.perm_structDecls h).mem_iff.mp hdecl) hfield hitem hother

theorem leftOut_withIndex_iff {name : String} :
    (scope.withIndex index).LeftOut config api' pair name ↔ scope.LeftOut config api pair name := by
  have hback : (scope.withIndex index).index.SameAs scope.index := hsame.symm
  exact ⟨LeftOut.reorder h.symm hback, LeftOut.reorder h hsame⟩

theorem keepsMethod_withIndex_iff {owner flatName : String} {decls : List MethodDecl} :
    (scope.withIndex index).KeepsMethod config api' pair owner decls flatName
      ↔ scope.KeepsMethod config api pair owner decls flatName := by
  have hkeeps : ∀ names, (scope.withIndex index).Keeps config api' pair names
      ↔ scope.Keeps config api pair names := by
    intro names
    refine forall_congr' fun name => forall_congr' fun _ => ?_
    rw [leftOut_withIndex_iff h hsame, hsame.contains]
    exact Iff.rfl
  simp only [KeepsMethod, method_withIndex hsame, hkeeps]

end Reorders

end Scope

/-- For descriptors that differ in the order of typedefs, structs and payloads, with different
names and numbers, runs make the same typedefs, structs, payloads and callbacks. They make the
same methods, but for those that name something unknown. -/
theorem generate_sameNames_of_reorders {patterns : PatternLanguage} {config : Config}
    {api api' : Api} {reportA reportB : PlatformReport} {generated : Generated}
    (hgenerate : config.generate patterns api reportA reportB = .ok generated)
    (h : api.Reorders api') (hdistinct : config.Distinct api) :
    ∃ generated', config.generate patterns api' reportA reportB = .ok generated'
      ∧ (∀ name, name ∈ (generated.bindings.extraTypedefs ++ generated.bindings.typedefs).map (·.name)
          ↔ name ∈ (generated'.bindings.extraTypedefs ++ generated'.bindings.typedefs).map (·.name))
      ∧ (∀ name, name ∈ generated.bindings.structs.map (·.name)
          ↔ name ∈ generated'.bindings.structs.map (·.name))
      ∧ (∀ name, name ∈ generated.bindings.callbackStructs.map (·.name)
          ↔ name ∈ generated'.bindings.callbackStructs.map (·.name))
      ∧ (∀ id, id ∈ generated.bindings.callbacks.map (·.id)
          ↔ id ∈ generated'.bindings.callbacks.map (·.id))
      ∧ ∀ owner flatName,
          generated.bindings.HasMethod (.ofApi api config.extraTypedefs config.opaqueTypes) owner
              flatName
            ↔ generated'.bindings.HasMethod (.ofApi api' config.extraTypedefs config.opaqueTypes)
              owner flatName := by
  obtain ⟨retypers, hretypers, rfl⟩ := Config.generate_eq_ok_iff.mp hgenerate
  have hdistinct' := hdistinct.reorder h
  have hsame : (config.scope api retypers).index.SameAs (config.scope api' retypers).index :=
    Config.sameAs_ofApi h hdistinct
  have hleft : ∀ name, (config.scope api' retypers).LeftOut config api'
      (config.platforms reportA reportB) name
        ↔ (config.scope api retypers).LeftOut config api (config.platforms reportA reportB) name :=
    fun name => Scope.leftOut_withIndex_iff h hsame
  have hkeeps : ∀ owner decls flatName, (config.scope api' retypers).KeepsMethod config api'
      (config.platforms reportA reportB) owner decls flatName
        ↔ (config.scope api retypers).KeepsMethod config api
          (config.platforms reportA reportB) owner decls flatName :=
    fun owner decls flatName => Scope.keepsMethod_withIndex_iff h hsame
  refine ⟨_, Config.generate_eq_ok_iff.mpr ⟨retypers, hretypers, rfl⟩, ?_, ?_, ?_, ?_, ?_⟩
  · intro name
    rw [Scope.mem_typedefs_iff rfl hdistinct, Scope.mem_typedefs_iff rfl hdistinct', hleft,
      ((Config.perm_typedefEntries h).map _).mem_iff]
  · intro name
    rw [Scope.mem_structs_iff rfl hdistinct, Scope.mem_structs_iff rfl hdistinct', hleft,
      (h.structs.map _).mem_iff]
  · intro name
    rw [Scope.mem_callbackStructs_iff rfl hdistinct, Scope.mem_callbackStructs_iff rfl hdistinct',
      hleft, ((Config.perm_includedCallbacks h).map _).mem_iff]
  · intro id
    rw [Scope.mem_callbacks_ids_iff rfl hdistinct, Scope.mem_callbacks_ids_iff rfl hdistinct']
    simp only [hleft, (Config.perm_includedCallbacks h).mem_iff]
  · intro owner flatName
    have hmethods : ((config.scope api retypers).generate config api reportA
        reportB).bindings.HasMethod (config.scope api retypers).index owner flatName ↔ _ :=
      Scope.hasMethod_iff rfl hdistinct
    have hmethods' : ((config.scope api' retypers).generate config api' reportA
        reportB).bindings.HasMethod (config.scope api' retypers).index owner flatName ↔ _ :=
      Scope.hasMethod_iff rfl hdistinct'
    refine hmethods.trans (Iff.trans ?_ hmethods'.symm)
    simp only [hleft, hkeeps, (Config.perm_structDecls h).mem_iff, h.interfaces]

/-- The descriptor whose typedef of an array cannot be made, this typedef before the one that
refers to it. -/
def decayApiReordered : Api :=
  { decayApi with
    typedefs := [⟨"Buffer_t", "Missing_t[3]"⟩, ⟨"Items_t", "Buffer_t"⟩, ⟨"Count_t", "int"⟩] }

theorem reorders_decayApi : decayApi.Reorders decayApiReordered :=
  ⟨by decide, by decide, by decide, rfl, rfl, rfl⟩

theorem distinct_decayApi : decayConfig.Distinct decayApi :=
  ⟨by decide, by decide⟩

theorem generate_sameNames_of_reorders_decay :
    ∃ generated generated', decayConfig.generate Pattern.language decayApi decayReport decayReport
        = .ok generated
      ∧ decayConfig.generate Pattern.language decayApiReordered decayReport decayReport
          = .ok generated'
      ∧ (generated.bindings.extraTypedefs ++ generated.bindings.typedefs).map (·.name) = ["Count_t"]
      ∧ (∀ name, name ∈ (generated'.bindings.extraTypedefs ++ generated'.bindings.typedefs).map
          (·.name) ↔ name = "Count_t") := by
  have hgenerate : decayConfig.generate Pattern.language decayApi decayReport decayReport
      = .ok (decayScope.generate decayConfig decayApi decayReport decayReport) := rfl
  have htypedefs : ((decayScope.generate decayConfig decayApi decayReport
        decayReport).bindings.extraTypedefs
      ++ (decayScope.generate decayConfig decayApi decayReport decayReport).bindings.typedefs).map
        (·.name) = ["Count_t"] := by decide +kernel
  obtain ⟨generated', hgenerate', hsame, -⟩ :=
    generate_sameNames_of_reorders hgenerate reorders_decayApi distinct_decayApi
  refine ⟨_, generated', hgenerate, hgenerate', htypedefs, fun name => ?_⟩
  rw [← hsame, htypedefs, List.mem_singleton]

/-- The method whose parameter decays to something unknown depends on the order. -/
theorem generate_method_depends_on_order :
    ∃ generated generated', decayConfig.generate Pattern.language decayApi decayReport decayReport
        = .ok generated
      ∧ decayConfig.generate Pattern.language decayApiReordered decayReport decayReport
          = .ok generated'
      ∧ decayApi.Reorders decayApiReordered ∧ decayConfig.Distinct decayApi
      ∧ generated.bindings.ownedMethods.map (fun entry => (entry.1, entry.2.flatName))
          = [("Reader_t", "Reader_Read")]
      ∧ generated'.bindings.ownedMethods.map (fun entry => (entry.1, entry.2.flatName)) = [] := by
  refine ⟨_, _, rfl, rfl, reorders_decayApi, distinct_decayApi, ?_, ?_⟩
  · decide +kernel
  · decide +kernel

end AbiBridge
