import AbiBridge.Pattern.Read
import AbiBridge.Proofs.Generate.Drafts

/-!
# References of a module

A name that a module refers to is declared in it exactly if it is the name of an entity
that the run is to make. Other references are the names of excluded payloads, and what the
parameters of the methods of structs name when a typedef that they decay through is left
out.
-/

namespace AbiBridge

def Config.includedNames (config : Config) (api : Api) : List String :=
  (config.typedefEntries api).map (·.1) ++ config.opaqueTypes
    ++ api.allEnums.flatMap (fun (owner, decl) => enumNames owner decl)
    ++ (config.includedCallbacks api ++ api.structs).map (·.name) ++ api.interfaces.map (·.name)

def Config.excludedNames (config : Config) (api : Api) : List String :=
  (api.callbackStructs.filter fun decl =>
    config.filters.excludedCallbacks.contains decl.name).map (·.name)

namespace Bindings

def declaredNames (bindings : Bindings) (api : Api) : List String :=
  (bindings.extraTypedefs ++ bindings.typedefs).map (·.name) ++ bindings.opaqueTypes
    ++ (api.allEnums.filter fun (owner, decl) =>
        bindings.enums.any (·.name == enumItemName owner decl)).flatMap
          (fun (owner, decl) => enumNames owner decl)
    ++ bindings.allStructs.map (·.name) ++ bindings.interfaces.map (·.name)

/-- The names in the types of typedefs, fields, parameters and results. -/
def references (bindings : Bindings) : List String :=
  (bindings.extraTypedefs ++ bindings.typedefs).flatMap (·.type.names)
    ++ bindings.allStructs.flatMap (·.fieldNames)
    ++ bindings.methods.flatMap fun method => method.paramNames ++ method.resultNames

def structParamNames (bindings : Bindings) : List String :=
  bindings.allStructs.flatMap fun item => item.methods.flatMap (·.paramNames)

end Bindings

/-- The run reports that it leaves a typedef out. -/
def Generated.LeavesOutTypedef (generated : Generated) (config : Config) (api : Api) : Prop :=
  ∃ issue ∈ generated.report.errors, issue.entity ∈ (config.typedefEntries api).map (·.1)

/-! ## Enums -/

theorem exists_mem_distinctEnums {items : List EnumItem} {item : EnumItem} {seen : List String}
    (hitem : item ∈ items) (hnew : item.name ∉ seen) :
    ∃ kept ∈ distinctEnums seen items, kept.name = item.name := by
  induction items generalizing seen with
  | nil => cases hitem
  | cons head items ih =>
    rw [distinctEnums]
    split
    · next hseen =>
      rcases List.mem_cons.mp hitem with rfl | hitem
      · exact absurd (List.contains_iff_mem.mp hseen) hnew
      · exact ih hitem hnew
    · rcases List.mem_cons.mp hitem with rfl | hitem
      · exact ⟨item, List.mem_cons_self, rfl⟩
      · by_cases hname : head.name = item.name
        · exact ⟨head, List.mem_cons_self, hname⟩
        · have hnew' : item.name ∉ head.name :: seen := by simp [Ne.symm hname, hnew]
          obtain ⟨kept, hkept, heq⟩ := ih hitem hnew'
          exact ⟨kept, List.mem_cons_of_mem _ hkept, heq⟩

/-- An enum whose name is taken is declared by the one that has taken it. -/
theorem any_enumItems_of_mem_allEnums {api : Api} {owner : Option String} {decl : EnumDecl}
    (h : (owner, decl) ∈ api.allEnums) :
    api.enumItems.any (·.name == enumItemName owner decl) = true := by
  obtain ⟨kept, hkept, hname⟩ := exists_mem_distinctEnums
    (List.mem_map_of_mem (f := fun entry => enumItem entry.1 entry.2) h) List.not_mem_nil
  exact List.any_eq_true.mpr ⟨kept, hkept, beq_iff_eq.mpr hname⟩

theorem mem_allEnums_of_enum {api : Api} {decl : EnumDecl} (h : decl ∈ api.enums) :
    (none, decl) ∈ api.allEnums := by
  simp [Api.allEnums, h]

theorem mem_allEnums_of_struct {api : Api} {owner : StructDecl} {decl : EnumDecl}
    (howner : owner ∈ api.structs ++ api.callbackStructs) (h : decl ∈ owner.enums) :
    (some owner.name, decl) ∈ api.allEnums := by
  have howner' : owner ∈ api.callbackStructs ++ api.structs := by
    rw [List.mem_append, or_comm]
    exact List.mem_append.mp howner
  refine List.mem_append_left _ (List.mem_append_right _ ?_)
  exact List.mem_flatMap.mpr ⟨owner, howner', List.mem_map_of_mem h⟩

theorem mem_allEnums_of_interface {api : Api} {owner : InterfaceDecl} {decl : EnumDecl}
    (howner : owner ∈ api.interfaces) (h : decl ∈ owner.enums) :
    (some owner.name, decl) ∈ api.allEnums :=
  List.mem_append_right _ (List.mem_flatMap.mpr ⟨owner, howner, List.mem_map_of_mem h⟩)

/-! ## Known names -/

theorem Config.mem_names_of_contains {config : Config} {api : Api} {name : String}
    (h : (Index.ofApi api config.extraTypedefs config.opaqueTypes).contains name = true) :
    name ∈ config.includedNames api ∨ name ∈ config.excludedNames api := by
  have henum : ∀ owner decl, (owner, decl) ∈ api.allEnums → name ∈ enumNames owner decl →
      name ∈ api.allEnums.flatMap (fun (owner, decl) => enumNames owner decl) :=
    fun owner decl hdecl hname => List.mem_flatMap.mpr ⟨(owner, decl), hdecl, hname⟩
  simp only [Config.includedNames, List.mem_append]
  rcases Index.contains_ofApi.mp h with h | h | h | h | h | h
  · exact .inl (.inl (.inl (.inl (.inr h))))
  · refine .inl (.inl (.inl (.inl (.inl ?_))))
    rw [Config.typedefEntries, List.map_append]
    exact List.mem_append_left _ h
  · obtain ⟨decl, hdecl, rfl⟩ := List.mem_map.mp h
    exact .inl (.inl (.inl (.inl (.inl (Config.mem_typedefEntries_of_mem_typedefs hdecl)))))
  · obtain ⟨decl, hdecl, hname⟩ := List.mem_flatMap.mp h
    rcases List.mem_cons.mp hname with rfl | hname
    · exact .inl (.inr (List.mem_map_of_mem hdecl))
    · obtain ⟨enum, hmem, hname⟩ := List.mem_flatMap.mp hname
      exact .inl (.inl (.inl (.inr (henum _ _ (mem_allEnums_of_interface hdecl hmem) hname))))
  · obtain ⟨enum, hmem, hname⟩ := List.mem_flatMap.mp h
    exact .inl (.inl (.inl (.inr (henum _ _ (mem_allEnums_of_enum hmem) hname))))
  · obtain ⟨decl, hdecl, hname⟩ := List.mem_flatMap.mp h
    rcases List.mem_cons.mp hname with rfl | hname
    · rcases List.mem_append.mp hdecl with hstruct | hpayload
      · exact .inl (.inl (.inr (List.mem_map_of_mem (List.mem_append_right _ hstruct))))
      · by_cases hexcluded : config.filters.excludedCallbacks.contains decl.name = true
        · exact .inr (List.mem_map_of_mem (List.mem_filter.mpr ⟨hpayload, hexcluded⟩))
        · have hincluded : decl ∈ config.includedCallbacks api :=
            List.mem_filter.mpr ⟨hpayload, by rw [Bool.not_eq_true', ← Bool.not_eq_true]; exact hexcluded⟩
          exact .inl (.inl (.inr (List.mem_map_of_mem (List.mem_append_left _ hincluded))))
    · obtain ⟨enum, hmem, hname⟩ := List.mem_flatMap.mp hname
      exact .inl (.inl (.inl (.inr (henum _ _ (mem_allEnums_of_struct hdecl hmem) hname))))

namespace Scope

variable {scope : Scope} {config : Config} {api : Api} {layouts : Layouts}

def pruned (scope : Scope) (config : Config) (api : Api) (layouts : Layouts) : Pruned :=
  pruneAll (scope.drafts config api layouts).dropped (scope.drafts config api layouts).items

theorem mem_pruned_allTypedefs_iff {name : String}
    (hkept : name ∉ (scope.pruned config api layouts).dropped) :
    name ∈ (scope.pruned config api layouts).items.allTypedefs.map (·.name)
      ↔ name ∈ (config.typedefEntries api).map (·.1) := by
  constructor
  · intro hname
    obtain ⟨item, hitem, rfl⟩ := List.mem_map.mp hname
    exact (mem_typedefStage_made (of_mem_pruneAll_allTypedefs hitem).1).1
  · intro hname
    obtain ⟨⟨name, raw⟩, hentry, rfl⟩ := List.mem_map.mp hname
    have hstage : name ∉ (scope.typedefStage config api).dropped := fun hdropped =>
      hkept (subset_pruneAll_dropped _ _ (typedefStage_dropped_subset hdropped))
    obtain ⟨type, -, hmade⟩ := exists_mem_typedefStage hentry hstage
    exact List.mem_map.mpr ⟨_, mem_pruneAll_allTypedefs hmade hkept, rfl⟩

theorem mem_pruned_allStructs_iff {name : String}
    (hkept : name ∉ (scope.pruned config api layouts).dropped) :
    name ∈ (scope.pruned config api layouts).items.allStructs.map (·.name)
      ↔ name ∈ (config.includedCallbacks api ++ api.structs).map (·.name) := by
  constructor
  · intro hname
    obtain ⟨item, hitem, rfl⟩ := List.mem_map.mp hname
    obtain ⟨draft, hdraft, rfl, -⟩ := of_mem_pruneAll_allStructs hitem
    exact (mem_drafts_allStructs hdraft).1
  · intro hname
    obtain ⟨decl, hdecl, rfl⟩ := List.mem_map.mp hname
    have hdrafts : decl.name ∉ (scope.drafts config api layouts).dropped := fun hdropped =>
      hkept (subset_pruneAll_dropped _ _ hdropped)
    obtain ⟨draft, hdraft, heq⟩ := exists_mem_drafts_allStructs hdecl hdrafts
    rw [← heq] at hkept
    exact List.mem_map.mpr ⟨_, mem_pruneAll_allStructs hdraft hkept, heq⟩

/-! ## The module -/

section Generated

variable {reportA reportB : PlatformReport}

def layoutsOf (config : Config) (api : Api) (reportA reportB : PlatformReport) : Layouts :=
  .ofStructs (config.platforms reportA reportB) (config.includedCallbacks api ++ api.structs)

/-- The final set of the names that are left out. -/
def leftOut (scope : Scope) (config : Config) (api : Api) (reportA reportB : PlatformReport) :
    List String :=
  (scope.pruned config api (layoutsOf config api reportA reportB)).dropped

theorem generate_allStructs :
    (scope.generate config api reportA reportB).bindings.allStructs
      = (scope.pruned config api (layoutsOf config api reportA reportB)).items.allStructs.map
          scope.finishStruct := by
  rw [Survivors.allStructs, List.map_append]
  rfl

theorem names_generate_allStructs :
    (scope.generate config api reportA reportB).bindings.allStructs.map (·.name)
      = (scope.pruned config api (layoutsOf config api reportA reportB)).items.allStructs.map
          (·.name) := by
  rw [generate_allStructs, List.map_map]
  rfl

theorem generate_callbackStructs :
    (scope.generate config api reportA reportB).bindings.callbackStructs
      = (((scope.drafts config api (layoutsOf config api reportA reportB)).items.callbackStructs.filter
          fun item => (item.dropped? (scope.leftOut config api reportA reportB)).isNone).map
            (·.retainMethods (scope.leftOut config api reportA reportB))).map scope.finishStruct := by
  show List.map _ (List.map _ (prune _ _).items.callbackStructs) = _
  rw [prune_items]
  rfl

theorem generate_structs :
    (scope.generate config api reportA reportB).bindings.structs
      = (((scope.structStage config api (layoutsOf config api reportA reportB)).made.filter
          fun item => (item.dropped? (scope.leftOut config api reportA reportB)).isNone).map
            (·.retainMethods (scope.leftOut config api reportA reportB))).map scope.finishStruct := by
  show List.map _ (List.map _ (prune _ _).items.structs) = _
  rw [prune_items]
  rfl

theorem name_mem_structs {item : StructItem}
    (h : item ∈ (scope.generate config api reportA reportB).bindings.structs) :
    item.name ∈ api.structs.map (·.name) := by
  rw [generate_structs] at h
  obtain ⟨left, hleft, rfl⟩ := List.mem_map.mp h
  obtain ⟨made, hmade, rfl⟩ := List.mem_map.mp hleft
  exact (mem_structItems_made (List.mem_filter.mp hmade).1).1

theorem name_mem_includedCallbacks {item : StructItem}
    (h : item ∈ (scope.generate config api reportA reportB).bindings.callbackStructs) :
    item.name ∈ (config.includedCallbacks api).map (·.name) := by
  rw [generate_callbackStructs] at h
  obtain ⟨left, hleft, rfl⟩ := List.mem_map.mp h
  obtain ⟨made, hmade, rfl⟩ := List.mem_map.mp hleft
  have hstage := (List.mem_filter.mp (List.mem_filter.mp hmade).1).1
  exact (mem_structItems_made hstage).1

theorem name_mem_typedefs {item : TypedefItem}
    (h : item ∈ (scope.generate config api reportA reportB).bindings.extraTypedefs
      ++ (scope.generate config api reportA reportB).bindings.typedefs) :
    item.name ∈ (config.typedefEntries api).map (·.1) :=
  (mem_typedefStage_made (of_mem_pruneAll_allTypedefs h).1).1

theorem generate_declaredNames :
    (scope.generate config api reportA reportB).bindings.declaredNames api
      = (scope.pruned config api (layoutsOf config api reportA reportB)).items.allTypedefs.map
          (·.name)
        ++ config.opaqueTypes
        ++ api.allEnums.flatMap (fun (owner, decl) => enumNames owner decl)
        ++ (scope.pruned config api (layoutsOf config api reportA reportB)).items.allStructs.map
          (·.name)
        ++ api.interfaces.map (·.name) := by
  have henums : (api.allEnums.filter fun (owner, decl) =>
      (scope.generate config api reportA reportB).bindings.enums.any
        (·.name == enumItemName owner decl)) = api.allEnums :=
    List.filter_eq_self.mpr fun entry hentry => any_enumItems_of_mem_allEnums hentry
  have hinterfaces : (scope.generate config api reportA reportB).bindings.interfaces.map (·.name)
      = api.interfaces.map (·.name) := names_interfaceItems _ _ _
  rw [Bindings.declaredNames, henums, hinterfaces, names_generate_allStructs]
  rfl

/-- What is neither left out nor excluded is declared. -/
theorem mem_declaredNames_iff {name : String}
    (hkept : name ∉ scope.leftOut config api reportA reportB) :
    name ∈ (scope.generate config api reportA reportB).bindings.declaredNames api
      ↔ name ∈ config.includedNames api := by
  rw [generate_declaredNames, Config.includedNames]
  simp only [List.mem_append, mem_pruned_allTypedefs_iff hkept, mem_pruned_allStructs_iff hkept]

/-- The structs of a module come from drafts, with the types that these have. -/
theorem of_mem_generate_allStructs {item : StructItem}
    (h : item ∈ (scope.generate config api reportA reportB).bindings.allStructs) :
    ∃ draft, scope.IsLookedUp draft ∧ item.fieldNames = draft.fieldNames
      ∧ (∀ name ∈ draft.fieldNames, name ∉ scope.leftOut config api reportA reportB)
      ∧ ∀ method ∈ item.methods, method ∈ draft.methods
        ∧ ∀ name ∈ method.paramNames ++ method.resultNames,
          name ∉ scope.leftOut config api reportA reportB := by
  rw [generate_allStructs] at h
  obtain ⟨survivor, hsurvivor, rfl⟩ := List.mem_map.mp h
  obtain ⟨draft, hdraft, rfl, hfields⟩ := of_mem_pruneAll_allStructs hsurvivor
  refine ⟨draft, (mem_drafts_allStructs hdraft).2, ?_, hfields, ?_⟩
  · rw [fieldNames_finishStruct]
    rfl
  · intro method hmethod
    exact of_mem_retainMethods hmethod

section Indexed

variable (hindex : scope.index = .ofApi api config.extraTypedefs config.opaqueTypes)
include hindex

/-- Among the names that are not left out, following typedefs leads to no others. -/
theorem stepsWithin_not_leftOut :
    scope.index.StepsWithin scope.resolver fun name => scope.index.contains name = true
      ∧ name ∉ scope.leftOut config api reportA reportB := by
  rintro name type ⟨-, hkept⟩ hstep n hn
  have hstage : name ∉ (scope.typedefStage config api).dropped := fun hdropped =>
    hkept (subset_pruneAll_dropped _ _ (typedefStage_dropped_subset hdropped))
  have hmade := exists_draft_of_step? hindex hstep hstage
  have hknown := (mem_typedefStage_made hmade).2
  have hdraft : ⟨name, withHandles scope.index type⟩
      ∈ (scope.drafts config api (layoutsOf config api reportA reportB)).items.allTypedefs := hmade
  have hleft := not_mem_dropped_of_mem_allTypedefs hdraft hkept
  rw [names_withHandles] at hknown hleft
  exact ⟨hknown n hn, hleft n hn⟩

theorem interface_names {item : InterfaceItem} {method : Method}
    (hitem : item ∈ (scope.generate config api reportA reportB).bindings.interfaces)
    (hmethod : method ∈ item.methods) :
    ∀ name ∈ method.paramNames ++ method.resultNames, scope.index.contains name = true
      ∧ name ∉ scope.leftOut config api reportA reportB := by
  obtain ⟨decl, -, rfl⟩ := mem_interfaceItems_made_iff.mp hitem
  obtain ⟨methodDecl, -, made, hmade, hsame⟩ := exists_of_mem_methods hmethod
  rw [hsame.paramNames, hsame.resultNames]
  intro name hname
  rcases List.mem_append.mp hname with hname | hname
  · exact method_paramNames (stepsWithin_not_leftOut hindex) (fun _ hknown hleft => ⟨hknown, hleft⟩)
      hmade name hname
  · obtain ⟨hknown, hleft⟩ := method_resultNames hmade
    exact ⟨hknown name hname, hleft name hname⟩

theorem not_mem_leftOut_of_mem_references {name : String}
    (h : name ∈ (scope.generate config api reportA reportB).bindings.references) :
    name ∉ scope.leftOut config api reportA reportB := by
  rw [Bindings.references, List.mem_append, List.mem_append] at h
  rcases h with (h | h) | h
  · obtain ⟨item, hitem, hname⟩ := List.mem_flatMap.mp h
    exact (of_mem_pruneAll_allTypedefs hitem).2 name hname
  · obtain ⟨item, hitem, hname⟩ := List.mem_flatMap.mp h
    obtain ⟨draft, -, heq, hfields, -⟩ := of_mem_generate_allStructs hitem
    rw [heq] at hname
    exact hfields name hname
  · obtain ⟨method, hmethod, hname⟩ := List.mem_flatMap.mp h
    rcases List.mem_append.mp hmethod with hmethod | hmethod
    · obtain ⟨item, hitem, hmethod⟩ := List.mem_flatMap.mp hmethod
      obtain ⟨draft, -, -, -, hmethods⟩ := of_mem_generate_allStructs hitem
      exact (hmethods method hmethod).2 name hname
    · obtain ⟨item, hitem, hmethod⟩ := List.mem_flatMap.mp hmethod
      exact (interface_names hindex hitem hmethod name hname).2

/-- Everything but the parameters of the methods of structs has names that were looked up; so
have these if no typedef is left out. -/
theorem contains_of_mem_references {name : String}
    (h : name ∈ (scope.generate config api reportA reportB).bindings.references) :
    scope.index.contains name = true
      ∨ (name ∈ (scope.generate config api reportA reportB).bindings.structParamNames
        ∧ ∃ left, left ∈ (scope.typedefStage config api).dropped) := by
  rw [Bindings.references, List.mem_append, List.mem_append] at h
  rcases h with (h | h) | h
  · obtain ⟨item, hitem, hname⟩ := List.mem_flatMap.mp h
    exact .inl ((mem_typedefStage_made (of_mem_pruneAll_allTypedefs hitem).1).2 name hname)
  · obtain ⟨item, hitem, hname⟩ := List.mem_flatMap.mp h
    obtain ⟨draft, hlooked, heq, -⟩ := of_mem_generate_allStructs hitem
    rw [heq] at hname
    exact .inl (hlooked.fields name hname)
  · obtain ⟨method, hmethod, hname⟩ := List.mem_flatMap.mp h
    rcases List.mem_append.mp hmethod with hmethod | hmethod
    · obtain ⟨item, hitem, hmethod⟩ := List.mem_flatMap.mp hmethod
      obtain ⟨draft, hlooked, -, -, hmethods⟩ := of_mem_generate_allStructs hitem
      have hdraft := (hmethods method hmethod).1
      rcases List.mem_append.mp hname with hname | hname
      -- A parameter is looked up before it decays. Where the decay leads is looked up only by
      -- the typedefs on the way, if they are made.
      · by_cases hall : ∀ left, left ∉ (scope.typedefStage config api).dropped
        · have hknown := hlooked.params (stepsWithin_contains hindex hall) method hdraft
          exact .inl (hknown name hname)
        · refine .inr ⟨?_, Classical.not_forall_not.mp hall⟩
          exact List.mem_flatMap.mpr ⟨item, hitem, List.mem_flatMap.mpr ⟨method, hmethod, hname⟩⟩
      · exact .inl (hlooked.results method hdraft name hname)
    · obtain ⟨item, hitem, hmethod⟩ := List.mem_flatMap.mp hmethod
      exact .inl (interface_names hindex hitem hmethod name hname).1

end Indexed

end Generated

end Scope

def Config.scope (config : Config) (api : Api) (retypers : List Retyper) : Scope where
  index := .ofApi api config.extraTypedefs config.opaqueTypes
  resolver := .ofOverrides config.typeOverrides
  retypers
  boolMarker := config.naming.boolMarker
  skippedConstants := config.filters.skippedConstants

/-- Only the patterns of a configuration can stop a run. -/
theorem Config.generate_eq_ok_iff {patterns : PatternLanguage} {config : Config} {api : Api}
    {reportA reportB : PlatformReport} {generated : Generated} :
    config.generate patterns api reportA reportB = .ok generated
      ↔ ∃ retypers, config.retypings.mapM (Retyping.toRetyper patterns) = .ok retypers
        ∧ generated = (config.scope api retypers).generate config api reportA reportB := by
  rw [Config.generate, Scope.ofConfig]
  cases config.retypings.mapM (Retyping.toRetyper patterns) with
  | error failure =>
    constructor
    · intro h
      cases h
    · rintro ⟨retypers, h, -⟩
      cases h
  | ok retypers =>
    constructor
    · intro h
      cases h
      exact ⟨retypers, rfl, rfl⟩
    · rintro ⟨_, h, rfl⟩
      cases h
      rfl

theorem Config.exists_scope_of_generate {patterns : PatternLanguage} {config : Config} {api : Api}
    {reportA reportB : PlatformReport} {generated : Generated}
    (h : config.generate patterns api reportA reportB = .ok generated) :
    ∃ scope : Scope, scope.index = .ofApi api config.extraTypedefs config.opaqueTypes
      ∧ generated = scope.generate config api reportA reportB := by
  obtain ⟨retypers, -, rfl⟩ := Config.generate_eq_ok_iff.mp h
  exact ⟨config.scope api retypers, rfl, rfl⟩

/-- A name that a module refers to is declared in it if and only if it is the name of an entity
that the run is to make. Any other is the name of an excluded payload, or occurs in a
parameter of a method of a struct while the run leaves a typedef out. -/
theorem generate_references_declared_iff {patterns : PatternLanguage} {config : Config} {api : Api}
    {reportA reportB : PlatformReport} {generated : Generated}
    (h : config.generate patterns api reportA reportB = .ok generated) :
    ∀ name ∈ generated.bindings.references,
      (name ∈ generated.bindings.declaredNames api ↔ name ∈ config.includedNames api)
      ∧ (name ∈ config.includedNames api ∨ name ∈ config.excludedNames api
        ∨ (name ∈ generated.bindings.structParamNames
          ∧ generated.LeavesOutTypedef config api)) := by
  obtain ⟨scope, hindex, rfl⟩ := Config.exists_scope_of_generate h
  intro name hname
  have hkept := Scope.not_mem_leftOut_of_mem_references hindex hname
  refine ⟨Scope.mem_declaredNames_iff hkept, ?_⟩
  rcases Scope.contains_of_mem_references hindex hname with hknown | ⟨hparam, left, hleft⟩
  · rw [hindex] at hknown
    rcases Config.mem_names_of_contains hknown with hincluded | hexcluded
    · exact .inl hincluded
    · exact .inr (.inl hexcluded)
  · refine .inr (.inr ⟨hparam, ?_⟩)
    obtain ⟨hentry, issue, hissue, rfl, hfatal⟩ :=
      Scope.of_mem_typedefStage_dropped hleft (Scope.layoutsOf config api reportA reportB)
    refine ⟨issue, List.mem_filter.mpr ⟨?_, hfatal⟩, hentry⟩
    exact List.mem_append_left _ (List.mem_append_left _ hissue)

/-! ## Modules that are not closed -/

/-- A struct that points to a payload, which a configuration may exclude. -/
def holderApi : Api where
  callbackStructs := [{ name := "Gone_t", callbackId := some 7 }]
  structs := [{ name := "Holder_t", fields := [⟨"m_pGone", "Gone_t *"⟩] }]

def holderReport : PlatformReport :=
  .ofList [("Holder_t", ⟨8, 8, [⟨"m_pGone", 8, 8, some 0⟩]⟩)]

def holderConfig : Config where
  filters := { excludedCallbacks := ["Gone_t"] }
  retypings := []

theorem generate_excluded_payload_dangling :
    ∃ generated, holderConfig.generate Pattern.language holderApi holderReport holderReport
        = .ok generated
      ∧ "Gone_t" ∈ generated.bindings.references
      ∧ "Gone_t" ∉ generated.bindings.declaredNames holderApi := by
  refine ⟨_, rfl, ?_⟩
  decide +kernel

/-- A method whose parameter decays through a typedef that is left out. -/
def decayApi : Api where
  structs := [{
    name := "Reader_t"
    fields := [⟨"m_count", "Count_t"⟩]
    methods := [⟨"Read", "Reader_Read", "void", [{ name := "items", type := "Items_t" }]⟩] }]
  typedefs := [⟨"Count_t", "int"⟩, ⟨"Items_t", "Buffer_t"⟩, ⟨"Buffer_t", "Missing_t[3]"⟩]

def decayReport : PlatformReport :=
  .ofList [("Reader_t", ⟨4, 4, [⟨"m_count", 4, 4, some 0⟩]⟩)]

def decayConfig : Config where
  retypings := []

def decayScope : Scope where
  index := .ofApi decayApi .empty []
  resolver := .ofOverrides .empty
  retypers := []
  boolMarker := "m_b"
  skippedConstants := []

theorem generate_references_declared_iff_decay :
    ∃ generated, decayConfig.generate Pattern.language decayApi decayReport decayReport
        = .ok generated
      ∧ generated.bindings.references = ["Count_t", "Missing_t"]
      ∧ "Count_t" ∈ generated.bindings.declaredNames decayApi
      ∧ "Missing_t" ∉ generated.bindings.declaredNames decayApi
      ∧ generated.LeavesOutTypedef decayConfig decayApi := by
  have hgenerate : decayConfig.generate Pattern.language decayApi decayReport decayReport
      = .ok (decayScope.generate decayConfig decayApi decayReport decayReport) := rfl
  have hreferences : (decayScope.generate decayConfig decayApi decayReport
      decayReport).bindings.references = ["Count_t", "Missing_t"] := by decide +kernel
  have hall := generate_references_declared_iff hgenerate
  rw [hreferences] at hall
  obtain ⟨hcount, -⟩ := hall "Count_t" (by decide)
  obtain ⟨hmissing, hcause⟩ := hall "Missing_t" (by decide)
  have hincluded : "Missing_t" ∉ decayConfig.includedNames decayApi := by decide
  have hexcluded : "Missing_t" ∉ decayConfig.excludedNames decayApi := by decide
  refine ⟨_, hgenerate, hreferences, hcount.mpr (by decide), fun h => hincluded (hmissing.mp h), ?_⟩
  rcases hcause with h | h | ⟨-, h⟩
  · exact absurd h hincluded
  · exact absurd h hexcluded
  · exact h

end AbiBridge
