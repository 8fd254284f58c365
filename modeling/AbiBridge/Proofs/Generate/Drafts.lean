import AbiBridge.Generate.Run
import AbiBridge.Proofs.Descriptor.Index
import AbiBridge.Proofs.Generate.Stages

/-!
# Drafts of a run

Every typedef and every struct that a run is to make is among the drafts, or its name is
left out.
-/

namespace AbiBridge

/-- The typedefs that a run is to make, with what they stand for. -/
def Config.typedefEntries (config : Config) (api : Api) : List (String × String) :=
  config.extraTypedefs.entries ++ config.ownTypedefs api

theorem Config.mem_typedefEntries_of_target? {config : Config} {api : Api} {name raw : String}
    (h : (Index.ofApi api config.extraTypedefs config.opaqueTypes).target? name = some raw) :
    (name, raw) ∈ config.typedefEntries api := by
  rcases Index.target?_ofApi h with hextra | ⟨hnot, hdecl⟩
  · exact List.mem_append_left _ hextra
  · refine List.mem_append_right _ ?_
    obtain ⟨decl, hmem, heq⟩ := List.mem_map.mp hdecl
    cases heq
    refine List.mem_map.mpr ⟨decl, List.mem_filter.mpr ⟨hmem, ?_⟩, rfl⟩
    rw [Bool.not_eq_true', ← Bool.not_eq_true, Dictionary.contains_iff_mem_names]
    exact hnot

/-- Replaced or not, a typedef of the descriptor is one that the run is to make. -/
theorem Config.mem_typedefEntries_of_mem_typedefs {config : Config} {api : Api} {decl : TypedefDecl}
    (h : decl ∈ api.typedefs) : decl.name ∈ (config.typedefEntries api).map (·.1) := by
  rw [Config.typedefEntries, List.map_append, List.mem_append]
  by_cases hextra : config.extraTypedefs.contains decl.name = true
  · exact .inl (Dictionary.contains_iff_mem_names.mp hextra)
  · have hown : decl ∈ api.typedefs.filter fun decl => !config.extraTypedefs.contains decl.name :=
      List.mem_filter.mpr ⟨h, by simp [hextra]⟩
    exact .inr (List.mem_map_of_mem (List.mem_map_of_mem hown))

namespace Scope

variable {scope : Scope} {config : Config} {api : Api} {layouts : Layouts}

def extraStage (scope : Scope) (config : Config) : Progress TypedefItem :=
  scope.typedefItems [] config.extraTypedefs.entries

def typedefStage (scope : Scope) (config : Config) (api : Api) : Progress TypedefItem :=
  scope.typedefItems (scope.extraStage config).dropped (config.ownTypedefs api)

def payloadStage (scope : Scope) (config : Config) (api : Api) (layouts : Layouts) :
    Progress StructItem :=
  scope.structItems layouts (scope.typedefStage config api).dropped (config.includedCallbacks api)

def structStage (scope : Scope) (config : Config) (api : Api) (layouts : Layouts) :
    Progress StructItem :=
  scope.structItems layouts (scope.payloadStage config api layouts).dropped api.structs

theorem structStage_dropped_subset :
    (scope.structStage config api layouts).dropped ⊆ (scope.drafts config api layouts).dropped :=
  List.subset_append_right _ _

theorem payloadStage_dropped_subset :
    (scope.payloadStage config api layouts).dropped ⊆ (scope.drafts config api layouts).dropped :=
  List.Subset.trans (subset_structItems_dropped _ _ _ _) structStage_dropped_subset

theorem typedefStage_dropped_subset :
    (scope.typedefStage config api).dropped ⊆ (scope.drafts config api layouts).dropped :=
  List.Subset.trans (subset_structItems_dropped _ _ _ _) payloadStage_dropped_subset

theorem exists_mem_typedefStage {name raw : String}
    (hentry : (name, raw) ∈ config.typedefEntries api)
    (hkept : name ∉ (scope.typedefStage config api).dropped) :
    ∃ type, scope.resolver.resolve raw .value = .ok type
      ∧ ⟨name, withHandles scope.index type⟩
        ∈ (scope.extraStage config).made ++ (scope.typedefStage config api).made := by
  rcases List.mem_append.mp hentry with hextra | hown
  · have hkept' : name ∉ (scope.extraStage config).dropped := fun hdropped =>
      hkept (subset_typedefItems_dropped _ _ _ hdropped)
    obtain ⟨type, htype, hmade⟩ := exists_mem_typedefItems hextra hkept'
    exact ⟨type, htype, List.mem_append_left _ hmade⟩
  · obtain ⟨type, htype, hmade⟩ := exists_mem_typedefItems hown hkept
    exact ⟨type, htype, List.mem_append_right _ hmade⟩

theorem mem_typedefStage_made {item : TypedefItem}
    (h : item ∈ (scope.extraStage config).made ++ (scope.typedefStage config api).made) :
    item.name ∈ (config.typedefEntries api).map (·.1) ∧ scope.index.Knows item.type.names := by
  rw [Config.typedefEntries, List.map_append]
  rcases List.mem_append.mp h with hextra | hown
  · obtain ⟨hname, hknown⟩ := mem_typedefItems_made hextra
    exact ⟨List.mem_append_left _ hname, hknown⟩
  · obtain ⟨hname, hknown⟩ := mem_typedefItems_made hown
    exact ⟨List.mem_append_right _ hname, hknown⟩

theorem typedefStage_log_subset :
    (scope.extraStage config).log ++ (scope.typedefStage config api).log
      ⊆ (scope.drafts config api layouts).log := by
  intro issue hissue
  iterate 5 apply List.mem_append_left
  exact hissue

/-- A typedef that is left out for its own type is reported. -/
theorem of_mem_typedefStage_dropped {name : String}
    (h : name ∈ (scope.typedefStage config api).dropped) (layouts : Layouts) :
    name ∈ (config.typedefEntries api).map (·.1)
      ∧ ∃ issue ∈ (scope.drafts config api layouts).log,
        issue.entity = name ∧ issue.issue.isFatal = true := by
  rw [Config.typedefEntries, List.map_append]
  by_cases hextra : name ∈ (scope.extraStage config).dropped
  · obtain ⟨hname, issue, hissue, hfacts⟩ := of_mem_typedefItems_dropped hextra List.not_mem_nil
    exact ⟨List.mem_append_left _ hname, issue,
      typedefStage_log_subset (List.mem_append_left _ hissue), hfacts⟩
  · obtain ⟨hname, issue, hissue, hfacts⟩ := of_mem_typedefItems_dropped h hextra
    exact ⟨List.mem_append_right _ hname, issue,
      typedefStage_log_subset (List.mem_append_right _ hissue), hfacts⟩

theorem mem_drafts_allStructs_iff {item : StructItem} :
    item ∈ (scope.drafts config api layouts).items.allStructs
      ↔ (item ∈ (scope.payloadStage config api layouts).made
          ∧ item.name ∉ ((chooseCallbacks (scope.payloadStage config api layouts).made scope.index
            config.shim.deny).rejected.map (·.entity)))
        ∨ item ∈ (scope.structStage config api layouts).made := by
  rw [Survivors.allStructs, List.mem_append]
  refine or_congr_left ?_
  show item ∈ List.filter _ _ ↔ _
  rw [List.mem_filter]
  simp [payloadStage, typedefStage, extraStage]

/-- A struct is among the drafts, or its name is left out. -/
theorem exists_mem_drafts_allStructs {decl : StructDecl}
    (hdecl : decl ∈ config.includedCallbacks api ++ api.structs)
    (hkept : decl.name ∉ (scope.drafts config api layouts).dropped) :
    ∃ item ∈ (scope.drafts config api layouts).items.allStructs, item.name = decl.name := by
  rcases List.mem_append.mp hdecl with hpayload | hstruct
  · obtain ⟨item, hitem, hname⟩ := exists_mem_structItems hpayload
      fun hdropped => hkept (payloadStage_dropped_subset hdropped)
    refine ⟨item, mem_drafts_allStructs_iff.mpr (.inl ⟨hitem, fun hrejected => hkept ?_⟩), hname⟩
    rw [← hname]
    exact List.mem_append_left _ hrejected
  · obtain ⟨item, hitem, hname⟩ := exists_mem_structItems hstruct
      fun hdropped => hkept (structStage_dropped_subset hdropped)
    exact ⟨item, mem_drafts_allStructs_iff.mpr (.inr hitem), hname⟩

theorem mem_drafts_allStructs {item : StructItem}
    (h : item ∈ (scope.drafts config api layouts).items.allStructs) :
    item.name ∈ (config.includedCallbacks api ++ api.structs).map (·.name)
      ∧ scope.IsLookedUp item := by
  rw [List.map_append]
  rcases mem_drafts_allStructs_iff.mp h with ⟨hpayload, -⟩ | hstruct
  · obtain ⟨hname, hlooked⟩ := mem_structItems_made hpayload
    exact ⟨List.mem_append_left _ hname, hlooked⟩
  · obtain ⟨hname, hlooked⟩ := mem_structItems_made hstruct
    exact ⟨List.mem_append_right _ hname, hlooked⟩

section Following

variable (hindex : scope.index = .ofApi api config.extraTypedefs config.opaqueTypes)
include hindex

/-- What a typedef that is not left out stands for is that of one of the drafts. -/
theorem exists_draft_of_step? {name : String} {type : CType}
    (hstep : scope.index.step? scope.resolver name = some type)
    (hkept : name ∉ (scope.typedefStage config api).dropped) :
    ⟨name, withHandles scope.index type⟩
      ∈ (scope.extraStage config).made ++ (scope.typedefStage config api).made := by
  obtain ⟨raw, htarget, hread⟩ := Index.step?_eq_some_iff.mp hstep
  rw [hindex] at htarget
  obtain ⟨type', hread', hmade⟩ :=
    exists_mem_typedefStage (config.mem_typedefEntries_of_target? htarget) hkept
  rw [hread] at hread'
  cases hread'
  exact hmade

theorem stepsWithin_contains (hall : ∀ name, name ∉ (scope.typedefStage config api).dropped) :
    scope.index.StepsWithin scope.resolver (scope.index.contains · = true) := by
  intro name type _ hstep n hn
  obtain ⟨-, hknown⟩ := mem_typedefStage_made (exists_draft_of_step? hindex hstep (hall name))
  rw [names_withHandles] at hknown
  exact hknown n hn

end Following

end Scope

end AbiBridge
