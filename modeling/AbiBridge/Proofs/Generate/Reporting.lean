import AbiBridge.Proofs.Generate.Removals

/-!
# What a report says is missing

If all declared names are different identifiers, an entity is missing from a module if and
only if the report on the run has an error under its name.
-/

namespace AbiBridge

/-- The kinds of entities that a run accounts for one by one. -/
inductive EntityKind where
  | typedef
  | constant
  | payload
  | struct
  deriving DecidableEq

def Bindings.entities (bindings : Bindings) : List (EntityKind × String) :=
  (bindings.extraTypedefs ++ bindings.typedefs).map (fun item => (.typedef, item.name))
    ++ bindings.consts.map (fun item => (.constant, item.name))
    ++ bindings.callbackStructs.map (fun item => (.payload, item.name))
    ++ bindings.structs.map fun item => (.struct, item.name)

/-- The entities that are asked for: all typedefs and structs, the constants that are not to be
skipped, and the payloads that are not excluded. -/
def Config.requested (config : Config) (api : Api) : List (EntityKind × String) :=
  (config.extraTypedefs.names ++ api.typedefs.map (·.name)).map (fun name => (.typedef, name))
    ++ (api.consts.filter fun decl => !config.filters.skippedConstants.contains decl.name).map
      (fun decl => (.constant, decl.name))
    ++ (config.includedCallbacks api).map (fun decl => (.payload, decl.name))
    ++ api.structs.map fun decl => (.struct, decl.name)

/-- The names that a descriptor and a configuration declare, those of nested enums in the form
that they have in a module. -/
def Config.declaredNames (config : Config) (api : Api) : List String :=
  config.extraTypedefs.names ++ api.typedefs.map (·.name) ++ api.consts.map (·.name)
    ++ api.callbackStructs.map (·.name) ++ api.structs.map (·.name)
    ++ api.allEnums.map (fun (owner, decl) => enumItemName owner decl)
    ++ api.interfaces.map (·.name)

namespace Scope

variable {scope : Scope} {config : Config} {api : Api} {layouts : Layouts} {name : String}

def constStage (scope : Scope) (config : Config) (api : Api) : Progress ConstItem :=
  scope.constItems (scope.typedefStage config api).dropped none api.consts

theorem drafts_log :
    (scope.drafts config api layouts).log
      = (scope.extraStage config).log ++ (scope.typedefStage config api).log ++ api.enumLog
        ++ (scope.constStage config api).log ++ (scope.payloadStage config api layouts).log
        ++ (scope.structStage config api layouts).log
        ++ (scope.outcomes config api layouts).filterMap (·.rejection?) :=
  rfl

theorem names_drafts :
    (scope.drafts config api layouts).items.names
      = (scope.extraStage config).made.map (·.name)
        ++ (scope.typedefStage config api).made.map (·.name)
        ++ ((scope.payloadStage config api layouts).made.filter fun item =>
          !(rejectedNames (scope.outcomes config api layouts)).contains item.name).map (·.name)
        ++ (scope.structStage config api layouts).made.map (·.name) :=
  rfl

theorem faults_constStage (scope : Scope) (config : Config) (api : Api) (name : String) :
    faults (scope.constStage config api).log name
        + ((scope.constStage config api).made.map (·.name)).count name
      = ((scope.keptConsts api.consts).map (·.name)).count name :=
  scope.faults_constItems (scope.typedefStage config api).dropped none api.consts name

/-- The drafts and the constants with the reported faults are what the run is to make. -/
theorem faults_drafts (scope : Scope) (config : Config) (hsound : Sound layouts) (hname : IsIdentifier name)
    (hpayloads : ((config.includedCallbacks api).map (·.name)).Nodup)
    (henum : name ∉ api.allEnums.map fun (owner, decl) => enumItemName owner decl) :
    faults (scope.drafts config api layouts).log name
        + (scope.drafts config api layouts).items.names.count name
        + ((scope.constStage config api).made.map (·.name)).count name
      = ((config.typedefEntries api).map (·.1) ++ (scope.keptConsts api.consts).map (·.name)
          ++ (config.includedCallbacks api).map (·.name) ++ api.structs.map (·.name)).count name := by
  have hextra : faults (scope.extraStage config).log name
      + ((scope.extraStage config).made.map (·.name)).count name
        = (config.extraTypedefs.entries.map (·.1)).count name :=
    scope.faults_typedefItems [] _ name
  have htypedefs : faults (scope.typedefStage config api).log name
      + ((scope.typedefStage config api).made.map (·.name)).count name
        = ((config.ownTypedefs api).map (·.1)).count name :=
    scope.faults_typedefItems (scope.extraStage config).dropped _ name
  have hconsts := scope.faults_constStage config api name
  have hmade : faults (scope.payloadStage config api layouts).log name
      + ((scope.payloadStage config api layouts).made.map (·.name)).count name
        = ((config.includedCallbacks api).map (·.name)).count name :=
    scope.faults_structItems (scope.typedefStage config api).dropped hsound hname _
  have hkept : faults ((scope.outcomes config api layouts).filterMap (·.rejection?)) name
      + (((scope.payloadStage config api layouts).made.filter fun item =>
          !(rejectedNames (scope.outcomes config api layouts)).contains item.name).map
            (·.name)).count name
        = ((scope.payloadStage config api layouts).made.map (·.name)).count name :=
    faults_rejections (nodup_payloadStage_names hpayloads) name
  have hstructs : faults (scope.structStage config api layouts).log name
      + ((scope.structStage config api layouts).made.map (·.name)).count name
        = (api.structs.map (·.name)).count name :=
    scope.faults_structItems (scope.payloadStage config api layouts).dropped hsound hname _
  have henums := faults_enumLog henum
  simp only [drafts_log, names_drafts, faults_append, List.count_append, Config.typedefEntries,
    List.map_append]
  omega

section Generated

variable {reportA reportB : PlatformReport}

def log (scope : Scope) (config : Config) (api : Api) (layouts : Layouts) : List EntityIssue :=
  (scope.drafts config api layouts).log ++ (scope.pruned config api layouts).log
    ++ (scope.interfaceItems (scope.pruned config api layouts).dropped api.interfaces).log

theorem generate_errors :
    (scope.generate config api reportA reportB).report.errors
      = (scope.log config api (layoutsOf config api reportA reportB)).filter (·.issue.isFatal) :=
  rfl

theorem mem_errors_of_mem_log {issue : EntityIssue} (hfatal : issue.issue.isFatal = true)
    (h : issue ∈ scope.log config api (layoutsOf config api reportA reportB)) :
    issue ∈ (scope.generate config api reportA reportB).report.errors :=
  List.mem_filter.mpr ⟨h, hfatal⟩

theorem mem_log_of_mem_drafts {issue : EntityIssue}
    (h : issue ∈ (scope.drafts config api layouts).log) : issue ∈ scope.log config api layouts :=
  List.mem_append_left _ (List.mem_append_left _ h)

theorem mem_log_of_mem_pruned {issue : EntityIssue}
    (h : issue ∈ (scope.pruned config api layouts).log) : issue ∈ scope.log config api layouts :=
  List.mem_append_left _ (List.mem_append_right _ h)

theorem generate_entities_names :
    (scope.generate config api reportA reportB).bindings.entities.map (·.2)
      = (scope.pruned config api (layoutsOf config api reportA reportB)).items.extraTypedefs.map (·.name)
        ++ (scope.pruned config api (layoutsOf config api reportA reportB)).items.typedefs.map (·.name)
        ++ (scope.constStage config api).made.map (·.name)
        ++ (scope.pruned config api (layoutsOf config api reportA reportB)).items.callbackStructs.map
          (·.name)
        ++ (scope.pruned config api (layoutsOf config api reportA reportB)).items.structs.map (·.name) := by
  have hpayloads : (scope.generate config api reportA reportB).bindings.callbackStructs
      = (scope.pruned config api (layoutsOf config api reportA reportB)).items.callbackStructs.map
          scope.finishStruct := rfl
  have hstructs : (scope.generate config api reportA reportB).bindings.structs
      = (scope.pruned config api (layoutsOf config api reportA reportB)).items.structs.map
          scope.finishStruct := rfl
  simp only [Bindings.entities, hpayloads, hstructs, List.map_append, List.map_map]
  rfl

/-- What a module has and what its report says is missing are what the run is to make. -/
theorem faults_log (scope : Scope) (config : Config) (reportA reportB : PlatformReport)
    (hname : IsIdentifier name)
    (hpayloads : ((config.includedCallbacks api).map (·.name)).Nodup)
    (henum : name ∉ api.allEnums.map fun (owner, decl) => enumItemName owner decl) :
    faults (scope.log config api (layoutsOf config api reportA reportB)) name
        + ((scope.generate config api reportA reportB).bindings.entities.map (·.2)).count name
      = ((config.typedefEntries api).map (·.1) ++ (scope.keptConsts api.consts).map (·.name)
          ++ (config.includedCallbacks api).map (·.name) ++ api.structs.map (·.name)).count name := by
  have hsound : Sound (layoutsOf config api reportA reportB) := sound_ofStructs _ _
  have hdrafts := scope.faults_drafts config hsound hname hpayloads henum
  have hpruned : faults (scope.pruned config api (layoutsOf config api reportA reportB)).log name
      + (scope.pruned config api (layoutsOf config api reportA reportB)).items.names.count name
        = (scope.drafts config api (layoutsOf config api reportA reportB)).items.names.count name :=
    faults_pruneAll hname _ _
  have hinterfaces : faults (scope.interfaceItems
      (scope.pruned config api (layoutsOf config api reportA reportB)).dropped api.interfaces).log
        name = 0 := faults_interfaceItems hname _
  rw [Survivors.names] at hpruned
  rw [generate_entities_names, log, faults_append, faults_append, hinterfaces]
  simp only [List.count_append] at hpruned hdrafts ⊢
  omega

end Generated

end Scope

theorem Config.typedefEntries_names_subset (config : Config) (api : Api) :
    (config.typedefEntries api).map (·.1)
      ⊆ config.extraTypedefs.names ++ api.typedefs.map (·.name) := by
  intro name hname
  rw [Config.typedefEntries, List.map_append] at hname
  rcases List.mem_append.mp hname with hextra | hown
  · exact List.mem_append_left _ hextra
  · obtain ⟨entry, hentry, rfl⟩ := List.mem_map.mp hown
    obtain ⟨decl, hdecl, rfl⟩ := List.mem_map.mp hentry
    exact List.mem_append_right _ (List.mem_map_of_mem (List.mem_filter.mp hdecl).1)

/-- If no name is declared twice, no typedef of the descriptor is replaced. -/
theorem Config.typedefEntries_names {config : Config} {api : Api}
    (h : (config.extraTypedefs.names ++ api.typedefs.map (·.name)).Nodup) :
    (config.typedefEntries api).map (·.1)
      = config.extraTypedefs.names ++ api.typedefs.map (·.name) := by
  have hall : (api.typedefs.filter fun decl => !config.extraTypedefs.contains decl.name)
      = api.typedefs := by
    refine List.filter_eq_self.mpr fun decl hdecl => ?_
    have hnew : decl.name ∉ config.extraTypedefs.names := fun hextra =>
      List.disjoint_of_nodup_append h hextra (List.mem_map_of_mem hdecl)
    rw [Bool.not_eq_true', ← Bool.not_eq_true, Dictionary.contains_iff_mem_names]
    exact hnew
  rw [Config.typedefEntries, Config.ownTypedefs, hall, List.map_append, List.map_map]
  rfl

theorem Config.requested_names (config : Config) (api : Api) :
    (config.requested api).map (·.2)
      = config.extraTypedefs.names ++ api.typedefs.map (·.name)
        ++ (api.consts.filter fun decl =>
          !config.filters.skippedConstants.contains decl.name).map (·.name)
        ++ (config.includedCallbacks api).map (·.name) ++ api.structs.map (·.name) := by
  simp only [Config.requested, List.map_append, List.map_map, Function.comp_def, List.map_id']

theorem Config.requested_names_sublist (config : Config) (api : Api) :
    ((config.requested api).map (·.2)).Sublist (config.extraTypedefs.names
      ++ api.typedefs.map (·.name) ++ api.consts.map (·.name)
      ++ api.callbackStructs.map (·.name) ++ api.structs.map (·.name)) := by
  rw [Config.requested_names]
  have hconsts : ((api.consts.filter fun decl =>
      !config.filters.skippedConstants.contains decl.name).map (·.name)).Sublist
        (api.consts.map (·.name)) := List.filter_sublist.map _
  have hpayloads : ((config.includedCallbacks api).map (·.name)).Sublist
      (api.callbackStructs.map (·.name)) := List.filter_sublist.map _
  exact (((List.Sublist.refl _).append hconsts).append hpayloads).append (List.Sublist.refl _)

theorem Config.entities_subset (config : Config) (api : Api) (retypers : List Retyper)
    (reportA reportB : PlatformReport) :
    ((config.scope api retypers).generate config api reportA reportB).bindings.entities
      ⊆ config.requested api := by
  rintro ⟨kind, name⟩ hentity
  simp only [Bindings.entities, List.mem_append, List.mem_map, Prod.mk.injEq] at hentity
  simp only [Config.requested, List.mem_append, List.mem_map, Prod.mk.injEq]
  rcases hentity with ((⟨item, hitem, rfl, rfl⟩ | ⟨item, hitem, rfl, rfl⟩)
    | ⟨item, hitem, rfl, rfl⟩) | ⟨item, hitem, rfl, rfl⟩
  · have hname := config.typedefEntries_names_subset api
      (Scope.name_mem_typedefs (List.mem_append.mpr hitem))
    exact .inl (.inl (.inl ⟨item.name, by simpa using hname, rfl, rfl⟩))
  · have hname := ((config.scope api retypers).constItems_made_sublist _ none api.consts).subset
      (List.mem_map_of_mem hitem)
    obtain ⟨decl, hdecl, heq⟩ := List.mem_map.mp hname
    exact .inl (.inl (.inr ⟨decl, hdecl, rfl, heq⟩))
  · obtain ⟨decl, hdecl, heq⟩ := List.mem_map.mp (Scope.name_mem_includedCallbacks hitem)
    exact .inl (.inr ⟨decl, hdecl, rfl, heq⟩)
  · obtain ⟨decl, hdecl, heq⟩ := List.mem_map.mp (Scope.name_mem_structs hitem)
    exact .inr ⟨decl, hdecl, rfl, heq⟩

/-- If all declared names are different identifiers, what a run is asked for is in the module if
and only if the report has no error under its name. -/
theorem generate_reports_missing {patterns : PatternLanguage} {config : Config} {api : Api}
    {reportA reportB : PlatformReport} {generated : Generated}
    (h : config.generate patterns api reportA reportB = .ok generated)
    (hnodup : (config.declaredNames api).Nodup)
    (hidentifiers : ∀ name ∈ config.declaredNames api, IsIdentifier name) :
    ∀ entity ∈ config.requested api, entity ∈ generated.bindings.entities
      ↔ ∀ issue ∈ generated.report.errors, issue.entity ≠ entity.2 := by
  obtain ⟨retypers, -, rfl⟩ := Config.generate_eq_ok_iff.mp h
  have hsubset := config.entities_subset api retypers reportA reportB
  obtain ⟨hothers, -, -⟩ := List.nodup_append.mp hnodup
  obtain ⟨hentities, -, henums⟩ := List.nodup_append.mp hothers
  have hrequested := config.requested_names_sublist api
  have hdifferent := hentities.sublist hrequested
  have hpayloads : ((config.includedCallbacks api).map (·.name)).Nodup :=
    (List.nodup_append.mp (List.nodup_append.mp hentities).1).2.1.sublist (List.filter_sublist.map _)
  have htypedefs := Config.typedefEntries_names (List.nodup_append.mp
    (List.nodup_append.mp (List.nodup_append.mp hentities).1).1).1
  intro entity hentity
  have hname : entity.2 ∈ (config.requested api).map (·.2) := List.mem_map_of_mem hentity
  have hidentifier : IsIdentifier entity.2 := hidentifiers _
    (List.mem_append_left _ (List.mem_append_left _ (hrequested.subset hname)))
  have henum : entity.2 ∉ api.allEnums.map fun (owner, decl) => enumItemName owner decl :=
    fun hmem => henums _ (hrequested.subset hname) _ hmem rfl
  have hcount := (config.scope api retypers).faults_log config reportA reportB hidentifier
    hpayloads henum
  have hone : ((config.requested api).map (·.2)).count entity.2 = 1 :=
    List.count_eq_one_of_mem hdifferent hname
  have hasked : faults ((config.scope api retypers).log config api
      (Scope.layoutsOf config api reportA reportB)) entity.2
        + (((config.scope api retypers).generate config api reportA reportB).bindings.entities.map
          (·.2)).count entity.2 = 1 := by
    rw [hcount, htypedefs, ← hone, Config.requested_names]
    rfl
  rw [Scope.generate_errors, ← faults_eq_zero_iff]
  constructor
  · intro hmade
    have hpositive : 0 < (((config.scope api retypers).generate config api reportA
        reportB).bindings.entities.map (·.2)).count entity.2 :=
      List.count_pos_iff.mpr (List.mem_map_of_mem hmade)
    omega
  · intro hzero
    have hpositive : 0 < (((config.scope api retypers).generate config api reportA
        reportB).bindings.entities.map (·.2)).count entity.2 := by omega
    obtain ⟨made, hmade, hsame⟩ := List.mem_map.mp (List.count_pos_iff.mp hpositive)
    have hentities := List.inj_on_of_nodup_map hdifferent (hsubset hmade) hentity hsame
    rwa [← hentities]

/-- A struct without a report takes along the typedef and the payload that name it. -/
def unreportedApi : Api where
  typedefs := [⟨"Count_t", "int"⟩, ⟨"Handle_t", "Absent_t *"⟩]
  consts := [⟨"kLimit", "Count_t", "8"⟩, ⟨"kBroken", "int", "LIMIT + 1"⟩, ⟨"kHidden", "int", "1"⟩]
  callbackStructs := [
    { name := "Opened_t", callbackId := some 1, fields := [⟨"m_hSource", "Handle_t"⟩] },
    { name := "Hidden_t", callbackId := some 2 }]
  structs := [{ name := "Absent_t" }, { name := "Present_t", fields := [⟨"m_nCount", "Count_t"⟩] }]

def unreportedReport : PlatformReport :=
  .ofList [("Opened_t", ⟨8, 8, [⟨"m_hSource", 8, 8, some 0⟩]⟩),
    ("Present_t", ⟨4, 4, [⟨"m_nCount", 4, 4, some 0⟩]⟩)]

def unreportedConfig : Config where
  filters := { excludedCallbacks := ["Hidden_t"], skippedConstants := ["kHidden"] }
  retypings := []

theorem generate_reports_missing_layout :
    ∃ generated, unreportedConfig.generate Pattern.language unreportedApi unreportedReport
        unreportedReport = .ok generated
      ∧ generated.report.errors.map (·.entity) = ["kBroken", "Absent_t", "Handle_t", "Opened_t"]
      ∧ (.struct, "Present_t") ∈ generated.bindings.entities
      ∧ (.constant, "kLimit") ∈ generated.bindings.entities
      ∧ (.typedef, "Handle_t") ∉ generated.bindings.entities := by
  have hgenerate : unreportedConfig.generate Pattern.language unreportedApi unreportedReport
        unreportedReport
      = .ok ((unreportedConfig.scope unreportedApi []).generate unreportedConfig unreportedApi
        unreportedReport unreportedReport) := rfl
  have herrors : ((unreportedConfig.scope unreportedApi []).generate unreportedConfig unreportedApi
      unreportedReport unreportedReport).report.errors.map (·.entity)
        = ["kBroken", "Absent_t", "Handle_t", "Opened_t"] := by decide +kernel
  have hall := generate_reports_missing hgenerate (by decide) (by decide)
  have hreported : ∀ name : String, (∀ issue ∈ ((unreportedConfig.scope unreportedApi []).generate
      unreportedConfig unreportedApi unreportedReport unreportedReport).report.errors,
        issue.entity ≠ name) ↔ name ∉ ["kBroken", "Absent_t", "Handle_t", "Opened_t"] := by
    intro name
    rw [← herrors, List.mem_map, not_exists]
    simp only [not_and]
  refine ⟨_, hgenerate, herrors, ?_, ?_, ?_⟩
  · exact (hall (.struct, "Present_t") (by decide)).mpr ((hreported _).mpr (by decide))
  · exact (hall (.constant, "kLimit") (by decide)).mpr ((hreported _).mpr (by decide))
  · intro hmade
    exact absurd (by decide) ((hreported _).mp ((hall (.typedef, "Handle_t") (by decide)).mp hmade))

end AbiBridge
