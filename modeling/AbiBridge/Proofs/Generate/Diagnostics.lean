import AbiBridge.Proofs.Generate.Reporting
import AbiBridge.Proofs.Generate.Survival
import AbiBridge.Proofs.Layout.Alignment
import AbiBridge.Proofs.Module.Lines

/-!
# Diagnostics of a report

The diagnostics of a report are those of the layouts of all structs that are made. A struct that
stays declares the fields that they name with a mark. One that is rejected or pruned afterwards
is reported as left out as well.
-/

namespace AbiBridge

/-- The issues of a log that leave nothing out. -/
def remarks (log : List EntityIssue) : List EntityIssue :=
  log.filter (!·.issue.isFatal)

@[simp] theorem remarks_append (log log' : List EntityIssue) :
    remarks (log ++ log') = remarks log ++ remarks log' :=
  List.filter_append _ _

@[simp] theorem remarks_cons_of_isFatal {entity : String} {issue : Issue} (h : issue.isFatal = true)
    (log : List EntityIssue) : remarks (⟨entity, issue⟩ :: log) = remarks log :=
  List.filter_cons_of_neg (by simp [h])

theorem remarks_eq_nil {log : List EntityIssue} (h : ∀ issue ∈ log, issue.issue.isFatal = true) :
    remarks log = [] :=
  List.filter_eq_nil_iff.mpr fun issue hissue => by simp [h issue hissue]

def StructItem.remarks (item : StructItem) : List EntityIssue :=
  item.layout.diagnostics.map (⟨item.name, ·⟩)

/-! ## Logs without remarks -/

@[simp] theorem remarks_enumLog (api : Api) : remarks api.enumLog = [] := by
  refine remarks_eq_nil fun issue hissue => ?_
  obtain ⟨⟨owner, decl⟩, -, hissue⟩ := List.mem_flatMap.mp hissue
  obtain ⟨found, hfound, rfl⟩ := List.mem_map.mp hissue
  obtain ⟨value, -, rfl⟩ := List.mem_map.mp hfound
  rfl

theorem isFatal_of_mem_unresolvedItems {α : Type} {name : α → String}
    {dropped? : α → Option String} {items : List α} :
    ∀ issue ∈ unresolvedItems name dropped? items, issue.issue.isFatal = true := by
  intro issue hissue
  obtain ⟨item, -, hitem⟩ := List.mem_filterMap.mp hissue
  obtain ⟨missing, -, rfl⟩ := Option.map_eq_some_iff.mp hitem
  rfl

theorem isFatal_of_mem_issues {dropped : List String} {items : Survivors} :
    ∀ issue ∈ items.issues dropped, issue.issue.isFatal = true := by
  simp only [Survivors.issues, List.forall_mem_append]
  exact ⟨⟨⟨isFatal_of_mem_unresolvedItems, isFatal_of_mem_unresolvedItems⟩,
    isFatal_of_mem_unresolvedItems⟩, isFatal_of_mem_unresolvedItems⟩

@[simp] theorem remarks_prune (dropped : List String) (items : Survivors) :
    remarks (prune dropped items).log = [] := by
  fun_induction prune dropped items
  case case1 => rfl
  case case2 dropped items issue issues hissues log rest ih =>
    have hround : remarks log = [] := by
      refine remarks_eq_nil fun found hfound => ?_
      have hissue : found ∈ items.issues dropped := hissues ▸ hfound
      exact isFatal_of_mem_issues found hissue
    show remarks (log ++ rest.log) = []
    rw [remarks_append, hround, ih, List.append_nil]

@[simp] theorem remarks_pruneAll (dropped : List String) (items : Survivors) :
    remarks (pruneAll dropped items).log = [] := by
  have hmethods : ∀ structs : List StructItem, remarks (structs.flatMap
      (·.methodIssues (prune dropped items).dropped)) = [] := by
    intro structs
    refine remarks_eq_nil fun issue hissue => ?_
    obtain ⟨item, -, hissue⟩ := List.mem_flatMap.mp hissue
    exact isFatal_of_mem_unresolvedItems issue hissue
  simp [pruneAll, hmethods]

namespace Scope

variable {scope : Scope} {layouts : Layouts} {dropped taken : List String} {owner : String}
  {issue : Issue}

@[simp] theorem remarks_typedefItems (entries : List (String × String)) :
    remarks (scope.typedefItems dropped entries).log = [] := by
  induction entries generalizing dropped with
  | nil => rfl
  | cons entry entries ih =>
    obtain ⟨name, raw⟩ := entry
    rw [typedefItems]
    split
    · exact ih
    · next issue hissue => exact (remarks_cons_of_isFatal (resolve_error_isFatal hissue) _).trans ih

@[simp] theorem remarks_constItems (owner : Option String) (decls : List ConstDecl) :
    remarks (scope.constItems dropped owner decls).log = [] := by
  induction decls with
  | nil => rfl
  | cons decl decls ih =>
    rw [constItems]
    split
    · exact ih
    · rcases scope.constItem_name_or_isFatal dropped owner decl with
        ⟨item, hitem, -⟩ | ⟨issue, hissue, hfatal⟩
      · rw [hitem]
        exact ih
      · rw [hissue]
        exact (remarks_cons_of_isFatal hfatal _).trans ih

theorem resolveResultIn_error_isFatal {entity raw : String}
    (h : scope.resolveResultIn dropped owner entity raw = .error issue) : issue.isFatal = true := by
  rw [resolveResultIn] at h
  cases hread : scope.resolver.resolveResult raw .signature with
  | error failure =>
    rw [hread] at h
    cases h
    rfl
  | ok read =>
    rw [hread] at h
    cases read with
    | none => cases h
    | some type =>
      change (scope.checkNames dropped entity (scope.index.qualify owner type)).map some
        = .error issue at h
      cases hcheck : scope.checkNames dropped entity (scope.index.qualify owner type) with
      | error failure =>
        rw [hcheck] at h
        cases h
        exact checkNames_error_isFatal hcheck
      | ok type =>
        rw [hcheck] at h
        cases h

theorem paramInput_error_isFatal {method : String} {decl : ParamDecl}
    (h : scope.paramInput dropped owner method decl = .error issue) : issue.isFatal = true := by
  rw [paramInput] at h
  cases htype : scope.resolveIn dropped owner (method ++ "(" ++ decl.name ++ ")") decl.type
      .signature with
  | error failure =>
    rw [htype] at h
    cases h
    exact resolveIn_error_isFatal htype
  | ok type =>
    rw [htype] at h
    cases h

theorem method_error_isFatal {decl : MethodDecl}
    (h : scope.method dropped owner decl = .error issue) : issue.isFatal = true := by
  rw [Scope.method] at h
  cases hparams : decl.params.mapM
      (scope.paramInput dropped owner (qualifiedName owner decl.name)) with
  | error failure =>
    rw [hparams] at h
    cases h
    obtain ⟨param, -, hparam⟩ := exists_error_of_mapM hparams
    exact paramInput_error_isFatal hparam
  | ok params =>
    cases hresult : scope.resolveResultIn dropped owner (qualifiedName owner decl.name)
        decl.result with
    | error failure =>
      rw [hparams, hresult] at h
      cases h
      exact resolveResultIn_error_isFatal hresult
    | ok result =>
      rw [hparams, hresult] at h
      cases h

@[simp] theorem remarks_methods (decls : List MethodDecl) :
    remarks (scope.methods dropped owner taken decls).log = [] := by
  induction decls generalizing taken with
  | nil => rfl
  | cons decl decls ih =>
    rw [Scope.methods]
    split
    · exact ih
    · next issue hissue => exact (remarks_cons_of_isFatal (method_error_isFatal hissue) _).trans ih

@[simp] theorem remarks_interfaceItems (decls : List InterfaceDecl) :
    remarks (scope.interfaceItems dropped decls).log = [] := by
  induction decls with
  | nil => rfl
  | cons decl decls ih =>
    simp [interfaceItems, Progress.keep, ih]

/-! ## Remarks -/

theorem remarks_structItem {decl : StructDecl} {item : StructItem} {log : List EntityIssue}
    (hsound : Sound layouts) (h : scope.structItem layouts dropped decl = .ok (item, log)) :
    remarks log = item.remarks := by
  obtain ⟨layout, fields, hlayout, -, rfl, rfl⟩ := structItem_eq_ok h
  have hall : remarks (layout.diagnostics.map (⟨decl.name, ·⟩))
      = layout.diagnostics.map (⟨decl.name, ·⟩) := by
    refine List.filter_eq_self.mpr fun issue hissue => ?_
    obtain ⟨diagnostic, hdiagnostic, rfl⟩ := List.mem_map.mp hissue
    rw [hsound.diagnostics decl layout hlayout diagnostic hdiagnostic]
    rfl
  rw [remarks_append, remarks_append, remarks_constItems, remarks_methods, hall, List.append_nil,
    List.append_nil]
  rfl

theorem remarks_structItems (hsound : Sound layouts) (decls : List StructDecl) :
    remarks (scope.structItems layouts dropped decls).log
      = (scope.structItems layouts dropped decls).made.flatMap (·.remarks) := by
  induction decls generalizing dropped with
  | nil => rfl
  | cons decl decls ih =>
    rw [structItems]
    split
    · next item log hitem =>
      rw [Progress.keep, remarks_append, remarks_structItem hsound hitem, ih, List.flatMap_cons]
    · next issue hissue =>
      exact (remarks_cons_of_isFatal (structItem_error_isFatal hsound hissue) _).trans ih

section Run

variable {config : Config} {api : Api} {reportA reportB : PlatformReport}

/-- The structs that are made, whether they stay or not. -/
def madeStructs (scope : Scope) (config : Config) (api : Api) (layouts : Layouts) :
    List StructItem :=
  (scope.payloadStage config api layouts).made ++ (scope.structStage config api layouts).made

/-- The diagnostics of a run are those of all structs that are made. -/
theorem generate_diagnostics_eq :
    (scope.generate config api reportA reportB).report.diagnostics
      = (scope.madeStructs config api (layoutsOf config api reportA reportB)).flatMap
          (·.remarks) := by
  have hsound : Sound (layoutsOf config api reportA reportB) := sound_ofStructs _ _
  show remarks (scope.log config api (layoutsOf config api reportA reportB)) = _
  have hchoice : remarks ((scope.outcomes config api
      (layoutsOf config api reportA reportB)).filterMap (·.rejection?)) = [] :=
    remarks_eq_nil (isFatal_of_rejection _)
  simp [log, pruned, drafts_log, madeStructs, extraStage, typedefStage, constStage, payloadStage,
    structStage, hchoice, remarks_structItems hsound]

/-! ## Marks -/

theorem exists_decl_of_mem_structItems {decls : List StructDecl} {item : StructItem}
    (h : item ∈ (scope.structItems layouts dropped decls).made) :
    ∃ decl ∈ decls, decl.name = item.name ∧ layoutOf layouts decl = .ok item.layout
      ∧ ∀ field ∈ decl.fields, ∃ made ∈ item.fields, made.name = field.name := by
  induction decls generalizing dropped with
  | nil => cases h
  | cons decl decls ih =>
    rw [structItems] at h
    split at h
    · next made log hmade =>
      rcases List.mem_cons.mp h with rfl | h
      · obtain ⟨layout, fields, hlayout, hfields, rfl, -⟩ := structItem_eq_ok hmade
        refine ⟨decl, List.mem_cons_self, rfl, hlayout, fun field hfield => ?_⟩
        obtain ⟨made, hmem, hmadeField⟩ := mem_of_mapM hfields field hfield
        obtain ⟨type, -, rfl⟩ := fieldItem_eq_ok_iff.mp hmadeField
        exact ⟨_, hmem, rfl⟩
      · obtain ⟨decl', hdecl', hfacts⟩ := ih h
        exact ⟨decl', List.mem_cons_of_mem _ hdecl', hfacts⟩
    · obtain ⟨decl', hdecl', hfacts⟩ := ih h
      exact ⟨decl', List.mem_cons_of_mem _ hdecl', hfacts⟩

end Run

end Scope

def unresolvedMark (struct field : String) : String :=
  "    #[deprecated(note = \"unresolved alignment of `" ++ struct ++ "::" ++ field ++ "`\")]"

/-- A struct of the module declares the field with the mark. -/
def Bindings.MarksField (bindings : Bindings) (target : ModuleTarget) (struct field : String) :
    Prop :=
  ∃ item ∈ bindings.allStructs, item.name = struct
    ∧ item.declarationLines target <:+: bindings.lines target
    ∧ ∃ type, [unresolvedMark struct field, "    pub " ++ declaration field type ++ ","]
        <:+: item.declarationLines target

theorem infix_braced (head : String) (body : List String) : body <:+: braced head body :=
  ⟨[head ++ " \x7b"], ["\x7d"], rfl⟩

namespace StructItem

variable {item : StructItem} {field : FieldItem} {target : ModuleTarget}

theorem fieldLines_infix (hfield : field ∈ item.fields) :
    item.fieldLines target field <:+: item.declarationLines target := by
  have hfields : item.fieldLines target field
      <:+: item.fields.flatMap (item.fieldLines target) := by
    rw [List.flatMap_def]
    exact List.infix_of_mem_flatten (List.mem_map_of_mem hfield)
  rw [declarationLines]
  exact ((hfields.trans List.infix_append_left).trans (infix_braced _ _)).trans
    List.infix_append_right

theorem declarationLines_infix : item.declarationLines target <:+: item.lines target := by
  simp only [lines, List.append_assoc]
  exact List.infix_append_left

end StructItem

theorem Bindings.marksField_of_alignOf? {bindings : Bindings} {item : StructItem}
    {field : FieldItem} (target : ModuleTarget) (hitem : item ∈ bindings.allStructs)
    (hfield : field ∈ item.fields) (hnone : item.alignOf? field.name = none) :
    bindings.MarksField target item.name field.name := by
  have hlines : item.fieldLines target field <:+: item.declarationLines target :=
    StructItem.fieldLines_infix hfield
  rw [StructItem.fieldLines, StructItem.fieldAttribute, hnone] at hlines
  exact ⟨item, hitem, rfl,
    StructItem.declarationLines_infix.trans (infix_lines_of_mem_allStructs hitem), field.type,
    hlines⟩

namespace PlatformPair

variable {pair : PlatformPair}

theorem mem_missingFacts_iff {struct field : String} {onA onB : Option ReportedField}
    {issue : Issue} :
    issue ∈ pair.missingFacts struct field onA onB
      ↔ onA = none ∧ issue = .unreportedField struct field pair.a.name
        ∨ onB = none ∧ issue = .unreportedField struct field pair.b.name := by
  cases onA <;> cases onB <;> simp [missingFacts]

theorem align_fieldLayout_eq_none_iff {name : String} {onA onB : Option ReportedField} :
    (pair.fieldLayout name onA onB).align = none ↔ onA = none ∨ onB = none := by
  cases onA <;> cases onB <;> simp [fieldLayout]

/-- The diagnostics of a layout name fields of the struct whose alignments are not known. -/
theorem exists_field_of_mem_diagnostics {decl : StructDecl} {layout : StructLayout}
    {diagnostic : Issue} (h : pair.structLayout decl = .ok layout)
    (hmem : diagnostic ∈ layout.diagnostics) :
    ∃ field ∈ decl.fields, ∃ platform ∈ [pair.a.name, pair.b.name],
      diagnostic = .unreportedField decl.name field.name platform
      ∧ (layout.field? field.name).bind (·.align) = none := by
  obtain ⟨onA, onB, -, -, rfl⟩ := exists_reports_of_structLayout h
  obtain ⟨field, hfield, hmissing⟩ := List.mem_flatMap.mp hmem
  refine ⟨field, hfield, ?_⟩
  rw [field?_layoutOf hfield, Option.bind_some, align_fieldLayout_eq_none_iff]
  rcases mem_missingFacts_iff.mp hmissing with ⟨hnone, rfl⟩ | ⟨hnone, rfl⟩
  · exact ⟨pair.a.name, by simp, rfl, .inl hnone⟩
  · exact ⟨pair.b.name, by simp, rfl, .inr hnone⟩

end PlatformPair

/-! ## What becomes of a struct -/

theorem mem_prune_or_unresolved {dropped : List String} {items : Survivors} {item : StructItem}
    (h : item ∈ items.allStructs) :
    item ∈ (prune dropped items).items.allStructs
      ∨ ∃ missing, ⟨item.name, .unresolvedName item.name missing⟩ ∈ (prune dropped items).log := by
  fun_induction prune dropped items
  case case1 => exact .inl h
  case case2 dropped items issue issues hissues log rest ih =>
    cases hnow : item.dropped? dropped with
    | some missing =>
      have hround : ⟨item.name, .unresolvedName item.name missing⟩ ∈ items.issues dropped := by
        simp only [Survivors.issues, List.mem_append]
        rcases List.mem_append.mp h with h | h
        · exact .inl (.inr (mem_unresolvedItems_iff.mpr ⟨item, h, missing, hnow, rfl⟩))
        · exact .inr (mem_unresolvedItems_iff.mpr ⟨item, h, missing, hnow, rfl⟩)
      rw [hissues] at hround
      exact .inr ⟨missing, List.mem_append_left _ hround⟩
    | none =>
      have hstays : item ∈ (items.retain dropped).allStructs := by
        rw [Survivors.allStructs, Survivors.retain, ← List.filter_append]
        exact List.mem_filter.mpr ⟨h, by simp [hnow]⟩
      rcases ih hstays with hkept | ⟨missing, hmissing⟩
      · exact .inl hkept
      · exact .inr ⟨missing, List.mem_append_right _ hmissing⟩

theorem pruneAll_allStructs_eq_map (dropped : List String) (items : Survivors) :
    (pruneAll dropped items).items.allStructs
      = (prune dropped items).items.allStructs.map
          (·.retainMethods (pruneAll dropped items).dropped) :=
  List.map_append.symm

/-- The struct is rejected as the payload of a callback, or names what is left out. -/
def Issue.Removes (issue : Issue) (struct : String) : Prop :=
  (∃ id first, issue = .callbackIdTaken id first struct)
    ∨ (∃ field type, issue = .payloadNotFromBytes struct field type)
    ∨ ∃ missing, issue = .unresolvedName struct missing

theorem Issue.Removes.isFatal {issue : Issue} {struct : String} (h : issue.Removes struct) :
    issue.isFatal = true := by
  rcases h with ⟨id, first, rfl⟩ | ⟨field, type, rfl⟩ | ⟨missing, rfl⟩ <;> rfl

theorem removes_of_rejection {index : Index} {deny : List String} {taken : List (Int × String)}
    {items : List StructItem} :
    ∀ issue ∈ (decideFrom index deny taken items).filterMap (·.rejection?),
      issue.issue.Removes issue.entity := by
  induction items generalizing taken with
  | nil => exact fun issue hissue => absurd hissue List.not_mem_nil
  | cons item items ih =>
    have hnow : ∀ issue : Issue, issue.Removes item.name →
        ∀ found ∈ (CallbackOutcome.rejected item.name issue
            :: decideFrom index deny taken items).filterMap (·.rejection?),
          found.issue.Removes found.entity := by
      intro issue hremoves found hfound
      rcases List.mem_cons.mp hfound with rfl | hfound
      · exact hremoves
      · exact ih found hfound
    rw [decideFrom]
    split
    · exact ih
    · split
      · exact hnow _ (.inl ⟨_, _, rfl⟩)
      · split
        · exact hnow _ (.inr (.inl ⟨_, _, rfl⟩))
        · exact ih

namespace Scope

variable {scope : Scope} {config : Config} {api : Api} {reportA reportB : PlatformReport}
  {layouts : Layouts} {item : StructItem}

/-- A struct that is made becomes a draft, or it is rejected. -/
theorem mem_drafts_or_rejected (h : item ∈ scope.madeStructs config api layouts) :
    item ∈ (scope.drafts config api layouts).items.allStructs
      ∨ ∃ issue : Issue, issue.Removes item.name
        ∧ ⟨item.name, issue⟩ ∈ (scope.drafts config api layouts).log := by
  rcases List.mem_append.mp h with hpayload | hstruct
  · by_cases hrejected : item.name ∈ (chooseCallbacks (scope.payloadStage config api layouts).made
        scope.index config.shim.deny).rejected.map (·.entity)
    · obtain ⟨⟨entity, issue⟩, hissue, rfl⟩ := List.mem_map.mp hrejected
      exact .inr ⟨issue, removes_of_rejection _ hissue, List.mem_append_right _ hissue⟩
    · exact .inl (mem_drafts_allStructs_iff.mpr (.inl ⟨hpayload, hrejected⟩))
  · exact .inl (mem_drafts_allStructs_iff.mpr (.inr hstruct))

/-- A struct that is made stays in the module, or an error says why not. -/
theorem mem_allStructs_or_removed
    (h : item ∈ scope.madeStructs config api (layoutsOf config api reportA reportB)) :
    (∃ kept ∈ (scope.generate config api reportA reportB).bindings.allStructs,
        kept.name = item.name)
      ∨ ∃ issue : Issue, issue.Removes item.name
        ∧ ⟨item.name, issue⟩ ∈ (scope.generate config api reportA reportB).report.errors := by
  rcases mem_drafts_or_rejected h with hdraft | ⟨issue, hremoves, hissue⟩
  · rcases mem_prune_or_unresolved hdraft with hkept | ⟨missing, hmissing⟩
    · have hpruned : item.retainMethods (scope.leftOut config api reportA reportB)
          ∈ (scope.pruned config api (layoutsOf config api reportA reportB)).items.allStructs := by
        rw [pruned, pruneAll_allStructs_eq_map]
        exact List.mem_map_of_mem hkept
      refine .inl ⟨scope.finishStruct (item.retainMethods (scope.leftOut config api reportA
        reportB)), ?_, rfl⟩
      rw [generate_allStructs]
      exact List.mem_map_of_mem hpruned
    · exact .inr ⟨_, .inr (.inr ⟨missing, rfl⟩),
        mem_errors_of_mem_log rfl (mem_log_of_mem_pruned (List.mem_append_left _ hmissing))⟩
  · exact .inr ⟨issue, hremoves,
      mem_errors_of_mem_log hremoves.isFatal (mem_log_of_mem_drafts hissue)⟩

theorem nodup_madeStructs_names (hnames : ((config.structDecls api).map (·.name)).Nodup) :
    ((scope.madeStructs config api layouts).map (·.name)).Nodup := by
  have hsublist : ∀ dropped decls, ((scope.structItems layouts dropped decls).made.map
      (·.name)).Sublist (decls.map (·.name)) := by
    intro dropped decls
    have hmade := (structItems_made_sublist scope layouts dropped decls).map Prod.fst
    rwa [List.map_map, List.map_map] at hmade
  refine hnames.sublist ?_
  rw [madeStructs, Config.structDecls, List.map_append, List.map_append]
  exact (hsublist _ _).append (hsublist _ _)

/-- A struct of the module has the layout and the fields of the one that was made under its
name. -/
theorem eq_of_mem_allStructs (hnames : ((config.structDecls api).map (·.name)).Nodup)
    {kept : StructItem}
    (h : item ∈ scope.madeStructs config api (layoutsOf config api reportA reportB))
    (hkept : kept ∈ (scope.generate config api reportA reportB).bindings.allStructs)
    (hname : kept.name = item.name) :
    kept.layout = item.layout ∧ kept.fields.map (·.name) = item.fields.map (·.name) := by
  rw [generate_allStructs] at hkept
  obtain ⟨survivor, hsurvivor, rfl⟩ := List.mem_map.mp hkept
  obtain ⟨draft, hdraft, rfl, -⟩ := of_mem_pruneAll_allStructs hsurvivor
  have hmade : draft ∈ scope.madeStructs config api (layoutsOf config api reportA reportB) := by
    rcases mem_drafts_allStructs_iff.mp hdraft with ⟨hpayload, -⟩ | hstruct
    · exact List.mem_append_left _ hpayload
    · exact List.mem_append_right _ hstruct
  obtain rfl : draft = item :=
    List.inj_on_of_nodup_map (nodup_madeStructs_names hnames) hmade h hname
  exact ⟨rfl, by simp [finishStruct, StructItem.retainMethods]⟩

/-- A diagnostic names a field without a known alignment of a struct that is made. -/
theorem exists_field_of_mem_remarks (hnames : ((config.structDecls api).map (·.name)).Nodup)
    (h : item ∈ scope.madeStructs config api (layoutsOf config api reportA reportB))
    {diagnostic : EntityIssue} (hmem : diagnostic ∈ item.remarks) :
    ∃ decl ∈ config.structDecls api, decl.name = item.name ∧ ∃ field ∈ decl.fields,
      (∃ platform ∈ [config.platformA.name, config.platformB.name],
        diagnostic = ⟨decl.name, .unreportedField decl.name field.name platform⟩)
      ∧ field.name ∈ item.fields.map (·.name) ∧ item.alignOf? field.name = none := by
  obtain ⟨decl, hdecl, hname, hlayout, hfields⟩ : ∃ decl ∈ config.structDecls api,
      decl.name = item.name
      ∧ layoutOf (layoutsOf config api reportA reportB) decl = .ok item.layout
      ∧ ∀ field ∈ decl.fields, ∃ made ∈ item.fields, made.name = field.name := by
    rcases List.mem_append.mp h with hpayload | hstruct
    · obtain ⟨decl, hdecl, hfacts⟩ := exists_decl_of_mem_structItems hpayload
      exact ⟨decl, List.mem_append_left _ hdecl, hfacts⟩
    · obtain ⟨decl, hdecl, hfacts⟩ := exists_decl_of_mem_structItems hstruct
      exact ⟨decl, List.mem_append_right _ hdecl, hfacts⟩
  rw [layoutOf_layoutsOf hnames reportA reportB hdecl] at hlayout
  obtain ⟨issue, hissue, rfl⟩ := List.mem_map.mp hmem
  obtain ⟨field, hfield, platform, hplatform, rfl, hnone⟩ :=
    PlatformPair.exists_field_of_mem_diagnostics hlayout hissue
  refine ⟨decl, hdecl, hname, field, hfield, ⟨platform, hplatform, by rw [hname]⟩, ?_, hnone⟩
  obtain ⟨made, hmade, heq⟩ := hfields field hfield
  exact heq ▸ List.mem_map_of_mem hmade

end Scope

/-- The module has no struct of the name, and an error of the run says why. -/
def Generated.Removes (generated : Generated) (struct : String) : Prop :=
  struct ∉ generated.bindings.allStructs.map (·.name)
    ∧ ∃ issue : Issue, issue.Removes struct ∧ ⟨struct, issue⟩ ∈ generated.report.errors

/-- Every diagnostic names a field of a struct about which a platform reports nothing. The struct
is in the module and declares the field with the mark of an unknown alignment, or it is missing
because it was rejected as a payload or refers to what is left out. -/
theorem generate_diagnostics_marked_or_removed {patterns : PatternLanguage} {config : Config}
    {api : Api} {reportA reportB : PlatformReport} {generated : Generated}
    (h : config.generate patterns api reportA reportB = .ok generated)
    (hnames : ((config.structDecls api).map (·.name)).Nodup) :
    ∀ diagnostic ∈ generated.report.diagnostics,
      ∃ decl ∈ config.structDecls api, ∃ field ∈ decl.fields,
        (∃ platform ∈ [config.platformA.name, config.platformB.name],
          diagnostic = ⟨decl.name, .unreportedField decl.name field.name platform⟩)
        ∧ (generated.bindings.MarksField config.target decl.name field.name
          ∨ generated.Removes decl.name) := by
  obtain ⟨scope, -, rfl⟩ := Config.exists_scope_of_generate h
  intro diagnostic hdiagnostic
  rw [Scope.generate_diagnostics_eq] at hdiagnostic
  obtain ⟨item, hitem, hremark⟩ := List.mem_flatMap.mp hdiagnostic
  obtain ⟨decl, hdecl, hname, field, hfield, hform, hdeclared, hnone⟩ :=
    Scope.exists_field_of_mem_remarks hnames hitem hremark
  refine ⟨decl, hdecl, field, hfield, hform, ?_⟩
  rw [hname]
  by_cases hstays : ∃ kept ∈ (scope.generate config api reportA reportB).bindings.allStructs,
      kept.name = item.name
  · obtain ⟨kept, hkept, hkeptName⟩ := hstays
    obtain ⟨hlayout, hfields⟩ := Scope.eq_of_mem_allStructs hnames hitem hkept hkeptName
    rw [← hfields] at hdeclared
    obtain ⟨made, hmade, hmadeName⟩ := List.mem_map.mp hdeclared
    rw [StructItem.alignOf?, ← hlayout, ← hmadeName] at hnone
    rw [← hkeptName, ← hmadeName]
    exact .inl (Bindings.marksField_of_alignOf? _ hkept hmade hnone)
  · rcases Scope.mem_allStructs_or_removed hitem with hkept | hremoved
    · exact absurd hkept hstays
    · exact .inr ⟨fun hmem => hstays (List.mem_map.mp hmem), hremoved⟩

def halfApi : Api where
  structs := [
    { name := "Half_t", fields := [⟨"m_nCount", "int"⟩, ⟨"m_pOther", "Other_t *"⟩] },
    { name := "Other_t", fields := [⟨"m_nCount", "int"⟩] }]

/-- Nothing is reported about the first field. -/
def halfReport : PlatformReport :=
  .ofList [("Half_t", ⟨16, 8, [⟨"m_pOther", 8, 8, some 8⟩]⟩),
    ("Other_t", ⟨4, 4, [⟨"m_nCount", 4, 4, some 0⟩]⟩)]

/-- Nothing is reported about the other struct either. -/
def loneReport : PlatformReport :=
  .ofList [("Half_t", ⟨16, 8, [⟨"m_pOther", 8, 8, some 8⟩]⟩)]

/-- The field that is not reported has the mark. -/
theorem generate_diagnostics_marked :
    ∃ generated, decayConfig.generate Pattern.language halfApi halfReport halfReport = .ok generated
      ∧ ((decayConfig.structDecls halfApi).map (·.name)).Nodup
      ∧ generated.report.diagnostics.map (·.entity) = ["Half_t", "Half_t"]
      ∧ generated.bindings.MarksField decayConfig.target "Half_t" "m_nCount" := by
  have hnames : ((decayConfig.structDecls halfApi).map (·.name)).Nodup := by decide
  obtain ⟨generated, hgenerate, hentities, hdiagnostic, hstruct⟩ :
      ∃ generated, decayConfig.generate Pattern.language halfApi halfReport halfReport
          = .ok generated
        ∧ generated.report.diagnostics.map (·.entity) = ["Half_t", "Half_t"]
        ∧ ⟨"Half_t", .unreportedField "Half_t" "m_nCount" decayConfig.platformA.name⟩
          ∈ generated.report.diagnostics
        ∧ "Half_t" ∈ generated.bindings.allStructs.map (·.name) :=
    ⟨_, rfl, by decide +kernel⟩
  refine ⟨generated, hgenerate, hnames, hentities, ?_⟩
  obtain ⟨decl, -, field, -, ⟨platform, -, hform⟩, hfate⟩ :=
    generate_diagnostics_marked_or_removed hgenerate hnames _ hdiagnostic
  simp only [EntityIssue.mk.injEq, Issue.unreportedField.injEq] at hform
  obtain ⟨hdecl, -, hfield, -⟩ := hform
  rw [← hdecl, ← hfield] at hfate
  rcases hfate with hmarked | ⟨hgone, -⟩
  · exact hmarked
  · exact absurd hstruct hgone

/-- Once the struct is left out its diagnostics stay. -/
theorem generate_diagnostics_removed :
    ∃ generated, decayConfig.generate Pattern.language halfApi loneReport loneReport = .ok generated
      ∧ ((decayConfig.structDecls halfApi).map (·.name)).Nodup
      ∧ ∃ diagnostic ∈ generated.report.diagnostics,
        diagnostic.entity ∉ generated.bindings.allStructs.map (·.name) :=
  ⟨_, rfl, by decide +kernel⟩

end AbiBridge
