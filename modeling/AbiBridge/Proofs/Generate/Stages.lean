import AbiBridge.Generate.Run
import AbiBridge.Proofs.Generate.Prune
import AbiBridge.Proofs.Generate.TypeNames
import AbiBridge.Proofs.Param.Offered
import AbiBridge.Proofs.Result

/-!
# What each stage makes

Every declaration is made or its name is left out, what is made comes from a declaration,
and its types have names that were looked up.
-/

namespace AbiBridge

/-- The methods differ at most in their wrappers. -/
structure Method.Resembles (method made : Method) : Prop where
  flatName : method.flatName = made.flatName
  paramNames : method.paramNames = made.paramNames
  resultNames : method.resultNames = made.resultNames

namespace Scope

variable {scope : Scope} {layouts : Layouts} {dropped taken : List String} {owner : String}

theorem subset_typedefItems_dropped (scope : Scope) (dropped : List String)
    (entries : List (String × String)) :
    dropped ⊆ (scope.typedefItems dropped entries).dropped := by
  induction entries generalizing dropped with
  | nil => exact List.Subset.refl _
  | cons entry entries ih =>
    obtain ⟨name, raw⟩ := entry
    rw [typedefItems]
    split
    · exact ih dropped
    · exact List.Subset.trans (List.subset_cons_self _ _) (ih (name :: dropped))

/-- A typedef that is not left out is made. -/
theorem exists_mem_typedefItems {entries : List (String × String)} {name raw : String}
    (hentry : (name, raw) ∈ entries)
    (hkept : name ∉ (scope.typedefItems dropped entries).dropped) :
    ∃ type, scope.resolver.resolve raw .value = .ok type
      ∧ ⟨name, withHandles scope.index type⟩ ∈ (scope.typedefItems dropped entries).made := by
  induction entries generalizing dropped with
  | nil => cases hentry
  | cons entry entries ih =>
    obtain ⟨name', raw'⟩ := entry
    rw [typedefItems] at hkept ⊢
    split at hkept
    · next type htype =>
      rcases List.mem_cons.mp hentry with heq | hentry
      · cases heq
        exact ⟨type, (resolve_eq_ok htype).1, List.mem_cons_self⟩
      · obtain ⟨type', htype', hmade⟩ := ih hentry hkept
        exact ⟨type', htype', List.mem_cons_of_mem _ hmade⟩
    · next issue hissue =>
      rcases List.mem_cons.mp hentry with heq | hentry
      · cases heq
        exact absurd (subset_typedefItems_dropped _ _ _ List.mem_cons_self) hkept
      · exact ih hentry hkept

/-- A typedef that is made is read when the names of some set are left out. -/
theorem exists_of_mem_typedefItems_made {entries : List (String × String)} {item : TypedefItem}
    (h : item ∈ (scope.typedefItems dropped entries).made) :
    ∃ raw type left, (item.name, raw) ∈ entries
      ∧ scope.resolve left item.name raw .value = .ok type
      ∧ item.type = withHandles scope.index type := by
  induction entries generalizing dropped with
  | nil => cases h
  | cons entry entries ih =>
    obtain ⟨first, raw⟩ := entry
    rw [typedefItems] at h
    split at h
    · next type htype =>
      rcases List.mem_cons.mp h with rfl | h
      · exact ⟨raw, type, dropped, List.mem_cons_self, htype, rfl⟩
      · obtain ⟨raw', type', left, hentry, hfacts⟩ := ih h
        exact ⟨raw', type', left, List.mem_cons_of_mem _ hentry, hfacts⟩
    · obtain ⟨raw', type', left, hentry, hfacts⟩ := ih h
      exact ⟨raw', type', left, List.mem_cons_of_mem _ hentry, hfacts⟩

theorem mem_typedefItems_made {entries : List (String × String)} {item : TypedefItem}
    (h : item ∈ (scope.typedefItems dropped entries).made) :
    item.name ∈ entries.map (·.1) ∧ scope.index.Knows item.type.names := by
  obtain ⟨raw, type, left, hentry, htype, heq⟩ := exists_of_mem_typedefItems_made h
  rw [heq, names_withHandles]
  exact ⟨List.mem_map_of_mem hentry, (resolve_eq_ok htype).2.1⟩

theorem resolve_error_isFatal {entity raw : String} {position : Position} {issue : Issue}
    (h : scope.resolve dropped entity raw position = .error issue) : issue.isFatal = true := by
  rw [resolve] at h
  cases hread : scope.resolver.resolve raw position with
  | error failure =>
    rw [hread] at h
    cases h
    rfl
  | ok read =>
    rw [hread] at h
    change scope.checkNames dropped entity read = .error issue at h
    rw [checkNames] at h
    split at h
    · cases h
      rfl
    · cases h

/-- A typedef that is left out by this stage is reported. -/
theorem of_mem_typedefItems_dropped {entries : List (String × String)} {name : String}
    (h : name ∈ (scope.typedefItems dropped entries).dropped) (hnew : name ∉ dropped) :
    name ∈ entries.map (·.1)
      ∧ ∃ issue ∈ (scope.typedefItems dropped entries).log,
        issue.entity = name ∧ issue.issue.isFatal = true := by
  induction entries generalizing dropped with
  | nil => exact absurd h hnew
  | cons entry entries ih =>
    obtain ⟨name', raw⟩ := entry
    rw [typedefItems] at h ⊢
    split at h
    · obtain ⟨hname, issue, hissue, hfacts⟩ := ih h hnew
      exact ⟨List.mem_cons_of_mem _ hname, issue, List.mem_append_right _ hissue, hfacts⟩
    · next issue hissue =>
      by_cases hname : name = name'
      · rw [hname]
        exact ⟨List.mem_cons_self, ⟨name', issue⟩, List.mem_cons_self, rfl,
          resolve_error_isFatal hissue⟩
      · obtain ⟨hentry, issue', hissue', hfacts⟩ := ih h (by simp [hname, hnew])
        exact ⟨List.mem_cons_of_mem _ hentry, issue', List.mem_cons_of_mem _ hissue', hfacts⟩

theorem mem_ofRaw {params : List RawParam} {param : Param} (h : param ∈ Param.ofRaw params) :
    ∃ raw ∈ params, raw.type = param.type := by
  rw [← List.mem_map, ← types_ofRaw]
  exact List.mem_map_of_mem h

theorem paramInput_names {P : String → Prop} {method : String} {decl : ParamDecl} {raw : RawParam}
    (hstep : scope.index.StepsWithin scope.resolver P)
    (hlooked : ∀ name, scope.index.contains name = true → name ∉ dropped → P name)
    (h : scope.paramInput dropped owner method decl = .ok raw) : ∀ name ∈ raw.type.names, P name := by
  rw [paramInput] at h
  cases htype : scope.resolveIn dropped owner (method ++ "(" ++ decl.name ++ ")") decl.type
      .signature with
  | error issue =>
    rw [htype] at h
    cases h
  | ok type =>
    rw [htype] at h
    cases h
    obtain ⟨hknown, hkept⟩ := resolveIn_eq_ok htype
    rw [names_withHandles]
    exact Index.names_decayTypedef hstep fun name hname =>
      hlooked name (hknown name hname) (hkept name hname)

/-- A method is made if its parameters and its result are read. -/
theorem method_eq_ok_iff {decl : MethodDecl} {method : Method} :
    scope.method dropped owner decl = .ok method
      ↔ ∃ params result,
        decl.params.mapM (scope.paramInput dropped owner (qualifiedName owner decl.name))
          = .ok params
        ∧ scope.resolveResultIn dropped owner (qualifiedName owner decl.name) decl.result
          = .ok result
        ∧ method = {
            flatName := decl.flatName
            wrapper := (wrapperFor? owner decl.flatName).map identifierFor
            params := Param.ofRaw params
            result := result.map (withHandles scope.index) } := by
  constructor
  · intro h
    rw [Scope.method] at h
    cases hparams : decl.params.mapM
        (scope.paramInput dropped owner (qualifiedName owner decl.name)) with
    | error issue =>
      rw [hparams] at h
      cases h
    | ok params =>
      cases hresult : scope.resolveResultIn dropped owner (qualifiedName owner decl.name)
          decl.result with
      | error issue =>
        rw [hparams, hresult] at h
        cases h
      | ok result =>
        rw [hparams, hresult] at h
        cases h
        exact ⟨params, result, rfl, rfl, rfl⟩
  · rintro ⟨params, result, hparams, hresult, rfl⟩
    rw [Scope.method, hparams, hresult]
    rfl

/-- The parts of a method that was made. -/
theorem method_eq_ok {decl : MethodDecl} {method : Method}
    (h : scope.method dropped owner decl = .ok method) :
    ∃ params result,
      decl.params.mapM (scope.paramInput dropped owner (qualifiedName owner decl.name)) = .ok params
      ∧ scope.resolveResultIn dropped owner (qualifiedName owner decl.name) decl.result = .ok result
      ∧ method.params = Param.ofRaw params
      ∧ method.result = result.map (withHandles scope.index) := by
  obtain ⟨params, result, hparams, hresult, rfl⟩ := method_eq_ok_iff.mp h
  exact ⟨params, result, hparams, hresult, rfl, rfl⟩

theorem method_paramNames {P : String → Prop} {decl : MethodDecl} {method : Method}
    (hstep : scope.index.StepsWithin scope.resolver P)
    (hlooked : ∀ name, scope.index.contains name = true → name ∉ dropped → P name)
    (h : scope.method dropped owner decl = .ok method) : ∀ name ∈ method.paramNames, P name := by
  obtain ⟨params, result, hparams, -, heq, -⟩ := method_eq_ok h
  intro name hname
  obtain ⟨param, hparam, hname⟩ := List.mem_flatMap.mp hname
  rw [heq] at hparam
  obtain ⟨raw, hraw, htype⟩ := mem_ofRaw hparam
  obtain ⟨paramDecl, -, hmade⟩ := exists_of_mem_mapM hparams raw hraw
  rw [← htype] at hname
  exact paramInput_names hstep hlooked hmade name hname

/-- Handles name what the result as it was read names. -/
theorem resultNames_eq {method : Method} {result : Option CType}
    (h : method.result = result.map (withHandles scope.index)) :
    method.resultNames = result.toList.flatMap (·.names) := by
  rw [Method.resultNames, h]
  cases result with
  | none => rfl
  | some type => simp

theorem method_resultNames {decl : MethodDecl} {method : Method}
    (h : scope.method dropped owner decl = .ok method) :
    scope.index.Knows method.resultNames ∧ ∀ name ∈ method.resultNames, name ∉ dropped := by
  obtain ⟨params, result, -, hresult, -, heq⟩ := method_eq_ok h
  have hlooked : ∀ name ∈ method.resultNames, scope.index.contains name = true ∧ name ∉ dropped := by
    intro name hname
    rw [resultNames_eq heq] at hname
    obtain ⟨type, htype, hname⟩ := List.mem_flatMap.mp hname
    obtain ⟨hknown, hkept⟩ := resolveResultIn_eq_ok hresult type (Option.mem_toList.mp htype)
    exact ⟨hknown name hname, hkept name hname⟩
  exact ⟨fun name hname => (hlooked name hname).1, fun name hname => (hlooked name hname).2⟩

theorem resembles_withFreeWrapper (taken : List String) (made : Method) :
    (withFreeWrapper taken made).Resembles made := by
  rw [withFreeWrapper]
  split
  · split <;> exact ⟨rfl, rfl, rfl⟩
  · exact ⟨rfl, rfl, rfl⟩

/-- A method of the list is one that was made, if perhaps without its wrapper. -/
theorem exists_withFreeWrapper_of_mem_methods {decls : List MethodDecl} {method : Method}
    (h : method ∈ (scope.methods dropped owner taken decls).made) :
    ∃ decl ∈ decls, ∃ made taken', scope.method dropped owner decl = .ok made
      ∧ method = withFreeWrapper taken' made := by
  induction decls generalizing taken with
  | nil => cases h
  | cons decl decls ih =>
    rw [methods] at h
    split at h
    · next made hmade =>
      rcases List.mem_cons.mp h with rfl | h
      · exact ⟨decl, List.mem_cons_self, made, taken, hmade, rfl⟩
      · obtain ⟨decl', hdecl', hfacts⟩ := ih h
        exact ⟨decl', List.mem_cons_of_mem _ hdecl', hfacts⟩
    · obtain ⟨decl', hdecl', hfacts⟩ := ih h
      exact ⟨decl', List.mem_cons_of_mem _ hdecl', hfacts⟩

theorem exists_of_mem_methods {decls : List MethodDecl} {method : Method}
    (h : method ∈ (scope.methods dropped owner taken decls).made) :
    ∃ decl ∈ decls, ∃ made, scope.method dropped owner decl = .ok made
      ∧ method.Resembles made := by
  obtain ⟨decl, hdecl, made, taken', hmade, rfl⟩ := exists_withFreeWrapper_of_mem_methods h
  exact ⟨decl, hdecl, made, hmade, resembles_withFreeWrapper taken' made⟩

/-- What the fields and the results of the methods of a struct name stands for something. -/
structure IsLookedUp (scope : Scope) (item : StructItem) : Prop where
  fields : scope.index.Knows item.fieldNames
  results : ∀ method ∈ item.methods, scope.index.Knows method.resultNames
  /-- So does what the parameters name, if it does for all typedefs. -/
  params : scope.index.StepsWithin scope.resolver (scope.index.contains · = true) →
    ∀ method ∈ item.methods, scope.index.Knows method.paramNames

theorem names_fieldType (scope : Scope) (fieldName : String) (type : CType) {name : String}
    (h : name ∈ (scope.fieldType fieldName type).names) : name ∈ type.names := by
  rw [fieldType] at h
  split at h
  · simp [CType.names] at h
  · exact h

theorem fieldItem_names {decl : FieldDecl} {field : FieldItem}
    (h : scope.fieldItem dropped owner decl = .ok field) : scope.index.Knows field.type.names := by
  rw [fieldItem] at h
  cases htype : scope.resolveIn dropped owner (owner ++ "." ++ decl.name)
      (scope.retypedSpelling decl.name decl.type) .value with
  | error issue =>
    rw [htype] at h
    cases h
  | ok type =>
    rw [htype] at h
    cases h
    intro name hname
    exact (resolveIn_eq_ok htype).1 name (names_fieldType scope decl.name type hname)

/-- The parts of a struct that was made, and what it was made in spite of. -/
theorem structItem_eq_ok {decl : StructDecl} {item : StructItem} {log : List EntityIssue}
    (h : scope.structItem layouts dropped decl = .ok (item, log)) :
    ∃ layout fields, layoutOf layouts decl = .ok layout
      ∧ decl.fields.mapM (scope.fieldItem dropped decl.name) = .ok fields
      ∧ item = {
          name := decl.name
          layout
          fields
          consts := (scope.constItems dropped (some decl.name) decl.consts).made
          methods := (scope.methods dropped decl.name [] decl.methods).made
          callbackId := decl.callbackId }
      ∧ log = layout.diagnostics.map (⟨decl.name, ·⟩)
          ++ (scope.constItems dropped (some decl.name) decl.consts).log
          ++ (scope.methods dropped decl.name [] decl.methods).log := by
  rw [structItem] at h
  cases hlayout : layoutOf layouts decl with
  | error issue =>
    rw [hlayout] at h
    cases h
  | ok layout =>
    cases hfields : decl.fields.mapM (scope.fieldItem dropped decl.name) with
    | error issue =>
      rw [hlayout, hfields] at h
      cases h
    | ok fields =>
      rw [hlayout, hfields] at h
      cases h
      exact ⟨layout, fields, rfl, rfl, rfl, rfl⟩

theorem isLookedUp_structItem {decl : StructDecl} {item : StructItem} {log : List EntityIssue}
    (h : scope.structItem layouts dropped decl = .ok (item, log)) :
    item.name = decl.name ∧ scope.IsLookedUp item := by
  obtain ⟨layout, fields, -, hfields, rfl, -⟩ := structItem_eq_ok h
  refine ⟨rfl, ?_, ?_, ?_⟩
  · intro name hname
    obtain ⟨field, hfield, hname⟩ := List.mem_flatMap.mp hname
    obtain ⟨fieldDecl, -, hmade⟩ := exists_of_mem_mapM hfields field hfield
    exact fieldItem_names hmade name hname
  · intro method hmethod
    obtain ⟨methodDecl, -, made, hmade, hsame⟩ := exists_of_mem_methods hmethod
    rw [hsame.resultNames]
    exact (method_resultNames hmade).1
  · intro hstep method hmethod
    obtain ⟨methodDecl, -, made, hmade, hsame⟩ := exists_of_mem_methods hmethod
    rw [hsame.paramNames]
    exact method_paramNames hstep (fun name hknown _ => hknown) hmade

/-- The structs that are made are declared, in the order of declaration and with their numbers. -/
theorem structItems_made_sublist (scope : Scope) (layouts : Layouts) (dropped : List String)
    (decls : List StructDecl) :
    ((scope.structItems layouts dropped decls).made.map fun item => (item.name, item.callbackId)).Sublist
      (decls.map fun decl => (decl.name, decl.callbackId)) := by
  induction decls generalizing dropped with
  | nil => exact List.Sublist.refl _
  | cons decl decls ih =>
    rw [structItems]
    split
    · next item log hitem =>
      obtain ⟨layout, fields, -, -, rfl, -⟩ := structItem_eq_ok hitem
      exact (ih dropped).cons_cons _
    · exact (ih (decl.name :: dropped)).cons _

theorem subset_structItems_dropped (scope : Scope) (layouts : Layouts) (dropped : List String)
    (decls : List StructDecl) : dropped ⊆ (scope.structItems layouts dropped decls).dropped := by
  induction decls generalizing dropped with
  | nil => exact List.Subset.refl _
  | cons decl decls ih =>
    rw [structItems]
    split
    · exact ih dropped
    · exact List.Subset.trans (List.subset_cons_self _ _) (ih (decl.name :: dropped))

/-- A struct that is not left out is made. -/
theorem exists_mem_structItems {decls : List StructDecl} {decl : StructDecl} (hdecl : decl ∈ decls)
    (hkept : decl.name ∉ (scope.structItems layouts dropped decls).dropped) :
    ∃ item ∈ (scope.structItems layouts dropped decls).made, item.name = decl.name := by
  induction decls generalizing dropped with
  | nil => cases hdecl
  | cons decl' decls ih =>
    rw [structItems] at hkept ⊢
    split at hkept
    · next item log hitem =>
      rcases List.mem_cons.mp hdecl with rfl | hdecl
      · exact ⟨item, List.mem_cons_self, (isLookedUp_structItem hitem).1⟩
      · obtain ⟨item', hitem', hname⟩ := ih hdecl hkept
        exact ⟨item', List.mem_cons_of_mem _ hitem', hname⟩
    · next issue hissue =>
      rcases List.mem_cons.mp hdecl with rfl | hdecl
      · exact absurd (subset_structItems_dropped _ _ _ _ List.mem_cons_self) hkept
      · exact ih hdecl hkept

theorem mem_structItems_made {decls : List StructDecl} {item : StructItem}
    (h : item ∈ (scope.structItems layouts dropped decls).made) :
    item.name ∈ decls.map (·.name) ∧ scope.IsLookedUp item := by
  induction decls generalizing dropped with
  | nil => cases h
  | cons decl decls ih =>
    rw [structItems] at h
    split at h
    · next made log hmade =>
      rcases List.mem_cons.mp h with rfl | h
      · obtain ⟨hname, hlooked⟩ := isLookedUp_structItem hmade
        exact ⟨List.mem_cons.mpr (.inl hname), hlooked⟩
      · obtain ⟨hname, hlooked⟩ := ih h
        exact ⟨List.mem_cons_of_mem _ hname, hlooked⟩
    · obtain ⟨hname, hlooked⟩ := ih h
      exact ⟨List.mem_cons_of_mem _ hname, hlooked⟩

@[simp] theorem fieldNames_finishStruct (scope : Scope) (item : StructItem) :
    (scope.finishStruct item).fieldNames = item.fieldNames := by
  simp [finishStruct, StructItem.fieldNames, List.flatMap_map]

theorem names_interfaceItems (scope : Scope) (dropped : List String) (decls : List InterfaceDecl) :
    (scope.interfaceItems dropped decls).made.map (·.name) = decls.map (·.name) := by
  induction decls with
  | nil => rfl
  | cons decl decls ih => exact congrArg (decl.name :: ·) ih

theorem mem_interfaceItems_made_iff {decls : List InterfaceDecl} {item : InterfaceItem} :
    item ∈ (scope.interfaceItems dropped decls).made
      ↔ ∃ decl ∈ decls, item
          = ⟨decl.name, decl.accessors, (scope.methods dropped decl.name [] decl.methods).made⟩ := by
  induction decls with
  | nil => simp [interfaceItems, Progress.start]
  | cons decl decls ih =>
    have hhead : item ∈ (scope.interfaceItems dropped (decl :: decls)).made
        ↔ item = ⟨decl.name, decl.accessors, (scope.methods dropped decl.name [] decl.methods).made⟩
          ∨ item ∈ (scope.interfaceItems dropped decls).made := List.mem_cons
    rw [hhead, ih]
    simp

end Scope

end AbiBridge
