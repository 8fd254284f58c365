import AbiBridge.Proofs.Generate.CallbackUnion
import AbiBridge.Proofs.Layout.Table
import AbiBridge.Proofs.Name

/-!
# Accounting for what is left out

Every stage of a run either makes an entity or reports it with a fatal issue, once and
under its own name. What lies in an entity is reported under a qualified name.
-/

namespace AbiBridge

/-- How many fatal issues are reported for a name. -/
def faults (log : List EntityIssue) (name : String) : Nat :=
  log.countP fun issue => issue.entity == name && issue.issue.isFatal

section Faults

variable {name : String}

@[simp] theorem faults_append (log log' : List EntityIssue) (name : String) :
    faults (log ++ log') name = faults log name + faults log' name :=
  List.countP_append

theorem faults_cons {entity : String} {issue : Issue} (hfatal : issue.isFatal = true)
    (log : List EntityIssue) (name : String) :
    faults (⟨entity, issue⟩ :: log) name = faults log name + if entity == name then 1 else 0 := by
  rw [faults, faults, List.countP_cons, hfatal, Bool.and_true]

theorem faults_eq_zero_iff {log : List EntityIssue} :
    faults log name = 0 ↔ ∀ issue ∈ log.filter (·.issue.isFatal), issue.entity ≠ name := by
  rw [faults, List.countP_eq_zero]
  simp only [List.mem_filter, Bool.and_eq_true, beq_iff_eq]
  constructor
  · rintro h issue ⟨hissue, hfatal⟩ heq
    exact h issue hissue ⟨heq, hfatal⟩
  · rintro h issue hissue ⟨heq, hfatal⟩
    exact h issue ⟨hissue, hfatal⟩ heq

theorem faults_eq_zero_of_entity_ne {log : List EntityIssue}
    (h : ∀ issue ∈ log, issue.entity ≠ name) : faults log name = 0 :=
  faults_eq_zero_iff.mpr fun issue hissue => h issue (List.mem_filter.mp hissue).1

/-- A log of fatal issues counts each time that it names an entity. -/
theorem faults_eq_count {log : List EntityIssue} (h : ∀ issue ∈ log, issue.issue.isFatal = true) :
    faults log name = (log.map (·.entity)).count name := by
  induction log with
  | nil => rfl
  | cons issue log ih =>
    have hfatal : issue.issue.isFatal = true := h issue List.mem_cons_self
    have hrest := ih fun other hother => h other (List.mem_cons_of_mem _ hother)
    rw [faults_cons hfatal, hrest, List.map_cons, List.count_cons]

end Faults

namespace Scope

variable {scope : Scope} {layouts : Layouts} {dropped taken : List String}
  {owner entity raw name : String} {position : Position} {issue : Issue}

theorem checkNames_error_isFatal {type : CType}
    (h : scope.checkNames dropped entity type = .error issue) : issue.isFatal = true := by
  rw [checkNames] at h
  split at h <;> cases h
  rfl

theorem resolveIn_error_isFatal
    (h : scope.resolveIn dropped owner entity raw position = .error issue) :
    issue.isFatal = true := by
  rw [resolveIn] at h
  cases hread : scope.resolver.resolve raw position with
  | error failure =>
    rw [hread] at h
    cases h
    rfl
  | ok read =>
    rw [hread] at h
    change scope.checkNames dropped entity (scope.index.qualify owner read) = .error issue at h
    exact checkNames_error_isFatal h

theorem constantType_error_isFatal {owner : Option String} {decl : ConstDecl}
    (h : scope.constantType dropped owner decl = .error issue) : issue.isFatal = true := by
  cases owner with
  | none => exact resolve_error_isFatal h
  | some owner => exact resolveIn_error_isFatal h

/-- A constant has the name of its declaration, or the declaration is wrong. -/
theorem constItem_name_or_isFatal (scope : Scope) (dropped : List String) (owner : Option String)
    (decl : ConstDecl) :
    (∃ item, scope.constItem dropped owner decl = .ok item ∧ item.name = decl.name)
      ∨ ∃ issue, scope.constItem dropped owner decl = .error issue ∧ issue.isFatal = true := by
  rw [constItem]
  cases htype : scope.constantType dropped owner decl with
  | error issue => exact .inr ⟨issue, rfl, constantType_error_isFatal htype⟩
  | ok type =>
    cases htext : scope.constantText? type decl.value with
    | none => exact .inr ⟨.untranslatableConstant decl.name decl.value, by simp [bind, Except.bind, htext], rfl⟩
    | some text => exact .inl ⟨⟨decl.name, text.1, text.2⟩, by simp [bind, Except.bind, htext], rfl⟩

theorem faults_typedefItems (scope : Scope) (dropped : List String)
    (entries : List (String × String)) (name : String) :
    faults (scope.typedefItems dropped entries).log name
        + ((scope.typedefItems dropped entries).made.map (·.name)).count name
      = (entries.map (·.1)).count name := by
  induction entries generalizing dropped with
  | nil => rfl
  | cons entry entries ih =>
    obtain ⟨first, raw⟩ := entry
    rw [typedefItems]
    split
    · have hrest := ih dropped
      simp only [Progress.keep, List.nil_append, List.map_cons, List.count_cons]
      omega
    · next issue hissue =>
      have hrest := ih (first :: dropped)
      have hfatal := resolve_error_isFatal hissue
      simp only [Progress.note, faults_cons hfatal, List.map_cons, List.count_cons]
      omega

def keptConsts (scope : Scope) (decls : List ConstDecl) : List ConstDecl :=
  decls.filter fun decl => !scope.skippedConstants.contains decl.name

theorem faults_constItems (scope : Scope) (dropped : List String) (owner : Option String)
    (decls : List ConstDecl) (name : String) :
    faults (scope.constItems dropped owner decls).log name
        + ((scope.constItems dropped owner decls).made.map (memberName owner ·.name)).count name
      = ((scope.keptConsts decls).map (memberName owner ·.name)).count name := by
  induction decls with
  | nil => rfl
  | cons decl decls ih =>
    rw [constItems, keptConsts]
    split
    · next hskipped =>
      rw [List.filter_cons_of_neg (by simpa using hskipped)]
      exact ih
    · next hkept =>
      rw [List.filter_cons_of_pos (by simpa using hkept), List.map_cons, List.count_cons]
      rcases scope.constItem_name_or_isFatal dropped owner decl with
        ⟨item, hitem, hname⟩ | ⟨issue, hissue, hfatal⟩
      · rw [hitem]
        simp only [Progress.keep, List.nil_append, List.map_cons, List.count_cons, hname]
        rw [keptConsts] at ih
        omega
      · rw [hissue]
        simp only [Progress.note, faults_cons hfatal]
        rw [keptConsts] at ih
        omega

theorem constItems_made_sublist (scope : Scope) (dropped : List String) (owner : Option String)
    (decls : List ConstDecl) :
    ((scope.constItems dropped owner decls).made.map (·.name)).Sublist
      ((scope.keptConsts decls).map (·.name)) := by
  induction decls with
  | nil => exact List.Sublist.refl _
  | cons decl decls ih =>
    rw [constItems, keptConsts]
    split
    · next hskipped =>
      rw [List.filter_cons_of_neg (by simpa using hskipped)]
      exact ih
    · next hkept =>
      rw [List.filter_cons_of_pos (by simpa using hkept)]
      rcases scope.constItem_name_or_isFatal dropped owner decl with
        ⟨item, hitem, hname⟩ | ⟨issue, hissue, -⟩
      · rw [hitem, List.map_cons, ← hname]
        exact ih.cons_cons _
      · rw [hissue, List.map_cons]
        exact ih.cons _

/-- What lies in a struct or an interface is reported under a qualified name. -/
theorem faults_methods (hname : IsIdentifier name) (decls : List MethodDecl) :
    faults (scope.methods dropped owner taken decls).log name = 0 := by
  apply faults_eq_zero_of_entity_ne
  induction decls generalizing taken with
  | nil => exact fun issue hissue => absurd hissue List.not_mem_nil
  | cons decl decls ih =>
    rw [methods]
    split
    · exact ih
    · intro issue hissue
      rcases List.mem_cons.mp hissue with rfl | hissue
      · exact hname.ne_qualifiedName owner decl.name
      · exact ih issue hissue

theorem faults_memberConsts (hname : IsIdentifier name) (decls : List ConstDecl) :
    faults (scope.constItems dropped (some owner) decls).log name = 0 := by
  have hnone : ((scope.keptConsts decls).map (memberName (some owner) ·.name)).count name = 0 := by
    refine List.count_eq_zero.mpr fun hmem => ?_
    obtain ⟨decl, -, heq⟩ := List.mem_map.mp hmem
    exact hname.ne_qualifiedName owner decl.name heq
  have hall := scope.faults_constItems dropped (some owner) decls name
  omega

theorem faults_interfaceItems (hname : IsIdentifier name) (decls : List InterfaceDecl) :
    faults (scope.interfaceItems dropped decls).log name = 0 := by
  induction decls with
  | nil => rfl
  | cons decl decls ih =>
    rw [interfaceItems]
    simp only [Progress.keep, faults_append, faults_methods hname, ih]

/-- The issues in the table of layouts are fatal, and those that come with a layout are not. -/
structure Sound (layouts : Layouts) : Prop where
  errors : ∀ decl issue, layoutOf layouts decl = .error issue → issue.isFatal = true
  diagnostics : ∀ decl layout, layoutOf layouts decl = .ok layout →
    ∀ issue ∈ layout.diagnostics, issue.isFatal = false

theorem sound_ofStructs (pair : PlatformPair) (decls : List StructDecl) :
    Sound (.ofStructs pair decls) := by
  have hlayout : ∀ decl, (∃ found, layoutOf (.ofStructs pair decls) decl = pair.structLayout found)
      ∨ layoutOf (.ofStructs pair decls) decl = .error (.unreportedStruct decl.name "") := by
    intro decl
    rw [layoutOf, Layouts.get?_ofStructs]
    cases decls.find? (·.name == decl.name) with
    | none => exact .inr rfl
    | some found => exact .inl ⟨found, rfl⟩
  constructor
  · intro decl issue h
    rcases hlayout decl with ⟨found, heq⟩ | heq <;> rw [heq] at h
    · exact PlatformPair.isFatal_of_structLayout h
    · cases h
      rfl
  · intro decl layout h
    rcases hlayout decl with ⟨found, heq⟩ | heq <;> rw [heq] at h
    · exact PlatformPair.isFatal_diagnostics h
    · cases h

theorem fieldItem_error_isFatal {decl : FieldDecl}
    (h : scope.fieldItem dropped owner decl = .error issue) : issue.isFatal = true := by
  rw [fieldItem] at h
  cases htype : scope.resolveIn dropped owner (owner ++ "." ++ decl.name)
      (scope.retypedSpelling decl.name decl.type) .value with
  | error failure =>
    rw [htype] at h
    cases h
    exact resolveIn_error_isFatal htype
  | ok type =>
    rw [htype] at h
    cases h

theorem structItem_error_isFatal {decl : StructDecl} (hsound : Sound layouts)
    (h : scope.structItem layouts dropped decl = .error issue) : issue.isFatal = true := by
  rw [structItem] at h
  cases hlayout : layoutOf layouts decl with
  | error failure =>
    rw [hlayout] at h
    cases h
    exact hsound.errors decl _ hlayout
  | ok layout =>
    cases hfields : decl.fields.mapM (scope.fieldItem dropped decl.name) with
    | error failure =>
      rw [hlayout, hfields] at h
      cases h
      obtain ⟨field, -, hfield⟩ := exists_error_of_mapM hfields
      exact fieldItem_error_isFatal hfield
    | ok fields =>
      rw [hlayout, hfields] at h
      cases h

/-- What a struct is made in spite of does not count against it. -/
theorem faults_structItem {decl : StructDecl} {item : StructItem} {log : List EntityIssue}
    (hsound : Sound layouts) (hname : IsIdentifier name)
    (h : scope.structItem layouts dropped decl = .ok (item, log)) : faults log name = 0 := by
  obtain ⟨layout, fields, hlayout, -, -, rfl⟩ := structItem_eq_ok h
  have hdiagnostics : faults (layout.diagnostics.map (⟨decl.name, ·⟩)) name = 0 := by
    refine faults_eq_zero_iff.mpr fun issue hissue => ?_
    obtain ⟨hmem, hfatal⟩ := List.mem_filter.mp hissue
    obtain ⟨diagnostic, hdiagnostic, rfl⟩ := List.mem_map.mp hmem
    have hharmless := hsound.diagnostics decl layout hlayout diagnostic hdiagnostic
    exact absurd hfatal (by simp [hharmless])
  simp [hdiagnostics, faults_memberConsts hname, faults_methods hname]

theorem faults_structItems (scope : Scope) (dropped : List String) (hsound : Sound layouts)
    (hname : IsIdentifier name) (decls : List StructDecl) :
    faults (scope.structItems layouts dropped decls).log name
        + ((scope.structItems layouts dropped decls).made.map (·.name)).count name
      = (decls.map (·.name)).count name := by
  induction decls generalizing dropped with
  | nil => rfl
  | cons decl decls ih =>
    rw [structItems]
    split
    · next item log hitem =>
      have hrest := ih dropped
      have hlog := faults_structItem hsound hname hitem
      have hitemName := (isLookedUp_structItem hitem).1
      simp only [Progress.keep, faults_append, List.map_cons, List.count_cons, hitemName]
      omega
    · next issue hissue =>
      have hrest := ih (decl.name :: dropped)
      have hfatal := structItem_error_isFatal hsound hissue
      simp only [Progress.note, faults_cons hfatal, List.map_cons, List.count_cons]
      omega

end Scope

end AbiBridge
