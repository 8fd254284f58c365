import AbiBridge.Proofs.Generate.Reporting
import AbiBridge.Proofs.Generate.Survival

/-!
# Names of wrappers

Of the methods whose flat names give one wrapper name the first that is made claims it. Exactly
one method of an interface carries it. In a struct the claimant may be left out afterwards, and
then no method carries the name.
-/

namespace AbiBridge

/-- The name of the wrapper that a flat name gives within an owner, as an identifier. -/
def derivedWrapper? (owner flat : String) : Option String :=
  (wrapperFor? owner flat).map identifierFor

/-- The methods whose flat names give the wrapper name. -/
def derivers (owner name : String) (methods : List Method) : List Method :=
  methods.filter (derivedWrapper? owner ·.flatName == some name)

def carriers (name : String) (methods : List Method) : List Method :=
  methods.filter (·.wrapper == some name)

variable {owner name : String} {method : Method} {methods others : List Method}
  {keep : Method → Bool}

theorem derivers_ne_nil_iff :
    derivers owner name methods ≠ []
      ↔ ∃ method ∈ methods, derivedWrapper? owner method.flatName = some name := by
  simp [derivers]

@[simp] theorem derivers_cons_of_eq (h : derivedWrapper? owner method.flatName = some name) :
    derivers owner name (method :: methods) = method :: derivers owner name methods :=
  List.filter_cons_of_pos (by simp [h])

@[simp] theorem derivers_cons_of_ne (h : derivedWrapper? owner method.flatName ≠ some name) :
    derivers owner name (method :: methods) = derivers owner name methods :=
  List.filter_cons_of_neg (by simp [h])

@[simp] theorem carriers_cons_of_eq (h : method.wrapper = some name) :
    carriers name (method :: methods) = method :: carriers name methods :=
  List.filter_cons_of_pos (by simp [h])

@[simp] theorem carriers_cons_of_ne (h : method.wrapper ≠ some name) :
    carriers name (method :: methods) = carriers name methods :=
  List.filter_cons_of_neg (by simp [h])

@[simp] theorem derivers_filter :
    derivers owner name (methods.filter keep) = (derivers owner name methods).filter keep :=
  List.filter_comm _ _ _

@[simp] theorem carriers_filter :
    carriers name (methods.filter keep) = (carriers name methods).filter keep :=
  List.filter_comm _ _ _

namespace Scope

variable {scope : Scope} {dropped taken : List String} {decls : List MethodDecl}

theorem method_wrapper {decl : MethodDecl} {made : Method}
    (h : scope.method dropped owner decl = .ok made) :
    made.flatName = decl.flatName ∧ made.wrapper = derivedWrapper? owner decl.flatName := by
  obtain ⟨params, result, -, -, rfl⟩ := method_eq_ok_iff.mp h
  exact ⟨rfl, rfl⟩

@[simp] theorem wrapper_withFreeWrapper_eq_some_iff :
    (withFreeWrapper taken method).wrapper = some name
      ↔ method.wrapper = some name ∧ name ∉ taken := by
  rw [withFreeWrapper]
  split
  · next found hfound =>
    rw [hfound, Option.some.injEq]
    split
    · next htaken =>
      have hmem : found ∈ taken := List.contains_iff_mem.mp htaken
      constructor
      · intro h
        cases h
      · rintro ⟨rfl, hnew⟩
        exact absurd hmem hnew
    · next hnew =>
      rw [List.contains_iff_mem] at hnew
      rw [hfound, Option.some.injEq]
      exact ⟨fun heq => ⟨heq, heq ▸ hnew⟩, And.left⟩
  · next hnone => simp [hnone]

/-- A method that is made carries the name that it gives, unless that is taken. -/
theorem wrapper_eq_some_iff {decl : MethodDecl} (h : scope.method dropped owner decl = .ok method) :
    (withFreeWrapper taken method).wrapper = some name
      ↔ derivedWrapper? owner (withFreeWrapper taken method).flatName = some name
        ∧ name ∉ taken := by
  obtain ⟨hflat, hwrapper⟩ := method_wrapper h
  rw [wrapper_withFreeWrapper_eq_some_iff, hwrapper,
    (resembles_withFreeWrapper taken method).flatName, hflat]

theorem carriers_methods_eq_nil (htaken : name ∈ taken) :
    carriers name (scope.methods dropped owner taken decls).made = [] := by
  induction decls generalizing taken with
  | nil => rfl
  | cons decl decls ih =>
    rw [Scope.methods]
    split
    · next made hmade =>
      have hwrapper : (withFreeWrapper taken made).wrapper ≠ some name := fun heq =>
        ((wrapper_eq_some_iff hmade).mp heq).2 htaken
      exact (carriers_cons_of_ne hwrapper).trans (ih (List.mem_append_right _ htaken))
    · exact ih htaken

/-- Of the methods that give a name which is not taken the first carries it, and no other. -/
theorem exists_claimant (hnew : name ∉ taken)
    (h : derivers owner name (scope.methods dropped owner taken decls).made ≠ []) :
    ∃ claimant others,
      derivers owner name (scope.methods dropped owner taken decls).made = claimant :: others
      ∧ carriers name (scope.methods dropped owner taken decls).made = [claimant] := by
  induction decls generalizing taken with
  | nil => exact absurd rfl h
  | cons decl decls ih =>
    rw [Scope.methods] at h ⊢
    split at h
    · next made hmade =>
      by_cases hderived : derivedWrapper? owner (withFreeWrapper taken made).flatName = some name
      · have hwrapper := (wrapper_eq_some_iff hmade).mpr ⟨hderived, hnew⟩
        refine ⟨_, _, derivers_cons_of_eq hderived, (carriers_cons_of_eq hwrapper).trans ?_⟩
        rw [carriers_methods_eq_nil]
        simp [hwrapper]
      · have hwrapper : (withFreeWrapper taken made).wrapper ≠ some name := fun heq =>
          hderived ((wrapper_eq_some_iff hmade).mp heq).1
        have hnew' : name ∉ (withFreeWrapper taken made).wrapper.toList ++ taken := by
          simp [hnew, hwrapper]
        simp only [Progress.keep, derivers_cons_of_ne hderived, carriers_cons_of_ne hwrapper] at h ⊢
        exact ih hnew' h
    · exact ih hnew h

theorem flatNames_methods_sublist :
    ((scope.methods dropped owner taken decls).made.map (·.flatName)).Sublist
      (decls.map (·.flatName)) := by
  induction decls generalizing taken with
  | nil => exact List.Sublist.refl _
  | cons decl decls ih =>
    rw [Scope.methods]
    split
    · next made hmade =>
      have hflat : (withFreeWrapper taken made).flatName = decl.flatName :=
        (resembles_withFreeWrapper taken made).flatName.trans (method_wrapper hmade).1
      simp only [Progress.keep, List.map_cons, hflat]
      exact ih.cons_cons _
    · exact ih.cons _

end Scope

/-- A method of a struct that stays is left out with a report. -/
theorem mem_pruneAll_log_of_method {items : Survivors} {draft : StructItem} {dropped : List String}
    {missing : String} (hdraft : draft ∈ items.allStructs)
    (hkept : ∀ name ∈ draft.fieldNames, name ∉ (pruneAll dropped items).dropped)
    (hmethod : method ∈ draft.methods)
    (hmissing : method.dropped? (pruneAll dropped items).dropped = some missing) :
    ⟨qualifiedName draft.name method.flatName,
        .unresolvedName (qualifiedName draft.name method.flatName) missing⟩
      ∈ (pruneAll dropped items).log := by
  have hsurvivor : draft ∈ (prune dropped items).items.allStructs := by
    rw [prune_items, Survivors.allStructs, Survivors.retain, ← List.filter_append]
    exact List.mem_filter.mpr ⟨hdraft,
      Option.isNone_iff_eq_none.mpr (StructItem.dropped?_eq_none_iff.mpr hkept)⟩
  refine List.mem_append_right _ (List.mem_flatMap.mpr ⟨draft, hsurvivor, ?_⟩)
  exact mem_unresolvedItems_iff.mpr ⟨method, hmethod, missing, hmissing, rfl⟩

/-- A method of the struct gives the name, is declared before all methods of the module that
give it, and is reported as left out. -/
def Generated.LosesClaimant (generated : Generated) (config : Config) (api : Api)
    (item : StructItem) (name : String) : Prop :=
  ∃ decl ∈ config.structDecls api, decl.name = item.name ∧ ∃ flat missing,
    derivedWrapper? item.name flat = some name
    ∧ (flat :: (derivers item.name name item.methods).map (·.flatName)).Sublist
        (decl.methods.map (·.flatName))
    ∧ ⟨qualifiedName item.name flat, .unresolvedName (qualifiedName item.name flat) missing⟩
        ∈ generated.report.errors

namespace Scope

variable {scope : Scope} {config : Config} {api : Api} {reportA reportB : PlatformReport}
  {layouts : Layouts}

theorem exists_decl_of_mem_drafts {draft : StructItem}
    (h : draft ∈ (scope.drafts config api layouts).items.allStructs) :
    ∃ decl ∈ config.structDecls api, decl.name = draft.name
      ∧ ∃ left, draft.methods = (scope.methods left draft.name [] decl.methods).made := by
  rcases mem_drafts_allStructs_iff.mp h with ⟨hpayload, -⟩ | hstruct
  · obtain ⟨decl, hdecl, hmade⟩ := exists_isMadeFrom hpayload
    obtain ⟨left, -, hmethods⟩ := hmade.methods
    exact ⟨decl, List.mem_append_left _ hdecl, hmade.name.symm, left, hmade.name ▸ hmethods⟩
  · obtain ⟨decl, hdecl, hmade⟩ := exists_isMadeFrom hstruct
    obtain ⟨left, -, hmethods⟩ := hmade.methods
    exact ⟨decl, List.mem_append_right _ hdecl, hmade.name.symm, left, hmade.name ▸ hmethods⟩

theorem exists_carrier_of_mem_interfaces {item : InterfaceItem}
    (h : item ∈ (scope.generate config api reportA reportB).bindings.interfaces)
    (hname : derivers item.name name item.methods ≠ []) :
    ∃ method, carriers name item.methods = [method] := by
  obtain ⟨decl, -, rfl⟩ := mem_interfaceItems_made_iff.mp h
  obtain ⟨claimant, -, -, hcarriers⟩ := exists_claimant List.not_mem_nil hname
  exact ⟨claimant, hcarriers⟩

/-- A struct of a module has the methods of its draft that name nothing left out. -/
theorem exists_draft_methods {item : StructItem}
    (h : item ∈ (scope.generate config api reportA reportB).bindings.allStructs) :
    ∃ draft ∈ (scope.drafts config api (layoutsOf config api reportA reportB)).items.allStructs,
      item.name = draft.name
      ∧ item.methods = draft.methods.filter (fun method =>
          (method.dropped? (scope.leftOut config api reportA reportB)).isNone)
      ∧ ∀ other ∈ draft.fieldNames, other ∉ scope.leftOut config api reportA reportB := by
  rw [generate_allStructs] at h
  obtain ⟨survivor, hsurvivor, rfl⟩ := List.mem_map.mp h
  obtain ⟨draft, hdraft, rfl, hkept⟩ := of_mem_pruneAll_allStructs hsurvivor
  exact ⟨draft, hdraft, rfl, rfl, hkept⟩

/-- One method of a struct carries the name, or none does and the method that claims it is left
out. -/
theorem exists_carrier_of_mem_allStructs {item : StructItem}
    (h : item ∈ (scope.generate config api reportA reportB).bindings.allStructs)
    (hname : derivers item.name name item.methods ≠ []) :
    (∃ method, carriers name item.methods = [method])
      ∨ carriers name item.methods = []
        ∧ (scope.generate config api reportA reportB).LosesClaimant config api item name := by
  obtain ⟨draft, hdraft, hitem, hkeep, hkept⟩ := exists_draft_methods h
  obtain ⟨decl, hdecl, hdeclName, left, hmethods⟩ := exists_decl_of_mem_drafts hdraft
  have hdrafted : derivers item.name name draft.methods ≠ [] := by
    intro hnil
    rw [hkeep, derivers_filter, hnil] at hname
    exact hname rfl
  rw [hitem, hmethods] at hdrafted
  obtain ⟨claimant, others, hderivers, hcarriers⟩ := exists_claimant List.not_mem_nil hdrafted
  rw [← hmethods, ← hitem] at hderivers
  rw [← hmethods] at hcarriers
  rw [Generated.LosesClaimant, hkeep, derivers_filter, carriers_filter, hderivers, hcarriers]
  cases hmissing : claimant.dropped? (scope.leftOut config api reportA reportB) with
  | none => exact .inl ⟨claimant, by simp [hmissing]⟩
  | some missing =>
    have hclaimant : claimant ∈ derivers item.name name draft.methods :=
      hderivers ▸ List.mem_cons_self
    obtain ⟨hmem, hderived⟩ := List.mem_filter.mp hclaimant
    have hissue : ⟨qualifiedName draft.name claimant.flatName,
        .unresolvedName (qualifiedName draft.name claimant.flatName) missing⟩
          ∈ (scope.generate config api reportA reportB).report.errors :=
      mem_errors_of_mem_log rfl (mem_log_of_mem_pruned
        (mem_pruneAll_log_of_method hdraft hkept hmem hmissing))
    refine .inr ⟨by simp [hmissing], decl, hdecl, hdeclName.trans hitem.symm, claimant.flatName,
      missing, beq_iff_eq.mp hderived, ?_, hitem ▸ hissue⟩
    have hdeclared : (draft.methods.map (·.flatName)).Sublist (decl.methods.map (·.flatName)) :=
      hmethods ▸ flatNames_methods_sublist
    have hothers : (claimant :: others).Sublist draft.methods := hderivers ▸ List.filter_sublist
    rw [List.filter_cons_of_neg (by simp [hmissing])]
    exact (((List.filter_sublist.cons_cons claimant).trans hothers).map _).trans hdeclared

end Scope

/-- Of every wrapper name that the flat name of a method of a module gives exactly one method of
the same interface or struct is the carrier, or the method of the struct that claims it is left
out and no other one carries it. -/
theorem generate_wrapper_carried_or_claimant_lost {patterns : PatternLanguage}
    {config : Config} {api : Api} {reportA reportB : PlatformReport} {generated : Generated}
    (h : config.generate patterns api reportA reportB = .ok generated) :
    (∀ item ∈ generated.bindings.interfaces, ∀ name,
      (∃ method ∈ item.methods, derivedWrapper? item.name method.flatName = some name) →
        ∃ method, carriers name item.methods = [method])
    ∧ ∀ item ∈ generated.bindings.allStructs, ∀ name,
      (∃ method ∈ item.methods, derivedWrapper? item.name method.flatName = some name) →
        (∃ method, carriers name item.methods = [method])
        ∨ carriers name item.methods = [] ∧ generated.LosesClaimant config api item name := by
  obtain ⟨scope, -, rfl⟩ := Config.exists_scope_of_generate h
  constructor
  · intro item hitem name hname
    exact Scope.exists_carrier_of_mem_interfaces hitem (derivers_ne_nil_iff.mpr hname)
  · intro item hitem name hname
    exact Scope.exists_carrier_of_mem_allStructs hitem (derivers_ne_nil_iff.mpr hname)

/-- A struct with two methods for one wrapper, the first of which refers to another struct. -/
def readerApi : Api where
  structs := [
    { name := "Reader_t"
      fields := [⟨"m_nCount", "int"⟩]
      methods := [
        ⟨"Read", "Reader_t_Read", "void", [{ name := "pOther", type := "Other_t *" }]⟩,
        ⟨"ReadAll", "Lib_Reader_t_Read", "void", []⟩] },
    { name := "Other_t", fields := [⟨"m_nCount", "int"⟩] }]

def readerReport : PlatformReport :=
  .ofList [("Reader_t", ⟨4, 4, [⟨"m_nCount", 4, 4, some 0⟩]⟩)]

def otherReport : PlatformReport :=
  .ofList [("Reader_t", ⟨4, 4, [⟨"m_nCount", 4, 4, some 0⟩]⟩),
    ("Other_t", ⟨4, 4, [⟨"m_nCount", 4, 4, some 0⟩]⟩)]

/-- Of two methods that stay one has the wrapper. -/
theorem generate_wrapper_carried_first :
    ∃ generated, decayConfig.generate Pattern.language readerApi otherReport otherReport
        = .ok generated
      ∧ ∃ item ∈ generated.bindings.allStructs,
        (derivers item.name "Read" item.methods).length = 2
        ∧ ∃ method, carriers "Read" item.methods = [method] := by
  obtain ⟨generated, hgenerate, item, hitem, hlength, hname, hcarried⟩ :
      ∃ generated, decayConfig.generate Pattern.language readerApi otherReport otherReport
          = .ok generated
        ∧ ∃ item ∈ generated.bindings.allStructs,
          (derivers item.name "Read" item.methods).length = 2
          ∧ (∃ method ∈ item.methods, derivedWrapper? item.name method.flatName = some "Read")
          ∧ (carriers "Read" item.methods).length ≠ 0 :=
    ⟨_, rfl, by decide +kernel⟩
  refine ⟨generated, hgenerate, item, hitem, hlength, ?_⟩
  rcases (generate_wrapper_carried_or_claimant_lost hgenerate).2 item hitem "Read" hname with
    hone | ⟨hnone, -⟩
  · exact hone
  · exact absurd (congrArg List.length hnone) hcarried

/-- Without the first method the second one has no wrapper. -/
theorem generate_wrapper_claimant_lost :
    ∃ generated, decayConfig.generate Pattern.language readerApi readerReport readerReport
        = .ok generated
      ∧ ∃ item ∈ generated.bindings.allStructs,
        (∃ method ∈ item.methods, derivedWrapper? item.name method.flatName = some "Read")
        ∧ (carriers "Read" item.methods).length = 0 :=
  ⟨_, rfl, by decide +kernel⟩

end AbiBridge
