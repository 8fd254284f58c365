import AbiBridge.Proofs.Generate.Survival
import AbiBridge.Proofs.Param.Pairing

/-!
# The methods of a module

A method whose types name only what is known stays if and only if none of these names is left
out, whatever was left out when it was made. A parameter is looked up before it decays, so a
method with an unknown name in a decayed parameter may stay or not.
-/

namespace AbiBridge

theorem exists_mem_ofRaw {params : List RawParam} {raw : RawParam} (h : raw ∈ params) :
    ∃ param ∈ Param.ofRaw params, param.type = raw.type := by
  rw [← List.mem_map, types_ofRaw]
  exact List.mem_map_of_mem h

/-- A buffer does not reduce to an integer. -/
theorem Index.integerType?_of_isBuffer {index : Index} {resolver : Resolver} {type : CType}
    (h : type.isBuffer = true) : index.integerType? resolver type = none := by
  obtain ⟨target, isConst, rfl, -⟩ := CType.isBuffer_iff.mp h
  rfl

namespace Scope

variable {scope : Scope} {dropped taken : List String} {owner entity raw : String}

theorem resolveResultIn_eq_ok_iff {result : Option CType} :
    scope.resolveResultIn dropped owner entity raw = .ok result
      ↔ scope.resolveResultIn [] owner entity raw = .ok result
        ∧ ∀ name ∈ result.toList.flatMap (·.names), name ∉ dropped := by
  rw [resolveResultIn, resolveResultIn]
  cases scope.resolver.resolveResult raw .signature with
  | error failure =>
    constructor
    · intro h
      cases h
    · rintro ⟨h, -⟩
      cases h
  | ok read =>
    cases read with
    | none =>
      constructor
      · intro h
        cases h
        exact ⟨rfl, by simp⟩
      · rintro ⟨h, -⟩
        cases h
        rfl
    | some type =>
      have hmap : ∀ x : Except Issue CType, x.map some = .ok result
          ↔ ∃ checked, x = .ok checked ∧ result = some checked := by
        intro x
        cases x <;> simp [Except.map, eq_comm]
      change (scope.checkNames dropped entity (scope.index.qualify owner type)).map some = .ok result
        ↔ (scope.checkNames [] entity (scope.index.qualify owner type)).map some = .ok result
          ∧ ∀ name ∈ result.toList.flatMap (·.names), name ∉ dropped
      rw [hmap, hmap]
      constructor
      · rintro ⟨checked, hchecked, rfl⟩
        obtain ⟨hnil, hkept⟩ := checkNames_eq_ok_iff_nil.mp hchecked
        exact ⟨⟨checked, hnil, rfl⟩, by simpa using hkept⟩
      · rintro ⟨⟨checked, hnil, rfl⟩, hkept⟩
        exact ⟨checked, checkNames_eq_ok_iff_nil.mpr ⟨hnil, by simpa using hkept⟩, rfl⟩

theorem paramInput_eq_ok_iff {method : String} {decl : ParamDecl} {param : RawParam} :
    scope.paramInput dropped owner method decl = .ok param
      ↔ ∃ type, scope.resolveIn dropped owner (method ++ "(" ++ decl.name ++ ")") decl.type
            .signature = .ok type
          ∧ param = {
            name := decl.name
            type := withHandles scope.index (scope.index.decayTypedef scope.resolver type)
            countName := decl.countName
            countType := scope.index.integerType? scope.resolver
              (withHandles scope.index (scope.index.decayTypedef scope.resolver type)) } := by
  rw [paramInput]
  cases scope.resolveIn dropped owner (method ++ "(" ++ decl.name ++ ")") decl.type .signature with
  | error issue =>
    constructor
    · intro h
      cases h
    · rintro ⟨type, h, -⟩
      cases h
  | ok type =>
    constructor
    · intro h
      cases h
      exact ⟨type, rfl, rfl⟩
    · rintro ⟨_, h, rfl⟩
      cases h
      rfl

/-- In the methods of a module buffers and counts refer to each other. -/
theorem pairing_of_method {decl : MethodDecl} {method : Method}
    (h : scope.method dropped owner decl = .ok method) : Pairing (method.params.map (·.role)) := by
  obtain ⟨params, -, hparams, -, hmade, -⟩ := method_eq_ok h
  rw [hmade]
  refine pairing_finalRoles (buffersAreNoCounts_of_countType ?_)
  intro param hparam hbuffer
  obtain ⟨paramDecl, -, hinput⟩ := exists_of_mem_mapM hparams param hparam
  obtain ⟨type, -, rfl⟩ := paramInput_eq_ok_iff.mp hinput
  exact Index.integerType?_of_isBuffer hbuffer

/-- A method that is made while something is left out is made as well if nothing is. -/
theorem method_nil {decl : MethodDecl} {method : Method}
    (h : scope.method dropped owner decl = .ok method) : scope.method [] owner decl = .ok method := by
  obtain ⟨params, result, hparams, hresult, rfl⟩ := method_eq_ok_iff.mp h
  have hparams' : decl.params.mapM
      (scope.paramInput [] owner (qualifiedName owner decl.name)) = .ok params := by
    refine mapM_eq_ok_of hparams fun a _ b _ hb => ?_
    obtain ⟨type, htype, rfl⟩ := paramInput_eq_ok_iff.mp hb
    exact paramInput_eq_ok_iff.mpr ⟨type, (resolveIn_eq_ok_iff.mp htype).1, rfl⟩
  exact method_eq_ok_iff.mpr
    ⟨params, result, hparams', (resolveResultIn_eq_ok_iff.mp hresult).1, rfl⟩

section Kept

variable {config : Config} {api : Api} {pair : PlatformPair}
  (hindex : scope.index = .ofApi api config.extraTypedefs config.opaqueTypes)
  (hdistinct : config.Distinct api)

/-- All names are known, and none of them is left out. -/
def Keeps (scope : Scope) (config : Config) (api : Api) (pair : PlatformPair)
    (names : List String) : Prop :=
  ∀ name ∈ names, scope.index.contains name = true ∧ ¬ scope.LeftOut config api pair name

include hindex hdistinct

theorem not_leftOut_of_decayTypedef {type : CType}
    (h : scope.Keeps config api pair (scope.index.decayTypedef scope.resolver type).names) :
    ∀ name ∈ type.names, ¬ scope.LeftOut config api pair name := by
  cases type with
  | named name =>
    rw [Index.decayTypedef] at h
    split at h
    · split at h
      · next element length htarget =>
        rw [CType.pointerTo, CType.names] at h
        obtain ⟨-, links, -, hwalk⟩ := Index.underlying?_eq_some_iff.mp htarget
        exact not_leftOut_of_walk hdistinct hindex hwalk (fun n hn => (h n hn).1)
          fun n hn => (h n hn).2
      · exact fun n hn => (h n hn).2
    · exact fun n hn => (h n hn).2
  | _ => exact fun n hn => (h n hn).2

theorem paramInput_of_keeps {method : String} {decl : ParamDecl} {param : RawParam}
    (hdropped : ∀ name ∈ dropped, scope.LeftOut config api pair name)
    (hparam : scope.paramInput [] owner method decl = .ok param)
    (hkeeps : scope.Keeps config api pair param.type.names) :
    scope.paramInput dropped owner method decl = .ok param := by
  obtain ⟨type, htype, rfl⟩ := paramInput_eq_ok_iff.mp hparam
  rw [names_withHandles] at hkeeps
  have hkept := not_leftOut_of_decayTypedef hindex hdistinct hkeeps
  exact paramInput_eq_ok_iff.mpr ⟨type, resolveIn_eq_ok_iff.mpr
    ⟨htype, fun name hname hdrop => hkept name hname (hdropped name hdrop)⟩, rfl⟩

/-- A method that names only what is known and kept is made, whatever part of what is left out
is left out by then. -/
theorem method_of_keeps {decl : MethodDecl} {method : Method}
    (hdropped : ∀ name ∈ dropped, scope.LeftOut config api pair name)
    (hmethod : scope.method [] owner decl = .ok method)
    (hkeeps : scope.Keeps config api pair (method.paramNames ++ method.resultNames)) :
    scope.method dropped owner decl = .ok method := by
  obtain ⟨params, result, hparams, hresult, hmade⟩ := method_eq_ok_iff.mp hmethod
  have hmadeParams : method.params = Param.ofRaw params := congrArg Method.params hmade
  have hmadeResult : method.result = result.map (withHandles scope.index) :=
    congrArg Method.result hmade
  have hparams' : decl.params.mapM
      (scope.paramInput dropped owner (qualifiedName owner decl.name)) = .ok params := by
    refine mapM_eq_ok_of hparams fun paramDecl _ param hparam hmadeParam => ?_
    refine paramInput_of_keeps hindex hdistinct hdropped hmadeParam fun name hname => ?_
    obtain ⟨final, hfinal, htype⟩ := exists_mem_ofRaw hparam
    rw [← htype] at hname
    rw [← hmadeParams] at hfinal
    exact hkeeps name (List.mem_append_left _ (List.mem_flatMap.mpr ⟨final, hfinal, hname⟩))
  have hresult' : scope.resolveResultIn dropped owner (qualifiedName owner decl.name)
      decl.result = .ok result := by
    refine resolveResultIn_eq_ok_iff.mpr ⟨hresult, fun name hname hdrop => ?_⟩
    rw [← resultNames_eq hmadeResult] at hname
    exact (hkeeps name (List.mem_append_right _ hname)).2 (hdropped name hdrop)
  exact method_eq_ok_iff.mpr ⟨params, result, hparams', hresult', hmade⟩

end Kept

theorem exists_mem_methods {decls : List MethodDecl} {decl : MethodDecl} (hdecl : decl ∈ decls)
    {made : Method} (hmade : scope.method dropped owner decl = .ok made) :
    ∃ method ∈ (scope.methods dropped owner taken decls).made, method.Resembles made := by
  induction decls generalizing taken with
  | nil => cases hdecl
  | cons first decls ih =>
    rw [methods]
    rcases List.mem_cons.mp hdecl with rfl | hdecl
    · rw [hmade]
      exact ⟨_, List.mem_cons_self, resembles_withFreeWrapper taken made⟩
    · split
      · obtain ⟨method, hmethod, hsame⟩ := ih hdecl
        exact ⟨method, List.mem_cons_of_mem _ hmethod, hsame⟩
      · exact ih hdecl

end Scope

def Bindings.ownedMethods (bindings : Bindings) : List (String × Method) :=
  bindings.allStructs.flatMap (fun item => item.methods.map (item.name, ·))
    ++ bindings.interfaces.flatMap fun item => item.methods.map (item.name, ·)

/-- The module has a method of the owner and the flat name, all of whose names are known. -/
def Bindings.HasMethod (bindings : Bindings) (index : Index) (owner flatName : String) : Prop :=
  ∃ method, (owner, method) ∈ bindings.ownedMethods ∧ method.flatName = flatName
    ∧ index.Knows (method.paramNames ++ method.resultNames)

theorem Bindings.mem_ownedMethods_iff {bindings : Bindings} {owner : String} {method : Method} :
    (owner, method) ∈ bindings.ownedMethods
      ↔ (∃ item ∈ bindings.allStructs, item.name = owner ∧ method ∈ item.methods)
        ∨ ∃ item ∈ bindings.interfaces, item.name = owner ∧ method ∈ item.methods := by
  rw [Bindings.ownedMethods, List.mem_append, List.mem_flatMap, List.mem_flatMap]
  simp only [List.mem_map, Prod.mk.injEq]
  constructor
  · rintro (⟨item, hitem, found, hfound, rfl, rfl⟩ | ⟨item, hitem, found, hfound, rfl, rfl⟩)
    · exact .inl ⟨item, hitem, rfl, hfound⟩
    · exact .inr ⟨item, hitem, rfl, hfound⟩
  · rintro (⟨item, hitem, rfl, hmethod⟩ | ⟨item, hitem, rfl, hmethod⟩)
    · exact .inl ⟨item, hitem, method, hmethod, rfl, rfl⟩
    · exact .inr ⟨item, hitem, method, hmethod, rfl, rfl⟩

namespace Scope

/-- One of the declarations makes a method of the flat name that names only what is known and
kept. -/
def KeepsMethod (scope : Scope) (config : Config) (api : Api) (pair : PlatformPair)
    (owner : String) (decls : List MethodDecl) (flatName : String) : Prop :=
  ∃ decl ∈ decls, ∃ made, scope.method [] owner decl = .ok made ∧ made.flatName = flatName
    ∧ scope.Keeps config api pair (made.paramNames ++ made.resultNames)

section Run

variable {scope : Scope} {config : Config} {api : Api} {reportA reportB : PlatformReport}
  (hindex : scope.index = .ofApi api config.extraTypedefs config.opaqueTypes)
  (hdistinct : config.Distinct api)
include hindex hdistinct

/-- Whatever part of the final set is left out when they are made, of the methods that name only
what is known those are made and stay that name only what is kept. -/
theorem exists_kept_method_iff {left : List String}
    (hleft : left ⊆ scope.leftOut config api reportA reportB) {owner flatName : String}
    {decls : List MethodDecl} :
    (∃ method ∈ (scope.methods left owner [] decls).made, method.flatName = flatName
        ∧ scope.index.Knows (method.paramNames ++ method.resultNames)
        ∧ ∀ name ∈ method.paramNames ++ method.resultNames,
          name ∉ scope.leftOut config api reportA reportB)
      ↔ scope.KeepsMethod config api (config.platforms reportA reportB) owner decls flatName := by
  constructor
  · rintro ⟨method, hmethod, rfl, hknown, hkept⟩
    obtain ⟨decl, hdecl, made, hmade, hsame⟩ := exists_of_mem_methods hmethod
    refine ⟨decl, hdecl, made, method_nil hmade, hsame.flatName.symm, ?_⟩
    rw [← hsame.paramNames, ← hsame.resultNames]
    exact fun name hname => ⟨hknown name hname, fun hleftOut =>
      hkept name hname (mem_leftOut_of_leftOut hdistinct hleftOut)⟩
  · rintro ⟨decl, hdecl, made, hmade, rfl, hkeeps⟩
    have hdropped : ∀ name ∈ left,
        scope.LeftOut config api (config.platforms reportA reportB) name :=
      fun name hname => (mem_leftOut_iff hindex hdistinct).mp (hleft hname)
    have hmade' := method_of_keeps hindex hdistinct hdropped hmade hkeeps
    obtain ⟨method, hmethod, hsame⟩ := exists_mem_methods hdecl hmade'
    rw [← hsame.paramNames, ← hsame.resultNames] at hkeeps
    exact ⟨method, hmethod, hsame.flatName, fun name hname => (hkeeps name hname).1,
      fun name hname hmem => (hkeeps name hname).2 ((mem_leftOut_iff hindex hdistinct).mp hmem)⟩

theorem hasMethod_iff {owner flatName : String} :
    (scope.generate config api reportA reportB).bindings.HasMethod scope.index owner flatName
      ↔ (∃ decl ∈ config.structDecls api, decl.name = owner
            ∧ ¬ scope.LeftOut config api (config.platforms reportA reportB) owner
            ∧ scope.KeepsMethod config api (config.platforms reportA reportB) owner decl.methods
              flatName)
        ∨ ∃ decl ∈ api.interfaces, decl.name = owner
            ∧ scope.KeepsMethod config api (config.platforms reportA reportB) owner decl.methods
              flatName := by
  constructor
  · rintro ⟨method, howned, rfl, hknown⟩
    rcases Bindings.mem_ownedMethods_iff.mp howned with
      ⟨item, hitem, rfl, hmethod⟩ | ⟨item, hitem, rfl, hmethod⟩
    · obtain ⟨decl, hdecl, draft, hmade, hkept, rfl⟩ := exists_decl_of_mem_allStructs hdistinct hitem
      obtain ⟨left, hleft, hmethods⟩ := hmade.methods
      obtain ⟨hmem, hnames⟩ := of_mem_retainMethods hmethod
      rw [hmethods] at hmem
      have hname : (scope.finishStruct (draft.retainMethods
          (scope.leftOut config api reportA reportB))).name = decl.name := hmade.name
      rw [hname]
      exact .inl ⟨decl, hdecl, rfl, hkept,
        (exists_kept_method_iff hindex hdistinct hleft).mp ⟨method, hmem, rfl, hknown, hnames⟩⟩
    · have hnames := interface_names hindex hitem hmethod
      obtain ⟨decl, hdecl, rfl⟩ := mem_interfaceItems_made_iff.mp hitem
      exact .inr ⟨decl, hdecl, rfl, (exists_kept_method_iff hindex hdistinct
        (List.Subset.refl _)).mp ⟨method, hmethod, rfl, hknown, fun name hname => (hnames name hname).2⟩⟩
  · rintro (⟨decl, hdecl, rfl, hkept, hkeeps⟩ | ⟨decl, hdecl, rfl, hkeeps⟩)
    · obtain ⟨draft, hmade, hitem⟩ := exists_mem_allStructs_of_decl hindex hdistinct hdecl hkept
      obtain ⟨left, hleft, hmethods⟩ := hmade.methods
      obtain ⟨method, hmethod, rfl, hknown, hnames⟩ :=
        (exists_kept_method_iff hindex hdistinct hleft).mpr hkeeps
      rw [← hmethods] at hmethod
      have hstays : method ∈ (draft.retainMethods
          (scope.leftOut config api reportA reportB)).methods :=
        List.mem_filter.mpr ⟨hmethod,
          Option.isNone_iff_eq_none.mpr (Method.dropped?_eq_none_iff.mpr hnames)⟩
      exact ⟨method, Bindings.mem_ownedMethods_iff.mpr (.inl ⟨_, hitem, hmade.name, hstays⟩), rfl,
        hknown⟩
    · obtain ⟨method, hmethod, rfl, hknown, -⟩ :=
        (exists_kept_method_iff hindex hdistinct (List.Subset.refl _)).mpr hkeeps
      exact ⟨method, Bindings.mem_ownedMethods_iff.mpr (.inr
        ⟨_, mem_interfaceItems_made_iff.mpr ⟨decl, hdecl, rfl⟩, rfl, hmethod⟩), rfl, hknown⟩

end Run

end Scope

end AbiBridge
