import AbiBridge.Callback.Choice
import AbiBridge.Generate.Handle
import AbiBridge.Proofs.Descriptor.Index

/-!
# The order of a descriptor

Descriptors that differ in the order of their typedefs, structs and payloads make indexes of
the same names. Whether a name is that of a struct or of an enum may differ, if one name is
declared twice; nothing that reads a type asks for it.
-/

namespace AbiBridge

/-- The descriptors differ in the order of typedefs, structs and payloads. -/
structure Api.Reorders (api api' : Api) : Prop where
  typedefs : api.typedefs.Perm api'.typedefs
  structs : api.structs.Perm api'.structs
  callbackStructs : api.callbackStructs.Perm api'.callbackStructs
  consts : api.consts = api'.consts
  enums : api.enums = api'.enums
  interfaces : api.interfaces = api'.interfaces

theorem Api.Reorders.symm {api api' : Api} (h : api.Reorders api') : api'.Reorders api where
  typedefs := h.typedefs.symm
  structs := h.structs.symm
  callbackStructs := h.callbackStructs.symm
  consts := h.consts.symm
  enums := h.enums.symm
  interfaces := h.interfaces.symm

namespace Index

variable {index index' : Index} {name : String}

structure SameAs (index index' : Index) : Prop where
  contains : ∀ name, index.contains name = index'.contains name
  nested : ∀ name, index.nested.contains name = index'.nested.contains name
  targets : ∀ name, index.target? name = index'.target? name
  kinds : ∀ name kind, kind ≠ .struct → kind ≠ .enum →
    (index.kind? name = some kind ↔ index'.kind? name = some kind)

theorem SameAs.symm (h : index.SameAs index') : index'.SameAs index where
  contains name := (h.contains name).symm
  nested name := (h.nested name).symm
  targets name := (h.targets name).symm
  kinds name kind hstruct henum := (h.kinds name kind hstruct henum).symm

/-- A type that reads the same in both indexes is treated alike. -/
structure SameTypes (index index' : Index) : Prop where
  targets : ∀ name, index.target? name = index'.target? name
  kinds : ∀ name kind, kind ≠ .struct → kind ≠ .enum →
    (index.kind? name = some kind ↔ index'.kind? name = some kind)

theorem SameAs.sameTypes (h : index.SameAs index') : index.SameTypes index' :=
  ⟨h.targets, h.kinds⟩

def IsNested (index : Index) (name : String) : Prop :=
  name ∈ index.nested

def qualifiedEnumNames (owner : String) (decls : List EnumDecl) : List String :=
  decls.flatMap fun decl => [qualifiedName owner decl.name]

theorem nested_addNestedEnum (owner : String) :
    Enters IsNested (addNestedEnum owner) fun decl => [qualifiedName owner decl.name] := by
  intro index decl name
  rw [List.mem_singleton]
  exact List.mem_cons

theorem nested_ofApi {api : Api} {extraTypedefs : Dictionary String} {opaqueTypes : List String} :
    name ∈ (ofApi api extraTypedefs opaqueTypes).nested
      ↔ name ∈ api.interfaces.flatMap (fun decl => qualifiedEnumNames decl.name decl.enums)
        ∨ name ∈ (api.structs ++ api.callbackStructs).flatMap
            fun decl => qualifiedEnumNames decl.name decl.enums := by
  have hstructs : Enters IsNested addStruct
      fun decl => qualifiedEnumNames decl.name decl.enums := by
    intro index decl name
    rw [addStruct, (nested_addNestedEnum decl.name).foldl]
    rfl
  have hinterfaces : Enters IsNested addInterface
      fun decl => qualifiedEnumNames decl.name decl.enums := by
    intro index decl name
    rw [addInterface, (nested_addNestedEnum decl.name).foldl]
    rfl
  have hnone : ∀ {α : Type} (add : Index → α → Index),
      (∀ index a, (add index a).nested = index.nested) → Enters IsNested add fun _ => [] := by
    intro α add h index a name
    rw [IsNested, IsNested, h]
    simp
  have henums := hnone addEnum fun _ _ => rfl
  have htypedefs := hnone (fun index (decl : TypedefDecl) =>
    index.addTypedef decl.name decl.target) fun _ _ => rfl
  have hextra := hnone (fun index (entry : String × String) =>
    index.addTypedef entry.1 entry.2) fun _ _ => rfl
  have hopaque := hnone (fun index name => index.addName name .opaqueType) fun _ _ => rfl
  change (ofApi api extraTypedefs opaqueTypes).IsNested name ↔ _
  rw [ofApi, hopaque.foldl, hextra.foldl, htypedefs.foldl, hinterfaces.foldl, henums.foldl,
    hstructs.foldl]
  simp [IsNested, empty]

def HasTarget (index : Index) (name : String) : Prop :=
  (index.target? name).isSome = true

theorem hasTarget_ofApi {api : Api} {extraTypedefs : Dictionary String}
    {opaqueTypes : List String} :
    (ofApi api extraTypedefs opaqueTypes).HasTarget name
      ↔ name ∈ extraTypedefs.names ∨ name ∈ api.typedefs.map (·.name) := by
  have htypedefs : Enters HasTarget (fun index (decl : TypedefDecl) =>
      index.addTypedef decl.name decl.target) fun decl => [decl.name] := by
    intro index decl name
    rw [HasTarget, target?_addTypedef, List.mem_singleton]
    by_cases hname : name = decl.name <;> simp [hname, HasTarget]
  have hextra : Enters HasTarget (fun index ((name, target) : String × String) =>
      index.addTypedef name target) fun entry => [entry.1] := by
    intro index entry name
    rw [HasTarget, target?_addTypedef, List.mem_singleton]
    by_cases hname : name = entry.1 <;> simp [hname, HasTarget]
  have hopaque : Enters HasTarget (fun index name => index.addName name .opaqueType)
      fun _ => [] := by
    intro index key name
    simp [HasTarget, target?, addName]
  rw [ofApi, hopaque.foldl, hextra.foldl, htypedefs.foldl, HasTarget, target?, targets_entities]
  simp [Dictionary.names, Dictionary.get?, Dictionary.empty, eq_comm]

def SameKinds (index index' : Index) : Prop :=
  ∀ name kind, kind ≠ .struct → kind ≠ .enum →
    (index.kind? name = some kind ↔ index'.kind? name = some kind)

def IsPlain (index : Index) : Prop :=
  ∀ name kind, index.kind? name = some kind → kind = .struct ∨ kind = .enum

@[simp] theorem kind?_addName (key : String) (kind : NameKind) :
    (index.addName key kind).kind? name = if name = key then some kind else index.kind? name :=
  Dictionary.get?_insert _ _ _ _

theorem IsPlain.addName (h : index.IsPlain) (key : String) {kind : NameKind}
    (hkind : kind = .struct ∨ kind = .enum) : (index.addName key kind).IsPlain := by
  intro name found hfound
  rw [kind?_addName] at hfound
  split at hfound
  · cases hfound
    exact hkind
  · exact h name found hfound

theorem IsPlain.addStruct (h : index.IsPlain) (decl : StructDecl) :
    (Index.addStruct index decl).IsPlain := by
  have hnested : ∀ (decls : List EnumDecl) (index : Index), index.IsPlain →
      (decls.foldl (addNestedEnum decl.name) index).IsPlain := by
    intro decls
    induction decls with
    | nil => exact fun index h => h
    | cons enum decls ih =>
      intro index h
      exact ih _ ((h.addName _ (.inr rfl)).addName _ (.inr rfl))
  exact hnested decl.enums _ (h.addName decl.name (.inl rfl))

theorem IsPlain.foldl_addStruct (h : index.IsPlain) (decls : List StructDecl) :
    (decls.foldl Index.addStruct index).IsPlain := by
  induction decls generalizing index with
  | nil => exact h
  | cons decl decls ih => exact ih (h.addStruct decl)

theorem IsPlain.sameKinds (h : index.IsPlain) (h' : index'.IsPlain) : index.SameKinds index' := by
  intro name kind hstruct henum
  constructor
  · intro hkind
    exact absurd (h name kind hkind) (by simp [hstruct, henum])
  · intro hkind
    exact absurd (h' name kind hkind) (by simp [hstruct, henum])

theorem SameKinds.addName (h : index.SameKinds index') (key : String) (kind : NameKind) :
    (index.addName key kind).SameKinds (index'.addName key kind) := by
  intro name found hstruct henum
  rw [kind?_addName, kind?_addName]
  split
  · exact Iff.rfl
  · exact h name found hstruct henum

theorem SameKinds.foldl {α : Type} {add : Index → α → Index}
    (hadd : ∀ index index' a, index.SameKinds index' → (add index a).SameKinds (add index' a))
    (h : index.SameKinds index') (items : List α) :
    (items.foldl add index).SameKinds (items.foldl add index') := by
  induction items generalizing index index' with
  | nil => exact h
  | cons a items ih => exact ih (hadd _ _ a h)

theorem SameKinds.addInterface (h : index.SameKinds index') (decl : InterfaceDecl) :
    (Index.addInterface index decl).SameKinds (Index.addInterface index' decl) :=
  SameKinds.foldl (fun _ _ enum h => (h.addName (flatName (qualifiedName decl.name enum.name))
    .enum).addName (qualifiedName decl.name enum.name) .enum) (h.addName decl.name .interface)
    decl.enums

theorem kind?_foldl_addTypedef (decls : List TypedefDecl) :
    (decls.foldl (fun index decl => index.addTypedef decl.name decl.target) index).kind? name
      = if name ∈ decls.map (·.name) then some .typedef else index.kind? name := by
  induction decls generalizing index with
  | nil => rfl
  | cons decl decls ih =>
    have hstep : (index.addTypedef decl.name decl.target).kind? name
        = if name = decl.name then some .typedef else index.kind? name :=
      kind?_addName decl.name .typedef
    rw [List.foldl_cons, ih, hstep, List.map_cons]
    by_cases hname : name = decl.name
    · simp [hname]
    · simp [hname]

theorem SameKinds.foldl_addTypedef (h : index.SameKinds index') {decls decls' : List TypedefDecl}
    (hdecls : decls.Perm decls') :
    (decls.foldl (fun index decl => index.addTypedef decl.name decl.target) index).SameKinds
      (decls'.foldl (fun index decl => index.addTypedef decl.name decl.target) index') := by
  intro name kind hstruct henum
  rw [kind?_foldl_addTypedef, kind?_foldl_addTypedef]
  have hnames : name ∈ decls.map (·.name) ↔ name ∈ decls'.map (·.name) :=
    (hdecls.map _).mem_iff
  by_cases hname : name ∈ decls.map (·.name)
  · rw [if_pos hname, if_pos (hnames.mp hname)]
  · rw [if_neg hname, if_neg fun h' => hname (hnames.mpr h')]
    exact h name kind hstruct henum

/-- Structs and payloads are entered first, so they hide nothing. -/
theorem sameKinds_ofApi {api api' : Api} (htypedefs : api.typedefs.Perm api'.typedefs)
    (henums : api.enums = api'.enums) (hinterfaces : api.interfaces = api'.interfaces)
    (extraTypedefs : Dictionary String) (opaqueTypes : List String) :
    (ofApi api extraTypedefs opaqueTypes).SameKinds (ofApi api' extraTypedefs opaqueTypes) := by
  have hempty : empty.IsPlain := fun name kind hkind => by cases hkind
  have hstructs := (hempty.foldl_addStruct (api.structs ++ api.callbackStructs)).sameKinds
    (hempty.foldl_addStruct (api'.structs ++ api'.callbackStructs))
  have hplain := SameKinds.foldl (fun _ _ decl h => h.addName decl.name .enum) hstructs api.enums
  have howners := SameKinds.foldl (fun _ _ decl h => SameKinds.addInterface h decl) hplain
    api.interfaces
  have hown := howners.foldl_addTypedef htypedefs
  have hadded : ∀ index index' (entry : String × String), SameKinds index index' →
      (index.addTypedef entry.1 entry.2).SameKinds (index'.addTypedef entry.1 entry.2) :=
    fun _ _ entry h => h.addName entry.1 .typedef
  have hextra := SameKinds.foldl hadded hown extraTypedefs.entries
  have hopaque := SameKinds.foldl (fun _ _ name h => SameKinds.addName h name .opaqueType) hextra
    opaqueTypes
  rw [ofApi, ofApi, ← henums, ← hinterfaces]
  exact hopaque

namespace SameAs

variable (h : index.SameAs index')
include h

theorem qualify (owner : String) (type : CType) :
    index.qualify owner type = index'.qualify owner type := by
  have hname : index.qualifyName owner = index'.qualifyName owner := by
    funext name
    rw [qualifyName, qualifyName, h.contains, h.nested]
  rw [Index.qualify, Index.qualify, hname]

theorem firstUnknown? (type : CType) : index.firstUnknown? type = index'.firstUnknown? type := by
  have hknown : (fun name => !index.contains name) = fun name => !index'.contains name :=
    funext fun name => congrArg (!·) (h.contains name)
  rw [Index.firstUnknown?, Index.firstUnknown?, hknown]

end SameAs

namespace SameTypes

variable (h : index.SameTypes index')
include h

theorem isInterface (name : String) : index.isInterface name = index'.isInterface name := by
  have hkind := h.kinds name .interface (by decide) (by decide)
  rw [Bool.eq_iff_iff, Index.isInterface, Index.isInterface, beq_iff_eq, beq_iff_eq]
  exact hkind

theorem step? (resolver : Resolver) (name : String) :
    index.step? resolver name = index'.step? resolver name := by
  rw [Index.step?, Index.step?, h.targets]

theorem underlyingWithin? (resolver : Resolver) (looks : Nat) (type : CType) :
    index.underlyingWithin? resolver looks type = index'.underlyingWithin? resolver looks type := by
  induction looks generalizing type with
  | zero => rfl
  | succ looks ih =>
    cases type with
    | named name =>
      rw [Index.underlyingWithin?, Index.underlyingWithin?, h.step?, funext ih]
    | _ => rfl

theorem underlying? (resolver : Resolver) (type : CType) :
    index.underlying? resolver type = index'.underlying? resolver type :=
  h.underlyingWithin? resolver maxTypedefDepth type

theorem integerType? (resolver : Resolver) (type : CType) :
    index.integerType? resolver type = index'.integerType? resolver type := by
  rw [Index.integerType?, Index.integerType?, h.underlying?]

theorem decayTypedef (resolver : Resolver) (type : CType) :
    index.decayTypedef resolver type = index'.decayTypedef resolver type := by
  cases type with
  | named name =>
    have hkind := h.kinds name .typedef (by decide) (by decide)
    rw [Index.decayTypedef, Index.decayTypedef, h.underlying?]
    by_cases htypedef : index.kind? name = some .typedef
    · rw [if_pos htypedef, if_pos (hkind.mp htypedef)]
    · rw [if_neg htypedef, if_neg fun htypedef' => htypedef (hkind.mpr htypedef')]
  | _ => rfl

theorem cannotBeBytes (type : CType) :
    AbiBridge.cannotBeBytes index type = AbiBridge.cannotBeBytes index' type := by
  cases type with
  | named name =>
    have hopaque : (index.kind? name == some .opaqueType)
        = (index'.kind? name == some .opaqueType) := by
      rw [Bool.eq_iff_iff, beq_iff_eq, beq_iff_eq]
      exact h.kinds name .opaqueType (by decide) (by decide)
    have hinterface := h.isInterface name
    rw [Index.isInterface, Index.isInterface] at hinterface
    rw [AbiBridge.cannotBeBytes, AbiBridge.cannotBeBytes, hopaque, hinterface]
  | array element length =>
    rw [AbiBridge.cannotBeBytes, AbiBridge.cannotBeBytes, cannotBeBytes element]
  | _ => rfl

end SameTypes

mutual

theorem SameTypes.withHandles (h : index.SameTypes index') (type : CType) :
    AbiBridge.withHandles index type = AbiBridge.withHandles index' type := by
  cases type with
  | pointer target nullable isConst =>
    cases target with
    | named name => rw [AbiBridge.withHandles, AbiBridge.withHandles, h.isInterface]
    | primitive p => simp only [AbiBridge.withHandles]
    | pointer inner nullable' isConst' =>
      have ih := h.withHandles (.pointer inner nullable' isConst')
      simpa only [AbiBridge.withHandles] using congrArg (CType.pointer · nullable isConst) ih
    | array element length =>
      have ih := h.withHandles (.array element length)
      simpa only [AbiBridge.withHandles] using congrArg (CType.pointer · nullable isConst) ih
    | zeroTerminated element => simp only [AbiBridge.withHandles]
    | slice element isConst' => simp only [AbiBridge.withHandles]
    | function params result nullable' =>
      have ih := h.withHandles (.function params result nullable')
      simpa only [AbiBridge.withHandles] using congrArg (CType.pointer · nullable isConst) ih
  | array element length =>
    rw [AbiBridge.withHandles, AbiBridge.withHandles, h.withHandles element]
  | function params result nullable =>
    rw [AbiBridge.withHandles, AbiBridge.withHandles, h.toHandlesOfAll params,
      h.toHandlesOfResult result]
  | _ => simp only [AbiBridge.withHandles]

theorem SameTypes.toHandlesOfAll (h : index.SameTypes index') (types : List CType) :
    AbiBridge.toHandlesOfAll index types = AbiBridge.toHandlesOfAll index' types := by
  cases types with
  | nil => rw [AbiBridge.toHandlesOfAll, AbiBridge.toHandlesOfAll]
  | cons type types =>
    rw [AbiBridge.toHandlesOfAll, AbiBridge.toHandlesOfAll, h.withHandles type, h.toHandlesOfAll types]

theorem SameTypes.toHandlesOfResult (h : index.SameTypes index') (result : Option CType) :
    AbiBridge.toHandlesOfResult index result = AbiBridge.toHandlesOfResult index' result := by
  cases result with
  | none => rw [AbiBridge.toHandlesOfResult, AbiBridge.toHandlesOfResult]
  | some type =>
    rw [AbiBridge.toHandlesOfResult, AbiBridge.toHandlesOfResult, h.withHandles type]

end

end Index

end AbiBridge
