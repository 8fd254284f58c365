import AbiBridge.Proofs.Descriptor.Order
import AbiBridge.Proofs.Generate.TypeNames

/-!
# Descriptors with more payloads

More payloads make more names known. A type that reads in the larger index without one of the
new names reads the same in the smaller one, and a type that does not read in the larger index
does not read in the smaller one either.
-/

namespace AbiBridge

namespace CType

mutual

@[simp] theorem names_mapNames (f : String → String) (type : CType) :
    (type.mapNames f).names = type.names.map f := by
  cases type with
  | primitive p => rfl
  | named name => rfl
  | pointer target nullable isConst => exact names_mapNames f target
  | array element length => exact names_mapNames f element
  | zeroTerminated element => exact names_mapNames f element
  | slice element isConst => exact names_mapNames f element
  | function params result nullable =>
    rw [mapNames, names, names, List.map_append, namesOfAll_mapNamesOfAll f params,
      namesOfResult_mapNamesOfResult f result]

@[simp] theorem namesOfAll_mapNamesOfAll (f : String → String) (types : List CType) :
    namesOfAll (mapNamesOfAll f types) = (namesOfAll types).map f := by
  cases types with
  | nil => rfl
  | cons type types =>
    rw [mapNamesOfAll, namesOfAll, namesOfAll, List.map_append, names_mapNames f type,
      namesOfAll_mapNamesOfAll f types]

@[simp] theorem namesOfResult_mapNamesOfResult (f : String → String) (result : Option CType) :
    namesOfResult (mapNamesOfResult f result) = (namesOfResult result).map f := by
  cases result with
  | none => rfl
  | some type => exact names_mapNames f type

end

mutual

theorem mapNames_congr {f g : String → String} (type : CType)
    (h : ∀ name ∈ type.names, f name = g name) : type.mapNames f = type.mapNames g := by
  cases type with
  | primitive p => rfl
  | named name => rw [mapNames, mapNames, h name List.mem_cons_self]
  | pointer target nullable isConst => rw [mapNames, mapNames, mapNames_congr target h]
  | array element length => rw [mapNames, mapNames, mapNames_congr element h]
  | zeroTerminated element => rw [mapNames, mapNames, mapNames_congr element h]
  | slice element isConst => rw [mapNames, mapNames, mapNames_congr element h]
  | function params result nullable =>
    rw [mapNames, mapNames,
      mapNamesOfAll_congr params fun name hname => h name (List.mem_append_left _ hname),
      mapNamesOfResult_congr result fun name hname => h name (List.mem_append_right _ hname)]

theorem mapNamesOfAll_congr {f g : String → String} (types : List CType)
    (h : ∀ name ∈ namesOfAll types, f name = g name) :
    mapNamesOfAll f types = mapNamesOfAll g types := by
  cases types with
  | nil => rfl
  | cons type types =>
    rw [mapNamesOfAll, mapNamesOfAll,
      mapNames_congr type fun name hname => h name (List.mem_append_left _ hname),
      mapNamesOfAll_congr types fun name hname => h name (List.mem_append_right _ hname)]

theorem mapNamesOfResult_congr {f g : String → String} (result : Option CType)
    (h : ∀ name ∈ namesOfResult result, f name = g name) :
    mapNamesOfResult f result = mapNamesOfResult g result := by
  cases result with
  | none => rfl
  | some type => rw [mapNamesOfResult, mapNamesOfResult, mapNames_congr type h]

end

end CType

namespace Index

variable {index index' : Index} {brought : List String} {owner name : String}

theorem qualifyName_of_contains (h : index.contains name = true) :
    index.qualifyName owner name = name := by
  rw [qualifyName, h]
  rfl

theorem qualifyName_of_nested (h : ¬ index.contains name = true)
    (hnested : qualifiedName owner name ∈ index.nested) :
    index.qualifyName owner name = qualifiedName owner name := by
  rw [qualifyName, Bool.eq_false_iff.mpr h, List.contains_iff_mem.mpr hnested]
  rfl

theorem qualifyName_of_not_nested (hnested : qualifiedName owner name ∉ index.nested) :
    index.qualifyName owner name = name := by
  rw [qualifyName, Bool.eq_false_iff.mpr (mt List.contains_iff_mem.mp hnested), Bool.and_false]
  rfl

/-- The larger index knows the names of the smaller one and those that were brought. -/
structure Extends (index index' : Index) (brought : List String) : Prop
    extends index.SameTypes index' where
  contains_iff : ∀ name, index.contains name = true ↔ index'.contains name = true ∨ name ∈ brought
  nested : index'.nested ⊆ index.nested
  nested_or : ∀ name ∈ index.nested, name ∈ index'.nested ∨ name ∈ brought

namespace Extends

variable (h : index.Extends index' brought)
include h

theorem contains (hname : index'.contains name = true) : index.contains name = true :=
  (h.contains_iff name).mpr (.inl hname)

/-- A name that reads as one that was not brought reads the same in the smaller index. -/
theorem qualifyName_eq (hname : index.qualifyName owner name ∉ brought) :
    index'.qualifyName owner name = index.qualifyName owner name := by
  by_cases hknown : index.contains name = true
  · rw [qualifyName_of_contains hknown] at hname ⊢
    exact qualifyName_of_contains (((h.contains_iff name).mp hknown).resolve_right hname)
  · have hknown' : ¬ index'.contains name = true := mt h.contains hknown
    by_cases hnested : qualifiedName owner name ∈ index.nested
    · rw [qualifyName_of_nested hknown hnested] at hname ⊢
      exact qualifyName_of_nested hknown' ((h.nested_or _ hnested).resolve_right hname)
    · rw [qualifyName_of_not_nested hnested,
        qualifyName_of_not_nested (mt (fun hmem => h.nested hmem) hnested)]

theorem qualify_eq {type : CType} (hnames : ∀ name ∈ (index.qualify owner type).names,
    name ∉ brought) : index'.qualify owner type = index.qualify owner type := by
  refine CType.mapNames_congr type fun name hname => h.qualifyName_eq (hnames _ ?_)
  rw [qualify, CType.names_mapNames]
  exact List.mem_map_of_mem hname

/-- What is known once it is read in the smaller index is known once it is read in the larger
one. -/
theorem knows_qualify {type : CType} (hknown : index'.Knows (index'.qualify owner type).names) :
    index.Knows (index.qualify owner type).names := by
  intro name hname
  rw [qualify, CType.names_mapNames] at hname
  obtain ⟨raw, hraw, rfl⟩ := List.mem_map.mp hname
  have hread : index'.contains (index'.qualifyName owner raw) = true := by
    refine hknown _ ?_
    rw [qualify, CType.names_mapNames]
    exact List.mem_map_of_mem hraw
  by_cases hcontains : index.contains raw = true
  · rwa [qualifyName_of_contains hcontains]
  · have hcontains' : ¬ index'.contains raw = true := mt h.contains hcontains
    by_cases hnested' : qualifiedName owner raw ∈ index'.nested
    · rw [qualifyName_of_nested hcontains' hnested'] at hread
      rw [qualifyName_of_nested hcontains (h.nested hnested')]
      exact h.contains hread
    · rw [qualifyName_of_not_nested hnested'] at hread
      exact absurd hread hcontains'

end Extends

end Index

/-- The struct claims the number, but is not the one of this name. -/
def StructDecl.isRivalOf (decl : StructDecl) (name : String) (id : Int) : Bool :=
  decl.callbackId == some id && decl.name != name

/-- The descriptor in which nobody but the struct of this name claims the number. -/
def Api.withoutRivals (api : Api) (name : String) (id : Int) : Api :=
  { api with callbackStructs := api.callbackStructs.filter (!·.isRivalOf name id) }

/-- The names that the other claimants bring: their own and those of their enums. -/
def Api.rivalNames (api : Api) (name : String) (id : Int) : List String :=
  (api.callbackStructs.filter (·.isRivalOf name id)).flatMap fun decl =>
    decl.name :: nestedEnumNames decl.name decl.enums

namespace Index

variable (api : Api) (name : String) (id : Int) (extraTypedefs : Dictionary String)
  (opaqueTypes : List String)

omit name id in
theorem targets_foldl_congr {α : Type} {add : Index → α → Index}
    (hadd : ∀ index index' a, index.targets = index'.targets →
      (add index a).targets = (add index' a).targets)
    {index index' : Index} (h : index.targets = index'.targets) (items : List α) :
    (items.foldl add index).targets = (items.foldl add index').targets := by
  induction items generalizing index index' with
  | nil => exact h
  | cons a items ih => exact ih (hadd _ _ a h)

/-- Targets come from typedefs alone. -/
theorem targets_ofApi_congr {api api' : Api} (h : api.typedefs = api'.typedefs) :
    (ofApi api extraTypedefs opaqueTypes).targets
      = (ofApi api' extraTypedefs opaqueTypes).targets := by
  have hentered : ∀ (index index' : Index) (name target : String), index.targets = index'.targets →
      (index.addTypedef name target).targets = (index'.addTypedef name target).targets :=
    fun _ _ name target h => congrArg (·.insert name target) h
  have hown := targets_foldl_congr
    (fun index index' (decl : TypedefDecl) => hentered index index' decl.name decl.target)
    ((targets_entities api).trans (targets_entities api').symm) api.typedefs
  have hextra := targets_foldl_congr
    (fun index index' (entry : String × String) => hentered index index' entry.1 entry.2)
    hown extraTypedefs.entries
  have hadded : ∀ (index index' : Index) (name : String), index.targets = index'.targets →
      (index.addName name .opaqueType).targets = (index'.addName name .opaqueType).targets :=
    fun _ _ _ h => h
  rw [ofApi, ofApi, ← h]
  exact targets_foldl_congr hadded hextra opaqueTypes

/-- The names of some declarations are those of the ones that stay and those of the others. -/
theorem mem_flatMap_iff_filter {α : Type} (entered : α → List String) (items : List α)
    (keep : α → Bool) {name : String} :
    name ∈ items.flatMap entered
      ↔ name ∈ (items.filter (!keep ·)).flatMap entered
        ∨ name ∈ (items.filter (keep ·)).flatMap entered := by
  simp only [List.mem_flatMap, List.mem_filter, Bool.not_eq_true']
  constructor
  · rintro ⟨a, ha, hname⟩
    cases hkeep : keep a with
    | false => exact .inl ⟨a, ⟨ha, hkeep⟩, hname⟩
    | true => exact .inr ⟨a, ⟨ha, hkeep⟩, hname⟩
  · rintro (⟨a, ⟨ha, -⟩, hname⟩ | ⟨a, ⟨ha, -⟩, hname⟩) <;> exact ⟨a, ha, hname⟩

theorem qualifiedEnumNames_subset (owner : String) (decls : List EnumDecl) :
    qualifiedEnumNames owner decls ⊆ nestedEnumNames owner decls := by
  intro name hname
  obtain ⟨decl, hdecl, hname⟩ := List.mem_flatMap.mp hname
  rw [List.mem_singleton.mp hname]
  exact List.mem_flatMap.mpr ⟨decl, hdecl, List.mem_cons_self⟩

theorem extends_withoutRivals :
    (ofApi api extraTypedefs opaqueTypes).Extends
      (ofApi (api.withoutRivals name id) extraTypedefs opaqueTypes) (api.rivalNames name id) where
  targets other := by
    have hsame : api.typedefs = (api.withoutRivals name id).typedefs := rfl
    rw [target?, target?, targets_ofApi_congr extraTypedefs opaqueTypes hsame]
  kinds := by
    have hsame : api.typedefs.Perm (api.withoutRivals name id).typedefs := List.Perm.refl _
    exact sameKinds_ofApi hsame rfl rfl extraTypedefs opaqueTypes
  contains_iff other := by
    rw [contains_ofApi, contains_ofApi, List.flatMap_append, List.flatMap_append, List.mem_append,
      List.mem_append, mem_flatMap_iff_filter _ api.callbackStructs (·.isRivalOf name id)]
    simp only [Api.withoutRivals, Api.rivalNames, or_assoc]
  nested other hother := by
    rw [nested_ofApi] at hother ⊢
    refine hother.imp_right fun hother => ?_
    rw [List.flatMap_append, List.mem_append] at hother ⊢
    exact hother.imp_right fun hother =>
      (mem_flatMap_iff_filter _ api.callbackStructs (·.isRivalOf name id)).mpr (.inl hother)
  nested_or other hother := by
    rw [nested_ofApi, List.flatMap_append, List.mem_append,
      mem_flatMap_iff_filter _ api.callbackStructs (·.isRivalOf name id)] at hother
    rw [nested_ofApi, List.flatMap_append, List.mem_append]
    rcases hother with hother | hother | hother | hother
    · exact .inl (.inl hother)
    · exact .inl (.inr (.inl hother))
    · exact .inl (.inr (.inr hother))
    · obtain ⟨decl, hdecl, hother⟩ := List.mem_flatMap.mp hother
      exact .inr (List.mem_flatMap.mpr ⟨decl, hdecl,
        List.mem_cons_of_mem _ (qualifiedEnumNames_subset decl.name decl.enums hother)⟩)

end Index

end AbiBridge
