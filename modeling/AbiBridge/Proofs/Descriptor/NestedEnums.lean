import AbiBridge.Proofs.CType.Mentions
import AbiBridge.Proofs.Descriptor.Extension

/-!
# Nested enums inside their owner

Inside its owner a nested enum goes by its bare name. Reading a type there replaces the names of
such enums by the qualified ones, at every depth, and changes nothing else; what is then the first
unknown name was from the start neither known nor the name of such an enum. Nested enums are
recognized by their qualified names, so that a name that is qualified itself may be completed to
the name of an enum whose owner is nested as well.
-/

namespace AbiBridge

namespace CType

/-- The types are built alike, and their names are related place by place. -/
inductive Related (R : String → String → Prop) : CType → CType → Prop
  | primitive (p : Primitive) : Related R (.primitive p) (.primitive p)
  | named {name name' : String} : R name name' → Related R (.named name) (.named name')
  | pointer {target target' : CType} {nullable isConst : Bool} : Related R target target' →
    Related R (.pointer target nullable isConst) (.pointer target' nullable isConst)
  | array {element element' : CType} {length : Nat} : Related R element element' →
    Related R (.array element length) (.array element' length)
  | zeroTerminated {element element' : CType} : Related R element element' →
    Related R (.zeroTerminated element) (.zeroTerminated element')
  | slice {element element' : CType} {isConst : Bool} : Related R element element' →
    Related R (.slice element isConst) (.slice element' isConst)
  | function {params params' : List CType} {result result' : Option CType} {nullable : Bool} :
    List.Forall₂ (Related R) params params' → Option.Rel (Related R) result result' →
    Related R (.function params result nullable) (.function params' result' nullable)

section Related

variable {R : String → String → Prop} {f : String → String}

mutual

theorem related_mapNames (h : ∀ name, R name (f name)) (type : CType) :
    type.Related R (type.mapNames f) := by
  cases type with
  | primitive p => exact .primitive p
  | named name => exact .named (h name)
  | pointer target nullable isConst => exact .pointer (related_mapNames h target)
  | array element length => exact .array (related_mapNames h element)
  | zeroTerminated element => exact .zeroTerminated (related_mapNames h element)
  | slice element isConst => exact .slice (related_mapNames h element)
  | function params result nullable =>
    exact .function (related_mapNamesOfAll h params) (related_mapNamesOfResult h result)

theorem related_mapNamesOfAll (h : ∀ name, R name (f name)) (types : List CType) :
    List.Forall₂ (Related R) types (mapNamesOfAll f types) := by
  cases types with
  | nil => exact .nil
  | cons type types => exact .cons (related_mapNames h type) (related_mapNamesOfAll h types)

theorem related_mapNamesOfResult (h : ∀ name, R name (f name)) (result : Option CType) :
    Option.Rel (Related R) result (mapNamesOfResult f result) := by
  cases result with
  | none => exact .none
  | some type => exact .some (related_mapNames h type)

end

end Related

mutual

@[simp] theorem mapNames_id (type : CType) : type.mapNames id = type := by
  cases type with
  | primitive p => rfl
  | named name => rfl
  | pointer target nullable isConst => rw [mapNames, mapNames_id target]
  | array element length => rw [mapNames, mapNames_id element]
  | zeroTerminated element => rw [mapNames, mapNames_id element]
  | slice element isConst => rw [mapNames, mapNames_id element]
  | function params result nullable =>
    rw [mapNames, mapNamesOfAll_id params, mapNamesOfResult_id result]

@[simp] theorem mapNamesOfAll_id (types : List CType) : mapNamesOfAll id types = types := by
  cases types with
  | nil => rfl
  | cons type types => rw [mapNamesOfAll, mapNames_id type, mapNamesOfAll_id types]

@[simp]
theorem mapNamesOfResult_id (result : Option CType) : mapNamesOfResult id result = result := by
  cases result with
  | none => rfl
  | some type => rw [mapNamesOfResult, mapNames_id type]

end

theorem mapNames_eq_self {f : String → String} {type : CType}
    (h : ∀ name ∈ type.names, f name = name) : type.mapNames f = type :=
  (mapNames_congr type h).trans (mapNames_id type)

end CType

/-- The descriptor declares an enum of the given name in the struct, payload or interface
`owner`. -/
def Api.NestsEnum (api : Api) (owner name : String) : Prop :=
  (∃ decl ∈ api.structs ++ api.callbackStructs, decl.name = owner
      ∧ ∃ member ∈ decl.enums, member.name = name)
    ∨ ∃ decl ∈ api.interfaces, decl.name = owner ∧ ∃ member ∈ decl.enums, member.name = name

def Api.NamesEnum (api : Api) (name : String) : Prop :=
  ∃ owner member, api.NestsEnum owner member ∧ name = qualifiedName owner member

/-- A name without colons is what stands behind the last colon of the qualified name. -/
theorem takeWhile_reverse_qualifiedName (owner : String) {name : String} (hname : ':' ∉ name.toList) :
    (qualifiedName owner name).toList.reverse.takeWhile (· != ':') = name.toList.reverse := by
  have hchars : (qualifiedName owner name).toList.reverse
      = name.toList.reverse ++ ':' :: ':' :: owner.toList.reverse := by
    simp [qualifiedName]
  have hno : ∀ c ∈ name.toList.reverse, (c != ':') = true := by
    intro c hc
    rw [bne_iff_ne]
    rintro rfl
    exact hname (List.mem_reverse.mp hc)
  rw [hchars, List.takeWhile_append_of_pos hno, List.takeWhile_cons_of_neg (by decide),
    List.append_nil]

theorem qualifiedName_inj {owner owner' name name' : String} (hname : ':' ∉ name.toList)
    (hname' : ':' ∉ name'.toList) (h : qualifiedName owner name = qualifiedName owner' name') :
    owner = owner' ∧ name = name' := by
  have hnames := takeWhile_reverse_qualifiedName owner hname
  rw [h, takeWhile_reverse_qualifiedName owner' hname'] at hnames
  have heq : name = name' := String.toList_inj.mp (List.reverse_inj.mp hnames.symm)
  subst heq
  rw [qualifiedName, qualifiedName, String.append_left_inj, String.append_left_inj] at h
  exact ⟨h, rfl⟩

/-- Without colons in names, the enums with a qualified name are those nested in its owner. -/
theorem Api.namesEnum_qualifiedName_iff {api : Api} {owner name : String}
    (hname : ':' ∉ name.toList)
    (hmembers : ∀ owner member, api.NestsEnum owner member → ':' ∉ member.toList) :
    api.NamesEnum (qualifiedName owner name) ↔ api.NestsEnum owner name := by
  constructor
  · rintro ⟨owner', member, hnests, heq⟩
    obtain ⟨rfl, rfl⟩ := qualifiedName_inj hname (hmembers _ _ hnests) heq
    exact hnests
  · exact fun hnests => ⟨owner, name, hnests, rfl⟩

namespace Index

/-- The index has the nested enums of the descriptor, and knows their qualified names. -/
structure HasEnums (index : Index) (api : Api) : Prop where
  mem_nested_iff : ∀ name, name ∈ index.nested ↔ api.NamesEnum name
  contains : ∀ name, api.NamesEnum name → index.contains name = true

section OfApi

variable {api : Api} {extraTypedefs : Dictionary String} {opaqueTypes : List String}
  {name : String}

theorem mem_nested_ofApi_iff :
    name ∈ (ofApi api extraTypedefs opaqueTypes).nested ↔ api.NamesEnum name := by
  have hmember : ∀ (owner : String) (members : List EnumDecl),
      name ∈ qualifiedEnumNames owner members
        ↔ ∃ member ∈ members, name = qualifiedName owner member.name := by
    simp [qualifiedEnumNames]
  rw [nested_ofApi, List.mem_flatMap, List.mem_flatMap]
  simp only [hmember]
  constructor
  · rintro (⟨decl, hdecl, member, hmem, rfl⟩ | ⟨decl, hdecl, member, hmem, rfl⟩)
    · exact ⟨decl.name, member.name, .inr ⟨decl, hdecl, rfl, member, hmem, rfl⟩, rfl⟩
    · exact ⟨decl.name, member.name, .inl ⟨decl, hdecl, rfl, member, hmem, rfl⟩, rfl⟩
  · rintro ⟨_, _, ⟨decl, hdecl, rfl, member, hmem, rfl⟩ | ⟨decl, hdecl, rfl, member, hmem, rfl⟩,
      rfl⟩
    · exact .inr ⟨decl, hdecl, member, hmem, rfl⟩
    · exact .inl ⟨decl, hdecl, member, hmem, rfl⟩

theorem contains_of_mem_nested (h : name ∈ (ofApi api extraTypedefs opaqueTypes).nested) :
    (ofApi api extraTypedefs opaqueTypes).contains name = true := by
  have hentered : ∀ (owner : String) (members : List EnumDecl),
      name ∈ qualifiedEnumNames owner members → name ∈ owner :: nestedEnumNames owner members :=
    fun owner members hname =>
      List.mem_cons_of_mem _ (qualifiedEnumNames_subset owner members hname)
  rw [nested_ofApi] at h
  rw [contains_ofApi]
  refine .inr (.inr (.inr (h.imp (fun h => ?_) fun h => .inr ?_)))
  · obtain ⟨decl, hdecl, hname⟩ := List.mem_flatMap.mp h
    exact List.mem_flatMap.mpr ⟨decl, hdecl, hentered _ _ hname⟩
  · obtain ⟨decl, hdecl, hname⟩ := List.mem_flatMap.mp h
    exact List.mem_flatMap.mpr ⟨decl, hdecl, hentered _ _ hname⟩

/-- Typedefs and opaque types that are entered later may change what a name stands for, but no
name is lost. -/
theorem hasEnums_ofApi (api : Api) (extraTypedefs : Dictionary String)
    (opaqueTypes : List String) : (ofApi api extraTypedefs opaqueTypes).HasEnums api where
  mem_nested_iff _ := mem_nested_ofApi_iff
  contains _ h := contains_of_mem_nested (mem_nested_ofApi_iff.mpr h)

end OfApi

/-- The name can be read inside the owner: it is known, or the owner completes it to the qualified
name of a nested enum. -/
def Reads (index : Index) (api : Api) (owner name : String) : Prop :=
  index.contains name = true ∨ api.NamesEnum (qualifiedName owner name)

/-- What becomes of a name inside the owner. A known name stays; another one is qualified if that
makes it the name of a nested enum, and only then. -/
structure SeenAs (index : Index) (api : Api) (owner name seen : String) : Prop where
  known : index.contains name = true → seen = name
  qualified_iff : ¬ index.contains name = true →
    (seen = qualifiedName owner name ↔ api.NamesEnum (qualifiedName owner name))
  other : ¬ api.NamesEnum (qualifiedName owner name) → seen = name

theorem ne_qualifiedName (owner name : String) : name ≠ qualifiedName owner name := by
  intro h
  have hlength := congrArg String.length h
  rw [qualifiedName, String.length_append, String.length_append] at hlength
  have hcolons : "::".length = 2 := rfl
  omega

namespace HasEnums

variable {index : Index} {api : Api} (h : index.HasEnums api) (owner : String)
include h

theorem seenAs_qualifyName (name : String) :
    index.SeenAs api owner name (index.qualifyName owner name) where
  known := qualifyName_of_contains
  qualified_iff hunknown := by
    constructor
    · intro hseen
      by_contra hnone
      rw [qualifyName_of_not_nested (mt (h.mem_nested_iff _).mp hnone)] at hseen
      exact ne_qualifiedName owner name hseen
    · exact fun henum => qualifyName_of_nested hunknown ((h.mem_nested_iff _).mpr henum)
  other hnone := qualifyName_of_not_nested (mt (h.mem_nested_iff _).mp hnone)

/-- What cannot be read stays. -/
theorem qualifyName_of_not_reads {name : String} (hname : ¬ index.Reads api owner name) :
    index.qualifyName owner name = name :=
  (h.seenAs_qualifyName owner name).other fun henum => hname (.inr henum)

/-- A name is known after the replacement exactly if it can be read inside the owner. -/
theorem contains_qualifyName_iff (name : String) :
    index.contains (index.qualifyName owner name) = true ↔ index.Reads api owner name := by
  obtain ⟨hknown, hqualified, hother⟩ := h.seenAs_qualifyName owner name
  by_cases hcontains : index.contains name = true
  · rw [hknown hcontains]
    exact ⟨.inl, fun _ => hcontains⟩
  · by_cases henum : api.NamesEnum (qualifiedName owner name)
    · rw [(hqualified hcontains).mpr henum]
      exact ⟨fun _ => .inr henum, fun _ => h.contains _ henum⟩
    · rw [hother henum]
      exact ⟨.inl, fun hreads => hreads.resolve_right henum⟩

theorem qualifyName_qualifyName (name : String) :
    index.qualifyName owner (index.qualifyName owner name) = index.qualifyName owner name := by
  by_cases hreads : index.Reads api owner name
  · exact qualifyName_of_contains ((h.contains_qualifyName_iff owner name).mpr hreads)
  · rw [h.qualifyName_of_not_reads owner hreads, h.qualifyName_of_not_reads owner hreads]

theorem qualify_qualify (type : CType) :
    index.qualify owner (index.qualify owner type) = index.qualify owner type := by
  refine CType.mapNames_eq_self fun name hname => ?_
  rw [qualify, CType.names_mapNames] at hname
  obtain ⟨raw, -, rfl⟩ := List.mem_map.mp hname
  exact h.qualifyName_qualifyName owner raw

/-- The first name that is unknown after the replacement is the first one that cannot be read,
and it has stayed what it was. -/
theorem firstUnknown?_qualify (type : CType) [DecidablePred (index.Reads api owner)] :
    index.firstUnknown? (index.qualify owner type)
      = type.names.find? fun name => !decide (index.Reads api owner name) := by
  have hunknown : ∀ name, (!index.contains (index.qualifyName owner name))
      = !decide (index.Reads api owner name) := by
    intro name
    rw [Bool.not_inj_iff, Bool.eq_iff_iff, h.contains_qualifyName_iff, decide_eq_true_iff]
  rw [firstUnknown?, qualify, CType.names_mapNames, List.find?_map]
  simp only [Function.comp_def, hunknown]
  cases hfind : type.names.find? fun name => !decide (index.Reads api owner name) with
  | none => rfl
  | some name =>
    have hname : ¬ index.Reads api owner name := by simpa using List.find?_some hfind
    rw [Option.map_some, h.qualifyName_of_not_reads owner hname]

theorem firstUnknown?_qualify_eq_none_iff (type : CType) :
    index.firstUnknown? (index.qualify owner type) = none
      ↔ ∀ name, type.Mentions name → index.Reads api owner name := by
  classical
  rw [h.firstUnknown?_qualify, List.find?_eq_none]
  simp [CType.mem_names_iff]

theorem firstUnknown?_qualify_eq_some_iff (type : CType) (name : String) :
    index.firstUnknown? (index.qualify owner type) = some name
      ↔ ∃ front back, type.names = front ++ name :: back ∧ ¬ index.Reads api owner name
          ∧ ∀ other ∈ front, index.Reads api owner other := by
  classical
  rw [h.firstUnknown?_qualify, List.find?_eq_some_iff_append]
  constructor
  · rintro ⟨hname, front, back, hnames, hfront⟩
    exact ⟨front, back, hnames, by simpa using hname, by simpa using hfront⟩
  · rintro ⟨front, back, hnames, hname, hfront⟩
    exact ⟨by simpa using hname, front, back, hnames, by simpa using hfront⟩

end HasEnums

/-- Inside an owner, each name in a type is kept if it is known, replaced by the qualified one if
that is the name of a nested enum, and kept if not; nothing else changes, and a second reading
changes nothing. What is then the first unknown name is the first one that is neither known nor
completed to the name of a nested enum. If the names of nested enums have no colons, a name
without colons is completed exactly to an enum that is nested in the owner. -/
theorem qualify_nested {api : Api} {extraTypedefs : Dictionary String}
    {opaqueTypes : List String} {index : Index}
    (hindex : index = ofApi api extraTypedefs opaqueTypes) (owner : String) (type : CType) :
    type.Related (index.SeenAs api owner) (index.qualify owner type)
      ∧ index.qualify owner (index.qualify owner type) = index.qualify owner type
      ∧ (index.firstUnknown? (index.qualify owner type) = none
          ↔ ∀ name, type.Mentions name → index.Reads api owner name)
      ∧ (∀ name, index.firstUnknown? (index.qualify owner type) = some name
          ↔ ∃ front back, type.names = front ++ name :: back ∧ ¬ index.Reads api owner name
              ∧ ∀ other ∈ front, index.Reads api owner other)
      ∧ ((∀ other member, api.NestsEnum other member → ':' ∉ member.toList) →
          ∀ name, ':' ∉ name.toList →
            (api.NamesEnum (qualifiedName owner name) ↔ api.NestsEnum owner name)) := by
  have h : index.HasEnums api := hindex ▸ hasEnums_ofApi api extraTypedefs opaqueTypes
  refine ⟨CType.related_mapNames (h.seenAs_qualifyName owner) type, h.qualify_qualify owner type,
    h.firstUnknown?_qualify_eq_none_iff owner type,
    h.firstUnknown?_qualify_eq_some_iff owner type, ?_⟩
  exact fun hmembers name hname => Api.namesEnum_qualifiedName_iff hname hmembers

/-- An interface with a nested enum, and a struct with another one whose own name is qualified. -/
def modesApi : Api :=
  { interfaces := [{ name := "IUser", enums := [⟨"EMode", []⟩] }]
    structs := [{ name := "Outer_t::Inner_t", enums := [⟨"EKind", []⟩] }] }

theorem nestsEnum_modesApi_iff {owner name : String} : modesApi.NestsEnum owner name
    ↔ owner = "Outer_t::Inner_t" ∧ name = "EKind" ∨ owner = "IUser" ∧ name = "EMode" := by
  simp [Api.NestsEnum, modesApi, eq_comm]

/-- A function that takes a mode and a pointer to something unknown. -/
theorem qualify_nested_modes :
    (ofApi modesApi .empty []).qualify "IUser" (.named "EMode") = .named "IUser::EMode"
      ∧ modesApi.NestsEnum "IUser" "EMode"
      ∧ (ofApi modesApi .empty []).firstUnknown? ((ofApi modesApi .empty []).qualify "IUser"
          (.function [.named "EMode", .pointer (.named "Other_t") true false] none true))
        = some "Other_t" := by
  obtain ⟨hmode, -, -, -, -⟩ :=
    @qualify_nested modesApi .empty [] _ rfl "IUser" (.named "EMode")
  obtain ⟨-, -, -, hunknown, hnested⟩ := @qualify_nested modesApi .empty [] _ rfl "IUser"
    (.function [.named "EMode", .pointer (.named "Other_t") true false] none true)
  have hmembers : ∀ owner member, modesApi.NestsEnum owner member → ':' ∉ member.toList := by
    intro owner member h
    obtain ⟨-, rfl⟩ | ⟨-, rfl⟩ := nestsEnum_modesApi_iff.mp h <;> decide
  have hnests : modesApi.NestsEnum "IUser" "EMode" := nestsEnum_modesApi_iff.mpr (.inr ⟨rfl, rfl⟩)
  have henum : modesApi.NamesEnum (qualifiedName "IUser" "EMode") :=
    (hnested hmembers "EMode" (by decide)).mpr hnests
  refine ⟨?_, hnests, ?_⟩
  · cases hmode with
    | named hseen => exact congrArg CType.named ((hseen.qualified_iff (by decide)).mpr henum)
  · refine (hunknown "Other_t").mpr ⟨["EMode"], [], rfl, ?_, ?_⟩
    · rintro (hknown | hother)
      · exact absurd hknown (by decide)
      · exact absurd ((hnested hmembers "Other_t" (by decide)).mp hother)
          (by simp [nestsEnum_modesApi_iff])
    · intro other hother
      rw [List.mem_singleton.mp hother]
      exact .inr henum

/-- Not every unknown name that is completed is that of an enum nested in the owner itself: it may
lead through a nested owner. -/
theorem not_forall_qualify_nestsEnum :
    ¬ ∀ (api : Api) (owner name : String), ¬ (ofApi api .empty []).contains name = true →
      ((ofApi api .empty []).qualify owner (.named name) = .named (qualifiedName owner name)
        ↔ api.NestsEnum owner name) := by
  intro h
  have hqualified : (ofApi modesApi .empty []).qualifyName "Outer_t" "Inner_t::EKind"
      = qualifiedName "Outer_t" "Inner_t::EKind" := by decide
  have hnests := (h modesApi "Outer_t" "Inner_t::EKind" (by decide)).mp
    (congrArg CType.named hqualified)
  simp [nestsEnum_modesApi_iff] at hnests

end Index

end AbiBridge
