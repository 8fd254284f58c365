import AbiBridge.Descriptor.Index
import AbiBridge.Proofs.Dictionary

/-!
# The names of an index

An index knows the names that were entered and no others, and the target of a typedef is
one that was entered for it.
-/

namespace AbiBridge

/-- The names by which types refer to an enum. -/
def enumNames (owner : Option String) (decl : EnumDecl) : List String :=
  match owner with
  | none => [decl.name]
  | some owner => [qualifiedName owner decl.name, flatName (qualifiedName owner decl.name)]

def nestedEnumNames (owner : String) (decls : List EnumDecl) : List String :=
  decls.flatMap (enumNames (some owner))

namespace Index

variable {index : Index} {name : String}

section Folding

variable {α : Type} {add : Index → α → Index} {entered : α → List String}

/-- Adding an item enters its names and no others. -/
def Enters (has : Index → String → Prop) (add : Index → α → Index) (entered : α → List String) :
    Prop :=
  ∀ index a name, has (add index a) name ↔ name ∈ entered a ∨ has index name

theorem Enters.foldl {has : Index → String → Prop} (h : Enters has add entered)
    (items : List α) :
    has (items.foldl add index) name ↔ name ∈ items.flatMap entered ∨ has index name := by
  induction items generalizing index with
  | nil => simp
  | cons a items ih =>
    rw [List.foldl_cons, ih, h, List.flatMap_cons, List.mem_append, ← or_assoc,
      or_comm (a := name ∈ items.flatMap entered)]

end Folding

def Has (index : Index) (name : String) : Prop :=
  index.contains name = true

@[simp] theorem has_addName (kind : NameKind) {key : String} :
    (index.addName key kind).Has name ↔ name = key ∨ index.Has name :=
  Dictionary.contains_insert

theorem enters_addNestedEnum (owner : String) :
    Enters Has (addNestedEnum owner) (enumNames (some owner)) := by
  intro index decl name
  have hadded : (addNestedEnum owner index decl).Has name
      ↔ name = qualifiedName owner decl.name ∨ name = flatName (qualifiedName owner decl.name)
        ∨ index.Has name := by
    rw [← has_addName .enum, ← has_addName .enum]
    rfl
  rw [hadded, ← or_assoc, enumNames, List.mem_cons, List.mem_singleton]

theorem enters_addStruct :
    Enters Has addStruct fun decl => decl.name :: nestedEnumNames decl.name decl.enums := by
  intro index decl name
  rw [addStruct, (enters_addNestedEnum decl.name).foldl, has_addName, List.mem_cons,
    nestedEnumNames, or_left_comm, or_assoc]

theorem enters_addInterface :
    Enters Has addInterface fun decl => decl.name :: nestedEnumNames decl.name decl.enums := by
  intro index decl name
  rw [addInterface, (enters_addNestedEnum decl.name).foldl, has_addName, List.mem_cons,
    nestedEnumNames, or_left_comm, or_assoc]

theorem enters_addEnum : Enters Has addEnum (enumNames none) := by
  intro index decl name
  rw [addEnum, has_addName, enumNames, List.mem_singleton]

theorem contains_ofApi {api : Api} {extraTypedefs : Dictionary String}
    {opaqueTypes : List String} :
    (ofApi api extraTypedefs opaqueTypes).contains name = true
      ↔ name ∈ opaqueTypes ∨ name ∈ extraTypedefs.names ∨ name ∈ api.typedefs.map (·.name)
        ∨ name ∈ api.interfaces.flatMap
            (fun decl => decl.name :: nestedEnumNames decl.name decl.enums)
        ∨ name ∈ api.enums.flatMap (enumNames none)
        ∨ name ∈ (api.structs ++ api.callbackStructs).flatMap
            (fun decl => decl.name :: nestedEnumNames decl.name decl.enums) := by
  have hopaque : Enters Has (fun index name => index.addName name .opaqueType) fun name => [name] := by
    intro index key name
    rw [has_addName, List.mem_singleton]
  have hextra : Enters Has (fun index ((name, target) : String × String) =>
      index.addTypedef name target) fun entry => [entry.1] := by
    intro index entry name
    rw [List.mem_singleton]
    exact has_addName .typedef
  have htypedefs : Enters Has (fun index (decl : TypedefDecl) =>
      index.addTypedef decl.name decl.target) fun decl => [decl.name] := by
    intro index decl name
    rw [List.mem_singleton]
    exact has_addName .typedef
  have hempty : Index.empty.Has name ↔ False := by simp [Has, contains, empty,
    Dictionary.contains, Dictionary.empty]
  change (ofApi api extraTypedefs opaqueTypes).Has name ↔ _
  rw [ofApi, hopaque.foldl, hextra.foldl, htypedefs.foldl, enters_addInterface.foldl,
    enters_addEnum.foldl, enters_addStruct.foldl, hempty, or_false]
  simp [Dictionary.names, List.mem_flatMap, eq_comm]

@[simp] theorem target?_addTypedef {key target : String} :
    (index.addTypedef key target).target? name
      = if name = key then some target else index.target? name :=
  Dictionary.get?_insert _ _ _ _

theorem step?_eq_some_iff {resolver : Resolver} {type : CType} :
    index.step? resolver name = some type
      ↔ ∃ raw, index.target? name = some raw ∧ resolver.resolve raw .value = .ok type := by
  rw [step?, Option.bind_eq_some_iff]
  refine exists_congr fun raw => and_congr_right fun _ => ?_
  cases resolver.resolve raw .value <;> simp [Except.toOption]

/-- Of several targets for a name the one that is entered last counts. -/
theorem target?_foldl_addTypedef {α : Type} (typedef : α → String × String) {items : List α}
    {raw : String}
    (h : (items.foldl (fun index a => index.addTypedef (typedef a).1 (typedef a).2) index).target?
      name = some raw) :
    (name, raw) ∈ items.map typedef
      ∨ (name ∉ items.map (fun a => (typedef a).1) ∧ index.target? name = some raw) := by
  induction items generalizing index with
  | nil => exact .inr ⟨by simp, h⟩
  | cons a items ih =>
    rcases ih h with hmem | ⟨hnot, htarget⟩
    · exact .inl (List.mem_cons_of_mem _ hmem)
    · rw [target?_addTypedef] at htarget
      by_cases hname : name = (typedef a).1
      · rw [if_pos hname] at htarget
        cases htarget
        rw [hname]
        exact .inl List.mem_cons_self
      · rw [if_neg hname] at htarget
        refine .inr ⟨?_, htarget⟩
        rw [List.map_cons, List.mem_cons, not_or]
        exact ⟨hname, hnot⟩

theorem targets_foldl {α : Type} {add : Index → α → Index}
    (h : ∀ index a, (add index a).targets = index.targets) (items : List α) (index : Index) :
    (items.foldl add index).targets = index.targets := by
  induction items generalizing index with
  | nil => rfl
  | cons a items ih => rw [List.foldl_cons, ih, h]

/-- Structs, enums and interfaces have no targets. -/
theorem targets_entities (api : Api) :
    (api.interfaces.foldl addInterface (api.enums.foldl addEnum
      ((api.structs ++ api.callbackStructs).foldl addStruct empty))).targets = .empty := by
  have hnested : ∀ owner index decl,
      (addNestedEnum owner index decl).targets = index.targets := fun _ _ _ => rfl
  have hstructs : ∀ index decl, (addStruct index decl).targets = index.targets :=
    fun index decl => targets_foldl (hnested decl.name) decl.enums _
  have henums : ∀ index decl, (addEnum index decl).targets = index.targets := fun _ _ => rfl
  have hinterfaces : ∀ index decl, (addInterface index decl).targets = index.targets :=
    fun index decl => targets_foldl (hnested decl.name) decl.enums _
  rw [targets_foldl hinterfaces, targets_foldl henums, targets_foldl hstructs]
  rfl

/-- The typedefs that are added come before those of the descriptor. -/
theorem target?_ofApi {api : Api} {extraTypedefs : Dictionary String}
    {opaqueTypes : List String} {raw : String}
    (h : (ofApi api extraTypedefs opaqueTypes).target? name = some raw) :
    (name, raw) ∈ extraTypedefs.entries
      ∨ (name ∉ extraTypedefs.names
          ∧ (name, raw) ∈ api.typedefs.map fun decl => (decl.name, decl.target)) := by
  have hopaque : ∀ (index : Index) (name : String),
      (index.addName name .opaqueType).targets = index.targets := fun _ _ => rfl
  rw [ofApi, target?, targets_foldl hopaque] at h
  rcases target?_foldl_addTypedef id h with hextra | ⟨hnot, h⟩
  · rw [List.map_id] at hextra
    exact .inl hextra
  · refine .inr ⟨hnot, ?_⟩
    rcases target?_foldl_addTypedef (fun decl : TypedefDecl => (decl.name, decl.target)) h
      with hdecl | ⟨-, h⟩
    · exact hdecl
    · rw [target?, targets_entities] at h
      cases h

end Index

end AbiBridge
