import AbiBridge.Generate.Structs
import AbiBridge.Proofs.Descriptor.TypedefWalk

/-!
# Names in the types of drafts

Which names the types have that the stages of a run make. Every name was looked up,
except those in the type that takes the place of a typedef of an array.
-/

namespace AbiBridge

open CType

mutual

@[simp] theorem names_withHandles (index : Index) (type : CType) :
    (withHandles index type).names = type.names := by
  cases type with
  | primitive p => simp [withHandles]
  | named name => simp [withHandles]
  | pointer target nullable isConst =>
    cases target with
    | named name =>
      rw [withHandles]
      split <;> rfl
    | primitive p => simp [withHandles, names]
    | pointer inner nullable' isConst' =>
      have ih := names_withHandles index (pointer inner nullable' isConst')
      simpa [withHandles, names] using ih
    | array element length =>
      have ih := names_withHandles index (array element length)
      simpa [withHandles, names] using ih
    | zeroTerminated element => simp [withHandles, names]
    | slice element isConst' => simp [withHandles, names]
    | function params result nullable' =>
      have ih := names_withHandles index (function params result nullable')
      simpa [withHandles, names] using ih
  | array element length =>
    rw [withHandles, names, names, names_withHandles index element]
  | zeroTerminated element => simp [withHandles]
  | slice element isConst => simp [withHandles]
  | function params result nullable =>
    rw [withHandles, names, names, namesOfAll_toHandlesOfAll index params,
      namesOfResult_toHandlesOfResult index result]

@[simp] theorem namesOfAll_toHandlesOfAll (index : Index) (types : List CType) :
    namesOfAll (toHandlesOfAll index types) = namesOfAll types := by
  cases types with
  | nil => rw [toHandlesOfAll]
  | cons type types =>
    rw [toHandlesOfAll, namesOfAll, namesOfAll, names_withHandles index type,
      namesOfAll_toHandlesOfAll index types]

@[simp] theorem namesOfResult_toHandlesOfResult (index : Index) (result : Option CType) :
    namesOfResult (toHandlesOfResult index result) = namesOfResult result := by
  cases result with
  | none => rw [toHandlesOfResult]
  | some type => rw [toHandlesOfResult, namesOfResult, namesOfResult, names_withHandles index type]

end

section Following

variable {index : Index} {resolver : Resolver} {P : String → Prop}

/-- What a typedef with the property stands for has only names with the property. -/
def Index.StepsWithin (index : Index) (resolver : Resolver) (P : String → Prop) : Prop :=
  ∀ name type, P name → index.step? resolver name = some type → ∀ n ∈ type.names, P n

variable (hstep : index.StepsWithin resolver P)
include hstep

theorem Index.names_walk {links : Nat} {type target : CType}
    (hwalk : index.Walk resolver links type target) (htype : ∀ n ∈ type.names, P n) :
    ∀ n ∈ target.names, P n := by
  induction hwalk with
  | here => exact htype
  | @link _ name raw next _ htarget hraw _ ih =>
    have hname : P name := htype name (by simp [names])
    exact ih (hstep name next hname (Index.step?_eq_some_iff.mpr ⟨raw, htarget, hraw⟩))

theorem Index.names_decayTypedef {type : CType} (htype : ∀ n ∈ type.names, P n) :
    ∀ n ∈ (index.decayTypedef resolver type).names, P n := by
  cases type with
  | named name =>
    rw [Index.decayTypedef]
    split
    · split
      · next element length htarget =>
        obtain ⟨-, links, -, hwalk⟩ := Index.underlying?_eq_some_iff.mp htarget
        have hnames := Index.names_walk hstep hwalk htype
        rw [names] at hnames
        rw [pointerTo, names]
        exact hnames
      · exact htype
    · exact htype
  | _ => exact htype

end Following

def Index.Knows (index : Index) (names : List String) : Prop :=
  ∀ name ∈ names, index.contains name = true

section Resolving

variable {scope : Scope} {dropped : List String} {owner entity raw : String}
  {position : Position}

@[simp] theorem Scope.firstMissing?_eq_none_iff {type : CType} :
    scope.firstMissing? dropped type = none
      ↔ scope.index.Knows type.names ∧ ∀ name ∈ type.names, name ∉ dropped := by
  simp [Scope.firstMissing?, Index.firstUnknown?, firstDropped?, Index.Knows]

theorem Scope.checkNames_eq_ok_iff {type checked : CType} :
    scope.checkNames dropped entity type = .ok checked
      ↔ checked = type ∧ scope.index.Knows type.names ∧ ∀ name ∈ type.names, name ∉ dropped := by
  rw [Scope.checkNames, ← Scope.firstMissing?_eq_none_iff]
  split
  · next name hmissing => simp [hmissing]
  · next hmissing => simp [hmissing, eq_comm]

theorem Scope.resolve_eq_ok {type : CType}
    (h : scope.resolve dropped entity raw position = .ok type) :
    scope.resolver.resolve raw position = .ok type ∧ scope.index.Knows type.names
      ∧ ∀ name ∈ type.names, name ∉ dropped := by
  rw [Scope.resolve] at h
  cases hread : scope.resolver.resolve raw position with
  | error failure =>
    rw [hread] at h
    cases h
  | ok read =>
    rw [hread] at h
    obtain ⟨rfl, hnames⟩ := Scope.checkNames_eq_ok_iff.mp h
    exact ⟨rfl, hnames⟩

theorem Scope.exists_read_of_resolveIn {type : CType}
    (h : scope.resolveIn dropped owner entity raw position = .ok type) :
    ∃ read, scope.resolver.resolve raw position = .ok read
      ∧ type = scope.index.qualify owner read := by
  rw [Scope.resolveIn] at h
  cases hread : scope.resolver.resolve raw position with
  | error failure =>
    rw [hread] at h
    cases h
  | ok read =>
    rw [hread] at h
    exact ⟨read, rfl, (Scope.checkNames_eq_ok_iff.mp h).1⟩

theorem Scope.resolveIn_eq_ok {type : CType}
    (h : scope.resolveIn dropped owner entity raw position = .ok type) :
    scope.index.Knows type.names ∧ ∀ name ∈ type.names, name ∉ dropped := by
  rw [Scope.resolveIn] at h
  cases hread : scope.resolver.resolve raw position with
  | error failure =>
    rw [hread] at h
    cases h
  | ok read =>
    rw [hread] at h
    obtain ⟨rfl, hnames⟩ := Scope.checkNames_eq_ok_iff.mp h
    exact hnames

theorem Scope.resolveResultIn_eq_ok {result : Option CType}
    (h : scope.resolveResultIn dropped owner entity raw = .ok result) :
    ∀ type ∈ result, scope.index.Knows type.names ∧ ∀ name ∈ type.names, name ∉ dropped := by
  rw [Scope.resolveResultIn] at h
  cases hread : scope.resolver.resolveResult raw .signature with
  | error failure =>
    rw [hread] at h
    cases h
  | ok read =>
    rw [hread] at h
    cases read with
    | none =>
      cases h
      intro type htype
      cases htype
    | some read =>
      change (scope.checkNames dropped entity (scope.index.qualify owner read)).map some
        = .ok result at h
      cases hchecked : scope.checkNames dropped entity (scope.index.qualify owner read) with
      | error issue =>
        rw [hchecked] at h
        cases h
      | ok checked =>
        rw [hchecked] at h
        cases h
        intro type htype
        cases htype
        obtain ⟨rfl, hnames⟩ := Scope.checkNames_eq_ok_iff.mp hchecked
        exact hnames

theorem Scope.exists_read_of_resolveResultIn {result : Option CType}
    (h : scope.resolveResultIn dropped owner entity raw = .ok result) :
    ∀ type ∈ result, ∃ read, scope.resolver.resolveResult raw .signature = .ok (some read)
      ∧ type = scope.index.qualify owner read := by
  rw [Scope.resolveResultIn] at h
  cases hread : scope.resolver.resolveResult raw .signature with
  | error failure =>
    rw [hread] at h
    cases h
  | ok read =>
    rw [hread] at h
    cases read with
    | none =>
      cases h
      intro type htype
      cases htype
    | some read =>
      change (scope.checkNames dropped entity (scope.index.qualify owner read)).map some
        = .ok result at h
      cases hchecked : scope.checkNames dropped entity (scope.index.qualify owner read) with
      | error issue =>
        rw [hchecked] at h
        cases h
      | ok checked =>
        rw [hchecked] at h
        cases h
        intro type htype
        cases htype
        exact ⟨read, rfl, (Scope.checkNames_eq_ok_iff.mp hchecked).1⟩

end Resolving

end AbiBridge
