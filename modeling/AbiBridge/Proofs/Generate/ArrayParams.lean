import AbiBridge.Generate.Structs
import AbiBridge.Proofs.CType.Part
import AbiBridge.Proofs.Descriptor.ArrayDecay
import AbiBridge.Proofs.Param.Offered

/-!
# Arrays as parameters

A function type that is read from a spelling has no array among its parameters, at whatever
depth it stands. The stages of a run rename, replace handles and decay, and keep that.
-/

namespace AbiBridge

namespace CType

/-- No function in the type has an array among its parameters. -/
def TakesNoArray (type : CType) : Prop :=
  ∀ params result nullable, IsPart (.function params result nullable) type →
    ∀ param ∈ params, ¬ param.IsArray

variable {type part : CType}

theorem TakesNoArray.of_isPart (h : type.TakesNoArray) (hpart : IsPart part type) :
    part.TakesNoArray := by
  intro params result nullable hfunction
  exact h params result nullable (hfunction.trans hpart)

theorem takesNoArray_of_components
    (hfunction : ∀ params result nullable, type ≠ .function params result nullable)
    (h : ∀ component, IsComponent component type → component.TakesNoArray) :
    type.TakesNoArray := by
  intro params result nullable hpart
  cases hpart with
  | whole => exact absurd rfl (hfunction params result nullable)
  | inside hcomponent hpart => exact h _ hcomponent params result nullable hpart

theorem takesNoArray_primitive (p : Primitive) : (CType.primitive p).TakesNoArray := by
  refine takesNoArray_of_components (by simp) fun component hcomponent => ?_
  cases hcomponent

theorem TakesNoArray.pointer (h : type.TakesNoArray) (nullable isConst : Bool) :
    (CType.pointer type nullable isConst).TakesNoArray := by
  refine takesNoArray_of_components (by simp) fun component hcomponent => ?_
  cases hcomponent
  exact h

/-- What a wrapper takes in place of a buffer has the functions of the buffer. -/
theorem TakesNoArray.bufferType? {offered : CType} {counted z : Bool} (h : type.TakesNoArray)
    (hoffered : bufferType? type counted z = some offered) : offered.TakesNoArray := by
  obtain ⟨target, nullable, isConst, rfl, heq⟩ := bufferType?_eq_some hoffered
  have htarget := h.of_isPart (.inside .target .whole)
  refine takesNoArray_of_components ?_ fun component hcomponent => ?_
  · rcases heq with rfl | rfl <;> simp
  · rcases heq with rfl | rfl
    · cases hcomponent
      exact htarget
    · cases hcomponent
      exact htarget

/-- What is read from a spelling has no function with an array among its parameters. -/
theorem takesNoArray_of_resolve {raw : String} {position : Position}
    (h : resolve raw position = .ok type) : type.TakesNoArray := by
  intro params result nullable hpart
  have hformed := (denotedAt_of_resolve h).isWellFormed_of_isPart hpart
  exact hformed.2.1

theorem TakesNoArray.map {f : CType → CType} (h : type.TakesNoArray) (hf : KeepsComponents f)
    (hfunction : ∀ type params result nullable, f type = .function params result nullable →
      ∃ params' result', type = .function params' result' nullable ∧ params = params'.map f)
    (harray : ∀ type, (f type).IsArray → type.IsArray) : (f type).TakesNoArray := by
  intro params result nullable hpart param hparam hisArray
  obtain ⟨source, hsource, heq | heq⟩ := hf.exists_isPart hpart rfl
  · subst heq
    exact h params result nullable hsource param hparam hisArray
  · obtain ⟨params', result', rfl, rfl⟩ := hfunction source params result nullable heq.symm
    obtain ⟨param', hparam', rfl⟩ := List.mem_map.mp hparam
    exact h params' result' nullable hsource param' hparam' (harray param' hisArray)

theorem TakesNoArray.mapNames (h : type.TakesNoArray) (f : String → String) :
    (type.mapNames f).TakesNoArray := by
  refine h.map (keepsComponents_mapNames f) ?_ fun type => isArray_mapNames_iff.mp
  intro type params result nullable heq
  cases type with
  | function params' result' nullable' =>
    rw [CType.mapNames, mapNamesOfAll_eq_map] at heq
    cases heq
    exact ⟨params', result', rfl, rfl⟩
  | _ => simp [CType.mapNames] at heq

end CType

section Handles

open CType

variable {index : Index}

/-- A pointer becomes a handle, or points to what its target becomes. -/
theorem withHandles_pointer (index : Index) (target : CType) (nullable isConst : Bool) :
    (∃ name, index.isInterface name = true
        ∧ withHandles index (.pointer target nullable isConst) = .named name)
      ∨ withHandles index (.pointer target nullable isConst)
        = .pointer (withHandles index target) nullable isConst := by
  cases target with
  | named name =>
    rw [withHandles]
    split
    · next hinterface => exact .inl ⟨name, hinterface, rfl⟩
    · exact .inr (by simp [withHandles])
  | _ => exact .inr (by rw [withHandles]; simp)

theorem toHandlesOfAll_eq_map (types : List CType) :
    toHandlesOfAll index types = types.map (withHandles index) := by
  induction types with
  | nil => rfl
  | cons type types ih => rw [toHandlesOfAll, ih, List.map_cons]

theorem keepsComponents_withHandles (index : Index) : KeepsComponents (withHandles index) := by
  intro type component h
  cases type with
  | primitive p => exact ⟨component, by simpa [withHandles] using h, .inl rfl⟩
  | named name => exact ⟨component, by simpa [withHandles] using h, .inl rfl⟩
  | zeroTerminated element => exact ⟨component, by simpa [withHandles] using h, .inl rfl⟩
  | slice element isConst => exact ⟨component, by simpa [withHandles] using h, .inl rfl⟩
  | pointer target nullable isConst =>
    rcases withHandles_pointer index target nullable isConst with ⟨name, -, heq⟩ | heq
    · rw [heq] at h
      cases h
    · rw [heq] at h
      cases h
      exact ⟨target, .target, .inr rfl⟩
  | array element length =>
    rw [withHandles] at h
    cases h
    exact ⟨element, .element, .inr rfl⟩
  | function params result nullable =>
    rw [withHandles, toHandlesOfAll_eq_map] at h
    generalize hresult : toHandlesOfResult index result = result' at h
    cases h with
    | param hparam =>
      obtain ⟨param, hmem, rfl⟩ := List.mem_map.mp hparam
      exact ⟨param, .param hmem, .inr rfl⟩
    | result =>
      cases result with
      | none => rw [toHandlesOfResult] at hresult; cases hresult
      | some result =>
        rw [toHandlesOfResult] at hresult
        cases hresult
        exact ⟨result, .result, .inr rfl⟩

variable {type : CType}

/-- Handles take the place of pointers only. -/
@[simp] theorem isArray_withHandles_iff : (withHandles index type).IsArray ↔ type.IsArray := by
  cases type with
  | pointer target nullable isConst =>
    rcases withHandles_pointer index target nullable isConst with ⟨name, -, heq⟩ | heq
    · simp [IsArray, heq]
    · simp [IsArray, heq]
  | _ => simp [IsArray, withHandles]

theorem eq_named_or_isInterface_of_withHandles {name : String}
    (h : withHandles index type = .named name) :
    type = .named name ∨ index.isInterface name = true := by
  cases type with
  | pointer target nullable isConst =>
    rcases withHandles_pointer index target nullable isConst with ⟨other, hinterface, heq⟩ | heq
    · rw [heq] at h
      cases h
      exact .inr hinterface
    · rw [heq] at h
      cases h
  | named other => exact .inl (by simpa [withHandles] using h)
  | _ => simp [withHandles] at h

theorem CType.TakesNoArray.withHandles (h : type.TakesNoArray) (index : Index) :
    (withHandles index type).TakesNoArray := by
  refine h.map (keepsComponents_withHandles index) ?_ fun type => isArray_withHandles_iff.mp
  intro type params result nullable heq
  cases type with
  | pointer target nullable' isConst =>
    rcases withHandles_pointer index target nullable' isConst with ⟨name, -, heq'⟩ | heq'
    · rw [heq'] at heq
      cases heq
    · rw [heq'] at heq
      cases heq
  | function params' result' nullable' =>
    rw [AbiBridge.withHandles, toHandlesOfAll_eq_map] at heq
    cases heq
    exact ⟨params', result', rfl, rfl⟩
  | _ => simp [AbiBridge.withHandles] at heq

end Handles

namespace Index

open CType

variable {index : Index} {resolver : Resolver} {type : CType}

theorem takesNoArray_underlying? {name : String}
    (h : index.underlying? resolver (.named name) = some type) : type.TakesNoArray := by
  obtain ⟨count, raw, -, -, hraw, -⟩ := underlyingWithin?_named_eq_some_iff.mp h
  exact takesNoArray_of_resolve hraw

/-- What takes the place of a typedef of an array points to what another spelling denotes. -/
theorem decayTypedef_cases (index : Index) (resolver : Resolver) (type : CType) :
    (∃ name element length, index.underlying? resolver (.named name) = some (.array element length)
        ∧ index.decayTypedef resolver type = .pointerTo element false)
      ∨ index.decayTypedef resolver type = type
        ∧ ∀ name, type = .named name → ¬ IsArrayTypedef index resolver name := by
  by_cases htypedef : ∃ name, type = .named name ∧ IsArrayTypedef index resolver name
  · obtain ⟨name, rfl, htypedef⟩ := htypedef
    obtain ⟨element, length, hunderlying, hdecay⟩ := decayTypedef_of_isArrayTypedef htypedef
    exact .inl ⟨name, element, length, hunderlying, hdecay⟩
  · have hnone : ∀ name, type = .named name → ¬ IsArrayTypedef index resolver name :=
      fun name hname harray => htypedef ⟨name, hname, harray⟩
    exact .inr ⟨decayTypedef_eq_self hnone, hnone⟩

theorem takesNoArray_decayTypedef (h : type.TakesNoArray) :
    (index.decayTypedef resolver type).TakesNoArray := by
  rcases decayTypedef_cases index resolver type with ⟨name, element, length, htarget, heq⟩ | ⟨heq, -⟩
  · rw [heq]
    have helement := (takesNoArray_underlying? htarget).of_isPart (.inside .element .whole)
    exact helement.pointer true false
  · rw [heq]
    exact h

/-- The type is an array, or the name of a typedef of one. -/
def IsArrayValue (index : Index) (resolver : Resolver) (type : CType) : Prop :=
  type.IsArray ∨ ∃ name, type = .named name ∧ IsArrayTypedef index resolver name

theorem not_isArrayValue_of_bufferType? {offered : CType} {counted z : Bool}
    (h : bufferType? type counted z = some offered) : ¬ IsArrayValue index resolver offered := by
  obtain ⟨target, nullable, isConst, -, rfl | rfl⟩ := bufferType?_eq_some h <;>
    simp [IsArrayValue, IsArray]

/-- A parameter of a method is no array and no typedef of one. -/
theorem not_isArrayValue_withHandles_decayTypedef (h : ¬ type.IsArray) :
    ¬ IsArrayValue index resolver (withHandles index (index.decayTypedef resolver type)) := by
  rintro (harray | ⟨name, hname, htypedef⟩)
  · rw [isArray_withHandles_iff] at harray
    rcases decayTypedef_cases index resolver type with ⟨_, _, _, -, heq⟩ | ⟨heq, -⟩
    · rw [heq] at harray
      obtain ⟨_, _, hpointer⟩ := harray
      cases hpointer
    · exact h (heq ▸ harray)
  · rcases eq_named_or_isInterface_of_withHandles hname with hdecay | hinterface
    · rcases decayTypedef_cases index resolver type with ⟨_, _, _, -, heq⟩ | ⟨heq, hnone⟩
      · rw [heq] at hdecay
        cases hdecay
      · exact hnone name (heq ▸ hdecay) htypedef
    · rw [isInterface, htypedef.1] at hinterface
      cases hinterface

end Index

end AbiBridge
