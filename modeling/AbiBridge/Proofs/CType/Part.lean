import AbiBridge.CType.Basic

/-!
# Parts of a type

A type occurs in another one as the whole or at some depth of it. A map that goes through a type
part by part makes the parts of the image from those of the type.
-/

namespace AbiBridge.CType

/-- The type stands directly in another one. -/
inductive IsComponent (component : CType) : CType → Prop
  | target {nullable isConst : Bool} : IsComponent component (.pointer component nullable isConst)
  | element {length : Nat} : IsComponent component (.array component length)
  | zeroTerminated : IsComponent component (.zeroTerminated component)
  | slice {isConst : Bool} : IsComponent component (.slice component isConst)
  | param {params : List CType} {result : Option CType} {nullable : Bool} :
      component ∈ params → IsComponent component (.function params result nullable)
  | result {params : List CType} {nullable : Bool} :
      IsComponent component (.function params (some component) nullable)

/-- The type `part` is the whole of another one or occurs in it at some depth. -/
inductive IsPart (part : CType) : CType → Prop
  | whole : IsPart part part
  | inside {component type : CType} : IsComponent component type → IsPart part component →
      IsPart part type

def IsArray (type : CType) : Prop :=
  ∃ element length, type = array element length

theorem IsPart.trans {inner part type : CType} (hinner : IsPart inner part)
    (hpart : IsPart part type) : IsPart inner type := by
  induction hpart with
  | whole => exact hinner
  | inside hcomponent _ ih => exact .inside hcomponent ih

/-- The parts of nested arrays are arrays, or parts of what they hold. -/
theorem isArray_or_isPart_of_nest {part base : CType} {lengths : List Nat}
    (h : IsPart part (nest base lengths)) : part.IsArray ∨ IsPart part base := by
  induction lengths with
  | nil => exact .inr h
  | cons length lengths ih =>
    cases h with
    | whole => exact .inl ⟨nest base lengths, length, rfl⟩
    | inside hcomponent h =>
      cases hcomponent
      exact ih h

/-- What stands directly in an image stands in the type itself, or is the image of what does. -/
def KeepsComponents (f : CType → CType) : Prop :=
  ∀ type component, IsComponent component (f type) →
    ∃ source, IsComponent source type ∧ (component = source ∨ component = f source)

theorem KeepsComponents.exists_isPart {f : CType → CType} (hf : KeepsComponents f)
    {part image type : CType} (h : IsPart part image) (himage : image = f type) :
    ∃ source, IsPart source type ∧ (part = source ∨ part = f source) := by
  induction h generalizing type with
  | whole => exact ⟨type, .whole, .inr himage⟩
  | inside hcomponent hpart ih =>
    subst himage
    obtain ⟨component, hsource, rfl | rfl⟩ := hf type _ hcomponent
    · exact ⟨part, .inside hsource hpart, .inl rfl⟩
    · obtain ⟨source, hinner, heq⟩ := ih rfl
      exact ⟨source, .inside hsource hinner, heq⟩

section Names

variable {f : String → String}

theorem mapNamesOfAll_eq_map (types : List CType) :
    mapNamesOfAll f types = types.map (mapNames f) := by
  induction types with
  | nil => rfl
  | cons type types ih => rw [mapNamesOfAll, ih, List.map_cons]

theorem keepsComponents_mapNames (f : String → String) : KeepsComponents (mapNames f) := by
  intro type component h
  cases type with
  | primitive p => cases h
  | named name => cases h
  | pointer target nullable isConst =>
    rw [mapNames] at h
    cases h
    exact ⟨target, .target, .inr rfl⟩
  | array element length =>
    rw [mapNames] at h
    cases h
    exact ⟨element, .element, .inr rfl⟩
  | zeroTerminated element =>
    rw [mapNames] at h
    cases h
    exact ⟨element, .zeroTerminated, .inr rfl⟩
  | slice element isConst =>
    rw [mapNames] at h
    cases h
    exact ⟨element, .slice, .inr rfl⟩
  | function params result nullable =>
    rw [mapNames, mapNamesOfAll_eq_map] at h
    generalize hresult : mapNamesOfResult f result = result' at h
    cases h with
    | param hparam =>
      obtain ⟨param, hmem, rfl⟩ := List.mem_map.mp hparam
      exact ⟨param, .param hmem, .inr rfl⟩
    | result =>
      cases result with
      | none => cases hresult
      | some result =>
        cases hresult
        exact ⟨result, .result, .inr rfl⟩

@[simp] theorem isArray_mapNames_iff {type : CType} : (type.mapNames f).IsArray ↔ type.IsArray := by
  cases type <;> simp [IsArray, mapNames]

end Names

end AbiBridge.CType
