import AbiBridge.CType.Basic

/-!
# What a type mentions

A type mentions a name at any depth: behind pointers, in arrays, and in the parameters and
the result of a function. The list of its names holds exactly what it mentions.
-/

namespace AbiBridge.CType

inductive Mentions : CType → String → Prop where
  | named (name : String) : Mentions (.named name) name
  | pointer {target name nullable isConst} (h : Mentions target name) :
      Mentions (.pointer target nullable isConst) name
  | array {element name length} (h : Mentions element name) :
      Mentions (.array element length) name
  | zeroTerminated {element name} (h : Mentions element name) :
      Mentions (.zeroTerminated element) name
  | slice {element name isConst} (h : Mentions element name) :
      Mentions (.slice element isConst) name
  | param {params param result name nullable} (hparam : param ∈ params)
      (h : Mentions param name) : Mentions (.function params result nullable) name
  | result {params result name nullable} (h : Mentions result name) :
      Mentions (.function params (some result) nullable) name

theorem names_subset_namesOfAll {types : List CType} {type : CType} (h : type ∈ types) :
    type.names ⊆ namesOfAll types := by
  induction types with
  | nil => cases h
  | cons first types ih =>
    rw [namesOfAll]
    rcases List.mem_cons.mp h with rfl | h
    · exact List.subset_append_left _ _
    · exact List.Subset.trans (ih h) (List.subset_append_right _ _)

theorem Mentions.mem_names {type : CType} {name : String} (h : type.Mentions name) :
    name ∈ type.names := by
  induction h with
  | named name => exact List.mem_singleton_self name
  | pointer _ ih | array _ ih | zeroTerminated _ ih | slice _ ih => exact ih
  | param hparam _ ih => exact List.mem_append_left _ (names_subset_namesOfAll hparam ih)
  | result _ ih => exact List.mem_append_right _ ih

mutual

theorem mentions_of_mem_names {name : String} (type : CType) (h : name ∈ type.names) :
    type.Mentions name := by
  cases type with
  | primitive p => cases h
  | named other =>
    rw [List.mem_singleton.mp h]
    exact .named other
  | pointer target nullable isConst => exact .pointer (mentions_of_mem_names target h)
  | array element length => exact .array (mentions_of_mem_names element h)
  | zeroTerminated element => exact .zeroTerminated (mentions_of_mem_names element h)
  | slice element isConst => exact .slice (mentions_of_mem_names element h)
  | function params result nullable =>
    rcases List.mem_append.mp h with h | h
    · obtain ⟨param, hparam, hname⟩ := exists_mentions_of_mem_namesOfAll params h
      exact .param hparam hname
    · obtain ⟨type, rfl, hname⟩ := exists_mentions_of_mem_namesOfResult result h
      exact .result hname

theorem exists_mentions_of_mem_namesOfAll {name : String} (types : List CType)
    (h : name ∈ namesOfAll types) : ∃ type ∈ types, type.Mentions name := by
  cases types with
  | nil => cases h
  | cons type types =>
    rcases List.mem_append.mp h with h | h
    · exact ⟨type, List.mem_cons_self, mentions_of_mem_names type h⟩
    · obtain ⟨other, hother, hname⟩ := exists_mentions_of_mem_namesOfAll types h
      exact ⟨other, List.mem_cons_of_mem _ hother, hname⟩

theorem exists_mentions_of_mem_namesOfResult {name : String} (result : Option CType)
    (h : name ∈ namesOfResult result) : ∃ type, result = some type ∧ type.Mentions name := by
  cases result with
  | none => cases h
  | some type => exact ⟨type, rfl, mentions_of_mem_names type h⟩

end

theorem mem_names_iff {type : CType} {name : String} :
    name ∈ type.names ↔ type.Mentions name :=
  ⟨mentions_of_mem_names type, Mentions.mem_names⟩

end AbiBridge.CType
