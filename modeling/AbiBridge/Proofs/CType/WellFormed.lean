import AbiBridge.Proofs.CType.Part
import AbiBridge.Proofs.CType.PlatformWidth

/-!
# Well-formed types

What a spelling denotes is well formed in every part: only nullable functions, no array among
their parameters and results, references to nothing but words, and names that no scalar is
spelled as.
-/

namespace AbiBridge.CType

/-- The type at the top keeps the rules for types that stand in an interface. -/
def IsWellFormed : CType → Prop
  | .primitive _ | .array .. => True
  | .named name =>
    isName name = true ∧ name ≠ "void" ∧ Primitive.ofSpelling? name = none
      ∧ name ∉ platformWidthSpellings
  | .pointer target nullable _ =>
    nullable = true ∨ (∃ p, target = .primitive p) ∨ ∃ name, target = .named name
  | .function params result nullable =>
    nullable = true ∧ (∀ param ∈ params, ¬ param.IsArray) ∧ ∀ type ∈ result, ¬ type.IsArray
  | .zeroTerminated _ | .slice .. => False

theorem IsArray.isWellFormed {type : CType} (h : type.IsArray) : type.IsWellFormed := by
  obtain ⟨element, length, rfl⟩ := h
  trivial

theorem IsWord.primitive_or_named {type : CType} (h : IsWord type) :
    (∃ p, type = .primitive p) ∨ ∃ name, type = .named name := by
  cases h with
  | atom h =>
    cases h with
    | primitive p => exact .inl ⟨p, rfl⟩
    | named => exact .inr ⟨_, rfl⟩
  | const => exact .inr ⟨"const", rfl⟩

theorem IsWord.isWellFormed {type : CType} (h : IsWord type) : type.IsWellFormed := by
  cases h with
  | atom h =>
    cases h with
    | primitive p => trivial
    | named hplain =>
      obtain ⟨hname, hvoid, -, hprimitive, hwidth⟩ := hplain
      exact ⟨hname, hvoid, hprimitive, hwidth⟩
  | const => exact ⟨by decide, by decide, by decide, by decide⟩

/-- A word has no part but itself. -/
theorem IsWord.eq_of_isPart {part type : CType} (h : IsWord type) (hpart : IsPart part type) :
    part = type := by
  rcases h.primitive_or_named with ⟨p, rfl⟩ | ⟨name, rfl⟩
  · cases hpart with
    | whole => rfl
    | inside hcomponent => cases hcomponent
  · cases hpart with
    | whole => rfl
    | inside hcomponent => cases hcomponent

theorem Denoted.not_isArray {type : CType} (h : Denoted type) : ¬ type.IsArray := by
  rintro ⟨element, length, heq⟩
  exact h.ne_array element length heq

/-- Every part of a type that a spelling denotes is well formed. -/
theorem Denoted.isWellFormed_of_isPart {part type : CType} (h : Denoted type)
    (hpart : IsPart part type) : part.IsWellFormed := by
  induction h with
  | word h =>
    rw [h.eq_of_isPart hpart]
    exact h.isWellFormed
  | @pointer target nullable isConst htarget hpoints hlevels ih =>
    cases hpart with
    | inside hcomponent hpart =>
      cases hcomponent
      exact ih hpart
    | whole =>
      by_cases hword : IsWord target
      · exact .inr hword.primitive_or_named
      · exact .inl (hlevels hword).1
  | @function params result hparams hresult hfree ihparams ihresult =>
    cases hpart with
    | inside hcomponent hpart =>
      cases hcomponent with
      | param hparam => exact ihparams _ hparam hpart
      | result => exact ihresult _ rfl hpart
    | whole =>
      refine ⟨rfl, fun param hparam => ?_, fun type htype => ?_⟩
      · exact (hparams param hparam).not_isArray
      · exact (hresult type htype).not_isArray
  | @pointerToArray base lengths isConst h hlengths ih =>
    cases hpart with
    | whole => exact .inl rfl
    | inside hcomponent hpart =>
      cases hcomponent
      rcases isArray_or_isPart_of_nest hpart with harray | hpart
      · exact harray.isWellFormed
      · exact ih hpart

theorem DenotedAt.isWellFormed_of_isPart {part type : CType} {position : Position}
    (h : DenotedAt position type) (hpart : IsPart part type) : part.IsWellFormed := by
  cases h with
  | plain h => exact h.isWellFormed_of_isPart hpart
  | array h _ _ =>
    rcases isArray_or_isPart_of_nest hpart with harray | hpart
    · exact harray.isWellFormed
    · exact h.isWellFormed_of_isPart hpart

theorem denotedAt_of_resolve {raw : String} {position : Position} {type : CType}
    (h : resolve raw position = .ok type) : DenotedAt position type :=
  denotedAt_of_ofTokens? (resolve_eq_ok_iff.mp h)

/-- Every part of a type that is read from a spelling is well formed, what is read in a signature
is no array, and no value type in the spelling has a width that depends on the platform. -/
theorem isWellFormed_of_resolve {raw : String} {position : Position} {type : CType}
    (h : resolve raw position = .ok type) :
    (∀ part, IsPart part type → part.IsWellFormed)
      ∧ (position = .signature → ¬ type.IsArray) ∧ AvoidsPlatformWidth (tokens raw) := by
  have hdenoted := denotedAt_of_resolve h
  have havoids := avoidsPlatformWidth_of_ofTokens? (resolve_eq_ok_iff.mp h)
  refine ⟨fun part hpart => hdenoted.isWellFormed_of_isPart hpart, ?_, havoids⟩
  rintro rfl
  exact hdenoted.denoted.not_isArray

theorem resolve_visitor : resolve "void (*)(const Item_t &, unsigned int[2][3])" .signature
    = .ok (function [referenceTo (named "Item_t") true,
        pointerTo (array (primitive .u32) 3) false] none true) := by
  have hvisitor : Declarator.ofTokens (tokens "void (*)(const Item_t &, unsigned int[2][3])")
      = .function [.word "void"]
        [[.word "const", .word "Item_t", .ampersand],
          [.word "unsigned", .word "int"] ++ bracketed ["2", "3"]] := rfl
  have hitem : Declarator.ofTokens [.word "const", .word "Item_t", .ampersand] = .other := rfl
  have hrows : Declarator.ofTokens ([.word "unsigned", .word "int"] ++ bracketed ["2", "3"])
      = .array [.word "unsigned", .word "int"] ["2", "3"] := rfl
  have hcell : Declarator.ofTokens [.word "unsigned", .word "int"] = .other := rfl
  rw [resolve_eq_ok_iff, ofTokens?_of_function hvisitor, if_pos rfl, List.mapM_cons,
    List.mapM_cons, ofTokens?_of_other hitem, ofTokens?_of_array hrows, ofTokens?_of_other hcell]
  rfl

theorem isWellFormed_of_resolve_visitor :
    ∃ type, resolve "void (*)(const Item_t &, unsigned int[2][3])" .signature = .ok type
      ∧ (referenceTo (named "Item_t") true).IsWellFormed ∧ type.IsWellFormed ∧ ¬ type.IsArray := by
  obtain ⟨hparts, harray, -⟩ := isWellFormed_of_resolve resolve_visitor
  exact ⟨_, resolve_visitor, hparts _ (.inside (.param List.mem_cons_self) .whole), hparts _ .whole,
    harray rfl⟩

end AbiBridge.CType
