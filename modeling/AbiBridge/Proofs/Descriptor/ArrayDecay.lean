import AbiBridge.Proofs.CType.WellFormed
import AbiBridge.Proofs.Descriptor.TypedefWalk

/-!
# Decay of arrays

An array parameter decays in two places: while its spelling is read, and afterwards where the
type is the name of a typedef. The first is the decay of what is read in value position. The
second follows the chain of typedefs, and gives what reading the last spelling of the chain in a
signature gives.
-/

namespace AbiBridge

namespace CType

theorem decay_eq_self {type : CType} (h : ¬ type.IsArray) : type.decay = type := by
  cases type with
  | array element length => exact absurd ⟨element, length, rfl⟩ h
  | _ => rfl

theorem not_isArray_of_ofPlainTokens? {tokens : List Token} {type : CType}
    (h : ofPlainTokens? tokens = some type) : ¬ type.IsArray := by
  rintro ⟨element, length, rfl⟩
  rcases of_ofPlainTokens? h with hword | ⟨_, _, _, -, heq⟩ | ⟨_, _, _, -, -, heq⟩
  · exact hword.ne_array element length rfl
  · cases heq
  · cases heq

/-- Only at the outermost level does the position matter. -/
theorem ofTokens?_signature (tokens : List Token) :
    ofTokens? tokens .signature = (ofTokens? tokens .value).map decay := by
  cases hshape : Declarator.ofTokens tokens with
  | function result parts =>
    rw [ofTokens?_of_function hshape, ofTokens?_of_function hshape]
    split
    · rw [Option.map_map]
      rfl
    · rw [Option.map_bind]
      refine congrArg _ (funext fun type => ?_)
      rw [Function.comp_apply, Option.map_map]
      rfl
  | pointerToArray isConst element words =>
    rw [ofTokens?_of_pointerToArray hshape, ofTokens?_of_pointerToArray hshape, Option.map_bind]
    refine congrArg _ (funext fun type => ?_)
    rw [Function.comp_apply, Option.map_map]
    rfl
  | array element words =>
    rw [ofTokens?_of_array hshape, ofTokens?_of_array hshape, Option.map_bind]
    refine congrArg _ (funext fun type => ?_)
    rw [Function.comp_apply, Option.map_map]
    rfl
  | other =>
    rw [ofTokens?_of_other hshape, ofTokens?_of_other hshape]
    cases hplain : ofPlainTokens? tokens with
    | none => rfl
    | some type => rw [Option.map_some, decay_eq_self (not_isArray_of_ofPlainTokens? hplain)]

theorem resolve_signature (raw : String) :
    resolve raw .signature = (resolve raw .value).map decay := by
  unfold resolve
  rw [ofTokens?_signature]
  cases ofTokens? (tokens raw) .value <;> rfl

end CType

namespace Index

variable {index : Index} {resolver : Resolver} {name raw : String} {type : CType}

/-- A chain of typedefs from a name to the spelling of the target of the last one. -/
inductive Chain (index : Index) (resolver : Resolver) : Nat → String → String → Prop
  | last {name raw : String} : index.target? name = some raw → Chain index resolver 1 name raw
  | step {name raw next last : String} {count : Nat} : index.target? name = some raw →
      resolver.resolve raw .value = .ok (.named next) → Chain index resolver count next last →
      Chain index resolver (count + 1) name last

theorem Chain.walk {count : Nat} (h : Chain index resolver count name raw)
    (hraw : resolver.resolve raw .value = .ok type) :
    Walk index resolver count (.named name) type := by
  induction h with
  | last htarget => exact .link htarget hraw .here
  | step htarget hnext _ ih => exact .link htarget hnext (ih hraw)

/-- A walk from a name to a type that is none follows a chain. -/
theorem Walk.exists_chain {links : Nat} (h : Walk index resolver links (.named name) type)
    (htype : ∀ other, type ≠ .named other) :
    ∃ raw, Chain index resolver links name raw ∧ resolver.resolve raw .value = .ok type := by
  generalize hstart : CType.named name = start at h
  induction h generalizing name with
  | here => exact absurd hstart.symm (htype name)
  | link htarget hraw hrest ih =>
    cases hstart
    cases hrest with
    | here => exact ⟨_, .last htarget, hraw⟩
    | link =>
      obtain ⟨last, hchain, hlast⟩ := ih htype rfl
      exact ⟨last, .step htarget hraw hchain, hlast⟩

/-- A type that is no name is reached from a name exactly at the end of a chain with fewer
typedefs than there are looks. -/
theorem underlyingWithin?_named_eq_some_iff {looks : Nat} :
    index.underlyingWithin? resolver looks (.named name) = some type
      ↔ ∃ count raw, count < looks ∧ Chain index resolver count name raw
          ∧ resolver.resolve raw .value = .ok type ∧ ∀ other, type ≠ .named other := by
  rw [underlyingWithin?_eq_some_iff]
  constructor
  · rintro ⟨htype, links, hlinks, hwalk⟩
    obtain ⟨raw, hchain, hraw⟩ := hwalk.exists_chain htype
    exact ⟨links, raw, hlinks, hchain, hraw, htype⟩
  · rintro ⟨count, raw, hcount, hchain, hraw, htype⟩
    exact ⟨htype, count, hcount, hchain.walk hraw⟩

/-- The name is that of a typedef that stands for an array. -/
def IsArrayTypedef (index : Index) (resolver : Resolver) (name : String) : Prop :=
  index.kind? name = some .typedef
    ∧ ∃ element length, index.underlying? resolver (.named name) = some (.array element length)

theorem decayTypedef_of_isArrayTypedef (h : IsArrayTypedef index resolver name) :
    ∃ element length, index.underlying? resolver (.named name) = some (.array element length)
      ∧ index.decayTypedef resolver (.named name) = .pointerTo element false := by
  obtain ⟨hkind, element, length, hunderlying⟩ := h
  exact ⟨element, length, hunderlying, by rw [decayTypedef, if_pos hkind, hunderlying]⟩

theorem decayTypedef_eq_self
    (h : ∀ name, type = .named name → ¬ IsArrayTypedef index resolver name) :
    index.decayTypedef resolver type = type := by
  cases type with
  | named name =>
    rw [decayTypedef]
    split
    · next hkind =>
      split
      · next element length hunderlying =>
        exact absurd ⟨hkind, element, length, hunderlying⟩ (h name rfl)
      · rfl
    · rfl
  | _ => rfl

/-- Reading in a signature is decay of what is read in value position, and a typedef decays to
what reading the last spelling of its chain in a signature gives if that spelling is an array, and
stays as it is if not. -/
theorem decay_eq_signature :
    (∀ raw, CType.resolve raw .signature = (CType.resolve raw .value).map CType.decay)
      ∧ ∀ (index : Index) (resolver : Resolver) (name raw : String) (count : Nat) (type : CType),
        index.kind? name = some .typedef → Chain index resolver count name raw → count ≤ 15 →
        resolver.resolve raw .value = .ok type → (∀ other, type ≠ .named other) →
        (type.IsArray →
            resolver.resolve raw .signature = .ok (index.decayTypedef resolver (.named name)))
          ∧ (¬ type.IsArray → index.decayTypedef resolver (.named name) = .named name) := by
  refine ⟨CType.resolve_signature, ?_⟩
  intro index resolver name raw count type hkind hchain hcount hraw hnamed
  have hunderlying : index.underlying? resolver (.named name) = some type :=
    underlyingWithin?_named_eq_some_iff.mpr
      ⟨count, raw, Nat.lt_succ_of_le hcount, hchain, hraw, hnamed⟩
  constructor
  · rintro ⟨element, length, rfl⟩
    obtain ⟨element', length', heq, hdecay⟩ :=
      decayTypedef_of_isArrayTypedef ⟨hkind, element, length, hunderlying⟩
    rw [hunderlying] at heq
    cases heq
    rw [hdecay, Resolver.resolve, CType.resolve_signature, ← Resolver.resolve, hraw]
    rfl
  · intro harray
    refine decayTypedef_eq_self fun name' hname => ?_
    rintro ⟨-, element, length, heq⟩
    rw [← hname, hunderlying] at heq
    exact harray ⟨element, length, Option.some.inj heq⟩

/-- The rows of a matrix, behind two typedefs and a spelling that is replaced. -/
def rowsIndex : Index :=
  .ofApi { typedefs := [⟨"Rows_t", "Matrix_t"⟩, ⟨"Matrix_t", "grid"⟩] } .empty []

def gridResolver : Resolver :=
  .ofOverrides (Dictionary.empty.insert "grid" "int[2][3]")

theorem resolve_grid (position : Position) : gridResolver.resolve "grid" position
    = .ok (CType.arrayAt position (.array (.array (.primitive .i32) 3) 2)) := by
  have hreplace : gridResolver.replace "grid" = "int[2][3]" := by decide
  rw [Resolver.resolve, hreplace]
  exact CType.resolve_of_array rfl rfl rfl rfl rfl

theorem chain_rows : Chain rowsIndex gridResolver 2 "Rows_t" "grid" := by
  have hmatrix : gridResolver.resolve "Matrix_t" .value = .ok (.named "Matrix_t") :=
    CType.resolve_of_other rfl rfl
  exact .step (by decide) hmatrix (.last (by decide))

theorem decay_eq_signature_rows :
    rowsIndex.decayTypedef gridResolver (.named "Rows_t")
      = .pointerTo (.array (.primitive .i32) 3) false := by
  have hrows := decay_eq_signature.2 rowsIndex gridResolver "Rows_t" "grid" 2 _ (by decide)
    chain_rows (by decide) (resolve_grid .value) (by simp [CType.arrayAt])
  have hsignature := hrows.1 ⟨_, _, rfl⟩
  rw [resolve_grid] at hsignature
  exact (Except.ok.inj hsignature).symm

end Index

end AbiBridge
