import AbiBridge.Proofs.Param.Offered

/-!
# Pairs of buffers and counts

In the end buffers and counts refer to each other, and a wrapper offers a type for every
parameter but the counts.
-/

namespace AbiBridge

variable {params : List RawParam} {role : Role} {i j : Nat} {z : Bool}

def finalRoles (params : List RawParam) : List Role :=
  (Param.ofRaw params).map (·.role)

theorem getElem?_finalRoles_eq_some_iff :
    (finalRoles params)[i]? = some role ↔ ∃ param given, params[i]? = some param
      ∧ (rolesOf params)[i]? = some given ∧ (param.withRole given).offered.role = role := by
  rw [finalRoles, List.getElem?_map, Option.map_eq_some_iff, ofRaw_eq]
  constructor
  · rintro ⟨made, hmade, rfl⟩
    obtain ⟨param, given, hparam, hgiven, rfl⟩ := List.getElem?_zipWith_eq_some.mp hmade
    exact ⟨param, given, hparam, hgiven, rfl⟩
  · rintro ⟨param, given, hparam, hgiven, rfl⟩
    exact ⟨_, List.getElem?_zipWith_eq_some.mpr ⟨param, given, hparam, hgiven, rfl⟩, rfl⟩

theorem getElem?_rolesOf_of_finalRoles (h : (finalRoles params)[i]? = some role)
    (hplain : role ≠ .plain) : (rolesOf params)[i]? = some role := by
  obtain ⟨param, given, -, hgiven, hrole⟩ := getElem?_finalRoles_eq_some_iff.mp h
  rcases (param.withRole given).role_offered_eq_or with hkept | hdropped
  · obtain rfl : role = given := hrole.symm.trans hkept
    exact hgiven
  · exact absurd (hrole.symm.trans hdropped) hplain

theorem finalRoles_head_iff :
    (finalRoles params)[i]? = some (.head (some j) z)
      ↔ (rolesOf params)[i]? = some (.head (some j) z) := by
  constructor
  · intro h
    exact getElem?_rolesOf_of_finalRoles h nofun
  · intro h
    obtain ⟨param, hparam, hbuffer⟩ := headsAreBuffers_rolesOf params i _ z h
    exact getElem?_finalRoles_eq_some_iff.mpr
      ⟨param, _, hparam, h, Param.role_offered_counted hbuffer rfl⟩

theorem finalRoles_ofCount_iff (hapart : BuffersAreNoCounts params) :
    (finalRoles params)[j]? = some (.ofCount i z)
      ↔ (finalRoles params)[i]? = some (.head (some j) z) := by
  obtain ⟨state, hstate, hserved⟩ := exists_servedTo_rolesOf hapart
  rw [finalRoles_head_iff, ← hstate, ← hserved.count_iff, hstate]
  constructor
  · intro h
    exact getElem?_rolesOf_of_finalRoles h Role.ofCount_ne_plain
  · intro h
    have hj : j < params.length := by
      rw [← length_rolesOf]
      exact (List.getElem?_eq_some_iff.mp h).1
    refine getElem?_finalRoles_eq_some_iff.mpr ⟨params[j], _, List.getElem?_eq_getElem hj, h, ?_⟩
    rw [Param.offered_of_ofCount rfl]
    rfl

theorem buffersAreNoCounts_of_countType
    (h : ∀ param ∈ params, param.type.isBuffer = true → param.countType = none) :
    BuffersAreNoCounts params := by
  intro buffer hbuffer hlabel param _ label _
  obtain ⟨name, hname⟩ := Option.isSome_iff_exists.mp hlabel
  rw [isCountOf, h buffer hbuffer (RawParam.label?_eq_some_iff.mp hname).1]
  rfl

structure Pairing (roles : List Role) : Prop where
  count_iff : ∀ i j : Nat, roles[j]? = some (.count i) ↔ roles[i]? = some (.head (some j) false)
  elided_iff : ∀ i j : Nat, roles[j]? = some (.elided i) ↔ roles[i]? = some (.head (some j) true)

theorem pairing_finalRoles (hapart : BuffersAreNoCounts params) : Pairing (finalRoles params) :=
  ⟨fun _ _ => finalRoles_ofCount_iff (z := false) hapart,
    fun _ _ => finalRoles_ofCount_iff (z := true) hapart⟩

namespace Pairing

variable {roles : List Role}

theorem ofCount_iff (h : Pairing roles) :
    roles[j]? = some (.ofCount i z) ↔ roles[i]? = some (.head (some j) z) := by
  cases z with
  | false => exact h.count_iff i j
  | true => exact h.elided_iff i j

theorem ne (h : Pairing roles) (hi : roles[i]? = some (.head (some j) z)) : i ≠ j := by
  rintro rfl
  have hcount := h.ofCount_iff.mpr hi
  rw [hi, Option.some.injEq] at hcount
  exact Role.ofCount_ne_head hcount.symm

theorem existsUnique_head (h : Pairing roles) (hj : roles[j]? = some role)
    (hcomputed : role.isComputed = true) :
    ∃! i : Nat, ∃ z : Bool, roles[i]? = some (.head (some j) z) := by
  obtain ⟨i, z, rfl⟩ : ∃ i z, role = .ofCount i z := by
    cases role with
    | count i => exact ⟨i, false, rfl⟩
    | elided i => exact ⟨i, true, rfl⟩
    | _ => cases hcomputed
  refine ⟨i, ⟨z, h.ofCount_iff.mp hj⟩, ?_⟩
  rintro i' ⟨z', hi'⟩
  have hcount := h.ofCount_iff.mpr hi'
  rw [hj, Option.some.injEq, Role.ofCount_inj] at hcount
  exact hcount.1.symm

end Pairing

/-- If no buffer has the type of a count, buffers and counts refer to each other, each count to
one buffer, and a wrapper offers just the parameters that are no counts. -/
theorem ofRaw_pairs {params : List RawParam}
    (h : ∀ param ∈ params, param.type.isBuffer = true → param.countType = none) :
    (Param.ofRaw params).map (fun param => (param.name, param.type, param.countType))
        = params.map (fun param => (param.name, param.type, param.countType))
      ∧ Pairing (finalRoles params)
      ∧ (∀ (i j : Nat) (z : Bool), (finalRoles params)[i]? = some (.head (some j) z) → i ≠ j)
      ∧ (∀ (j : Nat) (role : Role), (finalRoles params)[j]? = some role →
        role.isComputed = true →
          ∃! i : Nat, ∃ z : Bool, (finalRoles params)[i]? = some (.head (some j) z))
      ∧ ∀ param ∈ Param.ofRaw params, param.IsOffered := by
  have hpairing := pairing_finalRoles (buffersAreNoCounts_of_countType h)
  refine ⟨map_ofRaw _ _ _ fun _ _ _ => rfl, hpairing, fun _ _ _ => hpairing.ne,
    fun _ _ => hpairing.existsUnique_head, ?_⟩
  intro param hparam
  rw [ofRaw_eq] at hparam
  obtain ⟨i, hi⟩ := List.mem_iff_getElem?.mp hparam
  obtain ⟨raw, role, -, -, rfl⟩ := List.getElem?_zipWith_eq_some.mp hi
  exact Param.isOffered_offered _

/-- Two buffers with counts, and one that no wrapper can offer. -/
def mixedParams : List RawParam :=
  [⟨"cbData", .primitive .u32, none, some .u32⟩,
   ⟨"pvData", .pointerTo (.primitive .u8) false, none, none⟩,
   ⟨"pszName", .pointerTo (.primitive .u8) true, none, none⟩,
   ⟨"cchNameMax", .primitive .i32, none, some .i32⟩,
   ⟨"pszOut", .pointerTo (.primitive .u8) false, none, none⟩]

theorem ofRaw_pairs_mixed :
    (∀ param ∈ mixedParams, param.type.isBuffer = true → param.countType = none)
      ∧ finalRoles mixedParams
        = [.count 1, .head (some 0) false, .head (some 3) true, .elided 2, .plain]
      ∧ Pairing (finalRoles mixedParams)
      ∧ ∀ param ∈ Param.ofRaw mixedParams, param.IsOffered := by
  have h : ∀ param ∈ mixedParams, param.type.isBuffer = true → param.countType = none := by decide
  obtain ⟨-, hpairing, -, -, hoffered⟩ := ofRaw_pairs h
  exact ⟨h, by decide, hpairing, hoffered⟩

end AbiBridge
