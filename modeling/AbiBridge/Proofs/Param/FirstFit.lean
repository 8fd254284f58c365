import AbiBridge.Proofs.Param.Pairing

/-!
# The choice of counts

A buffer gets the first count that fits it and that no buffer in front claims. Without one it
stays a buffer only if it is a zero-terminated run of constant bytes.
-/

namespace AbiBridge

variable {params : List RawParam} {param : RawParam} {label : BufferLabel} {i j k : Nat} {z : Bool}

theorem role_offered_uncounted (hbuffer : param.type.isBuffer = true)
    (hlabel : label.Splits param.name) :
    (label.marker = "psz" ∧ param.type = .pointer (.primitive .u8) true true →
        (param.withRole (label.role none)).offered.role = .head none true)
      ∧ (¬ (label.marker = "psz" ∧ param.type = .pointer (.primitive .u8) true true) →
        (param.withRole (label.role none)).offered.role = .plain) := by
  have hterminated : label.isZeroTerminated = true ↔ label.marker = "psz" := by
    rw [hlabel.isZeroTerminated_eq, decide_eq_true_eq]
  rw [← hterminated, BufferLabel.role, ← isSome_bufferType?_uncounted_iff hbuffer]
  constructor
  · rintro ⟨hz, hsome⟩
    obtain ⟨type, htype⟩ := Option.isSome_iff_exists.mp hsome
    rw [if_pos hz, Param.offered_of_some rfl htype]
    rfl
  · intro hnot
    split
    · next hz =>
      have hnone := Option.not_isSome_iff_eq_none.mp fun hsome => hnot ⟨hz, hsome⟩
      rw [Param.offered_of_none rfl hnone]
      rfl
    · exact congrArg Param.role (Param.offered_of_plain rfl)

theorem freeCount_finalRoles_iff {logical : String} {state : Roles}
    (hstate : state.roles = rolesOf params) :
    FreeCount params (finalRoles params) i param logical j
      ↔ FreeCount params state.roles i param logical j := by
  apply FreeCount.congr
  simp only [ClaimedBefore, hstate, finalRoles_head_iff]

section Served

variable (hapart : BuffersAreNoCounts params)

include hapart

/-- A buffer has the first free count, or the role that it has without one. -/
theorem finalRoles_served (hparam : params[i]? = some param) (hlabel : param.label? = some label) :
    ∃ c, (finalRoles params)[i]? = some (param.withRole (label.role c)).offered.role
      ∧ ∀ j, c = some j
        ↔ IsLeast {j | FreeCount params (finalRoles params) i param label.logical j} j := by
  obtain ⟨state, hstate, hserved⟩ := exists_servedTo_rolesOf hapart
  obtain ⟨c, hrole, hleast⟩ :=
    hserved.served i (List.getElem?_eq_some_iff.mp hparam).1 param label hparam hlabel
  refine ⟨c, getElem?_finalRoles_eq_some_iff.mpr ⟨param, _, hparam, hstate ▸ hrole, rfl⟩, ?_⟩
  simpa only [freeCount_finalRoles_iff hstate] using hleast

theorem finalRoles_of_isLeast (hparam : params[i]? = some param)
    (hlabel : param.label? = some label)
    (hleast : IsLeast {j | FreeCount params (finalRoles params) i param label.logical j} j) :
    (finalRoles params)[i]? = some (.head (some j) label.isZeroTerminated) := by
  obtain ⟨c, hrole, hc⟩ := finalRoles_served hapart hparam hlabel
  obtain rfl := (hc j).mpr hleast
  rw [hrole, Option.some.injEq]
  exact Param.role_offered_counted (RawParam.label?_eq_some_iff.mp hlabel).1 rfl

theorem finalRoles_of_forall_not (hparam : params[i]? = some param)
    (hlabel : param.label? = some label)
    (hnone : ∀ j, ¬ FreeCount params (finalRoles params) i param label.logical j) :
    (finalRoles params)[i]? = some (param.withRole (label.role none)).offered.role := by
  obtain ⟨c, hrole, hc⟩ := finalRoles_served hapart hparam hlabel
  cases c with
  | none => exact hrole
  | some j => exact absurd ((hc j).mp rfl).1 (hnone j)

/-- Only buffers become heads. -/
theorem exists_label_of_finalRoles {c : Option Nat}
    (hrole : (finalRoles params)[i]? = some (.head c z)) :
    ∃ param label, params[i]? = some param ∧ param.label? = some label := by
  obtain ⟨state, hstate, hserved⟩ := exists_servedTo_rolesOf hapart
  refine (hserved.head_label i c z ?_).2
  rw [hstate]
  exact getElem?_rolesOf_of_finalRoles hrole nofun

/-- What a head refers to is the first free count of a buffer. -/
theorem isLeast_of_finalRoles (hparam : params[i]? = some param)
    (hlabel : param.label? = some label)
    (hrole : (finalRoles params)[i]? = some (.head (some j) z)) :
    IsLeast {j | FreeCount params (finalRoles params) i param label.logical j} j := by
  obtain ⟨c, hserved, hc⟩ := finalRoles_served hapart hparam hlabel
  apply (hc j).mp
  rw [hserved, Option.some.injEq] at hrole
  rcases (param.withRole (label.role c)).role_offered_eq_or with hkept | hdropped
  · exact (BufferLabel.role_eq_head_some_iff.mp (hkept.symm.trans hrole)).1
  · exact absurd (hdropped.symm.trans hrole) nofun

end Served

/-- From left to right, every buffer gets the first count that is left for it. -/
theorem ofRaw_firstFit
    (h : ∀ param ∈ params, param.type.isBuffer = true → param.countType = none)
    (hparam : params[i]? = some param) :
    (∀ label : BufferLabel, param.type.isBuffer = true → label.Splits param.name →
        (∀ j, IsLeast {j | FreeCount params (finalRoles params) i param label.logical j} j →
          (finalRoles params)[i]? = some (.head (some j) (decide (label.marker = "psz"))))
        ∧ ((∀ j, ¬ FreeCount params (finalRoles params) i param label.logical j) →
          (label.marker = "psz" ∧ param.type = .pointer (.primitive .u8) true true →
            (finalRoles params)[i]? = some (.head none true))
          ∧ (¬ (label.marker = "psz" ∧ param.type = .pointer (.primitive .u8) true true) →
            (finalRoles params)[i]? = some .plain)))
      ∧ ∀ (c : Option Nat) (z : Bool), (finalRoles params)[i]? = some (.head c z) →
        ∃ (target : CType) (isConst : Bool) (label : BufferLabel),
          param.type = .pointer target true isConst ∧ target.isPointerLike = false
          ∧ label.Splits param.name := by
  have hapart := buffersAreNoCounts_of_countType h
  constructor
  · intro label hbuffer hsplits
    have hlabel := RawParam.label?_eq_some_iff.mpr ⟨hbuffer, hsplits⟩
    constructor
    · intro j hleast
      rw [← hsplits.isZeroTerminated_eq]
      exact finalRoles_of_isLeast hapart hparam hlabel hleast
    · intro hnone
      rw [finalRoles_of_forall_not hapart hparam hlabel hnone, Option.some.injEq, Option.some.injEq]
      exact role_offered_uncounted hbuffer hsplits
  · intro c z hrole
    obtain ⟨other, label, hother, hlabel⟩ := exists_label_of_finalRoles hapart hrole
    obtain rfl : param = other := Option.some.inj (hparam.symm.trans hother)
    obtain ⟨hbuffer, hsplits⟩ := RawParam.label?_eq_some_iff.mp hlabel
    obtain ⟨target, isConst, htype, htarget⟩ := CType.isBuffer_iff.mp hbuffer
    exact ⟨target, isConst, label, htype, htarget, hsplits⟩

/-- Two buffers with one logical name, and a count for each. -/
def rivalParams : List RawParam :=
  [⟨"pvData", .pointerTo (.primitive .u8) false, none, none⟩,
   ⟨"pData", .pointerTo (.primitive .u8) true, none, none⟩,
   ⟨"cbData", .primitive .u32, none, some .u32⟩,
   ⟨"nDataMax", .primitive .i32, none, some .i32⟩]

theorem ofRaw_firstFit_rivals :
    (∀ param ∈ rivalParams, param.type.isBuffer = true → param.countType = none)
      ∧ rivalParams[1]? = some ⟨"pData", .pointerTo (.primitive .u8) true, none, none⟩
      ∧ IsLeast {j | FreeCount rivalParams (finalRoles rivalParams) 1
          ⟨"pData", .pointerTo (.primitive .u8) true, none, none⟩ "Data" j} 3
      ∧ (finalRoles rivalParams)[1]? = some (.head (some 3) (decide ("p" = "psz"))) := by
  have h : ∀ param ∈ rivalParams, param.type.isBuffer = true → param.countType = none := by decide
  have hsplits : (⟨"p", "Data"⟩ : BufferLabel).Splits "pData" :=
    BufferLabel.ofName?_eq_some_iff.mp (by decide)
  have hfirst : (finalRoles rivalParams)[0]? = some (.head (some 2) false) := by decide
  have hleast : IsLeast {j | FreeCount rivalParams (finalRoles rivalParams) 1
      ⟨"pData", .pointerTo (.primitive .u8) true, none, none⟩ "Data" j} 3 := by
    constructor
    · refine ⟨by decide, ?_, _, rfl, rfl, .inr (by decide)⟩
      rintro ⟨earlier, hearlier, z, hz⟩
      obtain rfl : earlier = 0 := by omega
      cases hfirst.symm.trans hz
    · rintro j ⟨hne, hfree, candidate, hcandidate, hcount, -⟩
      match j, hne, hfree, hcandidate with
      | 0, _, _, hcandidate =>
        cases hcandidate
        cases hcount
      | 2, _, hfree, _ =>
        exact absurd ⟨0, by decide, false, hfirst⟩ hfree
      | j + 3, _, _, _ => exact Nat.le_add_left 3 j
  exact ⟨h, rfl, hleast, ((ofRaw_firstFit h rfl).1 ⟨"p", "Data"⟩ rfl hsplits).1 3 hleast⟩

end AbiBridge
