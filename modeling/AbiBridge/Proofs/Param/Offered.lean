import AbiBridge.Proofs.Param.Serving

/-!
# What a wrapper offers

Heads are buffers, and a buffer with a count always has a type in a wrapper. So finding the
types of a wrapper takes no count away from its head, and every parameter can be looked at by
itself.
-/

namespace AbiBridge

theorem CType.isBuffer_iff {type : CType} :
    type.isBuffer = true
      ↔ ∃ target isConst, type = .pointer target true isConst ∧ target.isPointerLike = false := by
  constructor
  · intro h
    cases type with
    | pointer target nullable isConst =>
      rw [CType.isBuffer, Bool.and_eq_true, Bool.not_eq_true'] at h
      exact ⟨target, isConst, by rw [h.1], h.2⟩
    | _ => cases h
  · rintro ⟨target, isConst, rfl, htarget⟩
    rw [CType.isBuffer, htarget]
    rfl

theorem isSome_bufferType?_counted {type : CType} (h : type.isBuffer = true) (z : Bool) :
    (bufferType? type true z).isSome = true := by
  obtain ⟨target, isConst, rfl, -⟩ := CType.isBuffer_iff.mp h
  rw [bufferType?]
  split
  · rfl
  · rw [if_neg (by simp)]
    rfl

theorem bufferType?_eq_some {type offered : CType} {counted z : Bool}
    (h : bufferType? type counted z = some offered) :
    ∃ target nullable isConst, type = .pointer target nullable isConst
      ∧ (offered = .slice target isConst ∨ offered = .zeroTerminated target) := by
  unfold bufferType? at h
  split at h
  · next target nullable isConst =>
    refine ⟨target, nullable, isConst, rfl, ?_⟩
    split at h
    · cases h
      exact .inr rfl
    · split at h
      · cases h
      · cases h
        exact .inl rfl
  · cases h

/-- Without a count only a run of constant bytes has a type in a wrapper. -/
theorem isSome_bufferType?_uncounted_iff {type : CType} (h : type.isBuffer = true) :
    (bufferType? type false true).isSome = true ↔ type = .pointer (.primitive .u8) true true := by
  obtain ⟨target, isConst, rfl, -⟩ := CType.isBuffer_iff.mp h
  rw [bufferType?]
  split
  · next hbytes =>
    rw [CType.primitive?_eq_some_iff] at hbytes
    simp [hbytes.2]
  · next hbytes =>
    rw [CType.primitive?_eq_some_iff] at hbytes
    simpa [and_comm] using hbytes

variable {params : List RawParam} {state : Roles} {n : Nat}

def HeadsAreBuffers (params : List RawParam) (roles : List Role) : Prop :=
  ∀ (i : Nat) (c : Option Nat) (z : Bool), roles[i]? = some (.head c z) →
    ∃ param, params[i]? = some param ∧ param.type.isBuffer = true

theorem HeadsAreBuffers.set {roles : List Role} {i : Nat} {role : Role}
    (h : HeadsAreBuffers params roles)
    (hrole : ∀ c z, role = .head c z →
      ∃ param, params[i]? = some param ∧ param.type.isBuffer = true) :
    HeadsAreBuffers params (roles.set i role) := by
  intro x c z hx
  rw [List.getElem?_set] at hx
  split at hx
  · next hi =>
    subst hi
    split at hx
    · exact hrole c z (Option.some.inj hx)
    · cases hx
  · exact h x c z hx

theorem HeadsAreBuffers.assign {param : RawParam} (h : HeadsAreBuffers params state.roles)
    (hparam : params[n]? = some param) :
    HeadsAreBuffers params (Roles.assign params state param n).roles := by
  unfold Roles.assign
  split
  · exact h
  · next hserved =>
    rw [not_or, Bool.not_eq_true', Bool.not_eq_false] at hserved
    have hset : ∀ role, HeadsAreBuffers params (state.roles.set n role) := fun role =>
      h.set fun _ _ _ => ⟨param, hparam, hserved.2⟩
    split
    · exact h
    · dsimp only
      split
      · apply (hset _).set
        intro c z hrole
        split at hrole <;> cases hrole
      · split
        · exact hset _
        · exact h

theorem headsAreBuffers_rolesOf (params : List RawParam) :
    HeadsAreBuffers params (rolesOf params) := by
  have hstart : HeadsAreBuffers params (params.map fun _ => .plain) := by
    intro i c z hi
    rw [List.getElem?_map, Option.map_eq_some_iff] at hi
    obtain ⟨-, -, hplain⟩ := hi
    cases hplain
  obtain ⟨state, hstate, h⟩ := exists_rolesOf_of_step
    (P := fun _ state => HeadsAreBuffers params state.roles) hstart
    fun _ _ _ hparam h => h.assign hparam
  exact hstate ▸ h

@[simp]
theorem length_rolesOf (params : List RawParam) : (rolesOf params).length = params.length := by
  obtain ⟨state, hstate, h⟩ := exists_rolesOf_of_step
    (P := fun _ state => state.roles.length = params.length) (List.length_map _)
    fun n param state _ h => (length_assign params state param n).trans h
  exact hstate ▸ h

namespace Param

variable {param : Param} {params : List Param} {i j n : Nat} {c : Option Nat} {z : Bool}

/-- The parameter with its type in a wrapper. A head without such a type is left as it is
declared. -/
def offered (param : Param) : Param :=
  match param.role with
  | .plain => param.asDeclared
  | .count _ | .elided _ => { param with wrapperType? := none }
  | .head count zeroTerminated =>
    match bufferType? param.type count.isSome zeroTerminated with
    | some type => { param with wrapperType? := some type }
    | none => param.asDeclared

theorem offered_of_plain (h : param.role = .plain) : param.offered = param.asDeclared := by
  rw [offered, h]

theorem offered_of_ofCount (h : param.role = .ofCount i z) :
    param.offered = { param with wrapperType? := none } := by
  obtain ⟨name, type, role, countType, wrapperType⟩ := param
  subst h
  cases z <;> rfl

theorem offered_of_some {type : CType} (h : param.role = .head c z)
    (htype : bufferType? param.type c.isSome z = some type) :
    param.offered = { param with wrapperType? := some type } := by
  rw [offered, h]
  dsimp only
  rw [htype, ← h]

theorem offered_of_none (h : param.role = .head c z)
    (htype : bufferType? param.type c.isSome z = none) : param.offered = param.asDeclared := by
  rw [offered, h]
  dsimp only
  rw [htype]

/-- A head is kept or dropped; other roles are kept. -/
theorem role_offered_eq_or (param : Param) :
    param.offered.role = param.role ∨ param.offered.role = .plain := by
  unfold offered
  split
  · exact .inr rfl
  · exact .inl rfl
  · exact .inl rfl
  · split
    · exact .inl rfl
    · exact .inr rfl

/-- Nothing else is changed. -/
theorem offered_eq (param : Param) : ∃ role wrapperType,
    param.offered = { param with role := role, wrapperType? := wrapperType } := by
  unfold offered
  split
  · exact ⟨_, _, rfl⟩
  · exact ⟨_, _, rfl⟩
  · exact ⟨_, _, rfl⟩
  · split
    · exact ⟨_, _, rfl⟩
    · exact ⟨_, _, rfl⟩

theorem role_offered_counted (hbuffer : param.type.isBuffer = true)
    (h : param.role = .head (some j) z) : param.offered.role = .head (some j) z := by
  obtain ⟨type, htype⟩ := Option.isSome_iff_exists.mp (isSome_bufferType?_counted hbuffer z)
  rw [offered_of_some h htype]
  exact h

/-- What a wrapper offers for a parameter: nothing for a count, a buffer of known length for a
head with a count, and the type itself for a plain parameter. -/
structure IsOffered (param : Param) : Prop where
  eq_none_iff : param.wrapperType? = none ↔ param.role.isComputed = true
  counted : ∀ j z, param.role = .head (some j) z → ∃ target isConst,
    param.wrapperType? = some (.slice target isConst)
      ∨ param.wrapperType? = some (.zeroTerminated target)
  plain : param.role = .plain → param.wrapperType? = some param.type

theorem isOffered_asDeclared : param.asDeclared.IsOffered :=
  ⟨iff_of_false nofun nofun, nofun, fun _ => rfl⟩

theorem isOffered_of_isComputed (h : param.role.isComputed = true)
    (hnone : param.wrapperType? = none) : param.IsOffered :=
  ⟨iff_of_true hnone h, fun _ _ hrole => absurd h (hrole ▸ nofun),
    fun hrole => absurd h (hrole ▸ nofun)⟩

theorem isOffered_of_head (h : param.role = .head c z)
    (htype : param.wrapperType? = bufferType? param.type c.isSome z)
    (hsome : param.wrapperType?.isSome = true) : param.IsOffered := by
  obtain ⟨type, hwrapper⟩ := Option.isSome_iff_exists.mp hsome
  obtain ⟨target, -, isConst, -, hshape⟩ := bufferType?_eq_some (htype.symm.trans hwrapper)
  constructor
  · rw [hwrapper, h]
    exact iff_of_false nofun nofun
  · intro _ _ _
    rw [hwrapper]
    refine ⟨target, isConst, ?_⟩
    exact hshape.imp (congrArg some) (congrArg some)
  · rw [h]
    nofun

theorem isOffered_offered (param : Param) : param.offered.IsOffered := by
  unfold offered
  split
  · exact isOffered_asDeclared
  · next hrole => exact isOffered_of_isComputed (hrole ▸ rfl) rfl
  · next hrole => exact isOffered_of_isComputed (hrole ▸ rfl) rfl
  · next hrole =>
    split
    · next htype => exact isOffered_of_head hrole htype.symm rfl
    · exact isOffered_asDeclared

/-- A wrapper takes a parameter as it is declared, or a buffer in its place. -/
theorem type_eq_or_of_mem_offered {type : CType} (h : type ∈ param.offered.wrapperType?) :
    type = param.type ∨ ∃ counted z, bufferType? param.type counted z = some type := by
  unfold offered at h
  split at h
  · exact .inl (Option.some.inj h).symm
  · cases h
  · cases h
  · split at h
    · next found htype =>
      cases h
      exact .inr ⟨_, _, htype⟩
    · exact .inl (Option.some.inj h).symm

/-- A step at a head with a count does not drop it, so it touches one parameter only. -/
theorem offer_eq_set (hparam : params[i]? = some param)
    (hcounted : ∀ j z, param.role = .head (some j) z → param.type.isBuffer = true) :
    offer params i = params.set i param.offered := by
  rw [offer, hparam]
  dsimp only
  split
  · next hrole => rw [offered_of_plain hrole]
  · next hrole => rw [offered_of_ofCount (z := false) hrole]
  · next hrole => rw [offered_of_ofCount (z := true) hrole]
  · next c z hrole =>
    split
    · next htype => rw [offered_of_some hrole htype]
    · next hnone =>
      rw [offered_of_none hrole hnone]
      cases c with
      | none => rfl
      | some j =>
        -- Here the count would lose its role too.
        have hsome := isSome_bufferType?_counted (hcounted j z hrole) z
        rw [← Option.isSome_some (a := j), hnone] at hsome
        cases hsome

/-- After `n` steps the first `n` parameters have their types in a wrapper. -/
theorem foldl_offer
    (hcounted : ∀ param ∈ params, ∀ j z, param.role = .head (some j) z → param.type.isBuffer = true)
    (hn : n ≤ params.length) :
    (List.range n).foldl offer params = (params.take n).map offered ++ params.drop n := by
  induction n with
  | zero => rfl
  | succ n ih =>
    -- The list is what is done, the parameter at `n` as it was, and the rest.
    have hlength : ((params.take n).map offered).length = n := by
      rw [List.length_map, List.length_take, Nat.min_eq_left (Nat.le_of_succ_le hn)]
    have hget : ((params.take n).map offered ++ params.drop n)[n]? = some params[n] := by
      rw [List.getElem?_append_right (by omega), hlength, Nat.sub_self, List.getElem?_drop]
      exact List.getElem?_eq_getElem hn
    rw [List.range_succ, List.foldl_append, ih (Nat.le_of_succ_le hn), List.foldl_cons,
      List.foldl_nil, offer_eq_set hget (hcounted _ (List.getElem_mem hn)),
      List.set_append_right _ _ (by omega), hlength, Nat.sub_self, List.drop_eq_getElem_cons hn,
      List.set_cons_zero, List.take_succ_eq_append_getElem hn, List.map_append, List.append_assoc]
    rfl

end Param

/-- No count is taken from its head, so every parameter is offered by itself. -/
theorem ofRaw_eq (params : List RawParam) : Param.ofRaw params
    = params.zipWith (fun param role => (param.withRole role).offered) (rolesOf params) := by
  have hcounted : ∀ param ∈ params.zipWith RawParam.withRole (rolesOf params), ∀ j z,
      param.role = .head (some j) z → param.type.isBuffer = true := by
    intro made hmade j z hrole
    obtain ⟨i, hi⟩ := List.mem_iff_getElem?.mp hmade
    obtain ⟨param, role, hparam, hgiven, rfl⟩ := List.getElem?_zipWith_eq_some.mp hi
    obtain rfl : role = .head (some j) z := hrole
    obtain ⟨other, hother, hbuffer⟩ := headsAreBuffers_rolesOf params i _ z hgiven
    obtain rfl : param = other := Option.some.inj (hparam.symm.trans hother)
    exact hbuffer
  rw [Param.ofRaw, Param.foldl_offer hcounted (Nat.le_refl _), List.take_length, List.drop_length,
    List.append_nil, List.map_zipWith]

theorem type_eq_or_of_mem_ofRaw {params : List RawParam} {param : Param}
    (hparam : param ∈ Param.ofRaw params) {type : CType} (htype : type ∈ param.wrapperType?) :
    type = param.type ∨ ∃ counted z, bufferType? param.type counted z = some type := by
  rw [ofRaw_eq] at hparam
  obtain ⟨i, hi⟩ := List.mem_iff_getElem?.mp hparam
  obtain ⟨raw, role, -, -, rfl⟩ := List.getElem?_zipWith_eq_some.mp hi
  have hsame : (raw.withRole role).offered.type = raw.type := by
    obtain ⟨_, _, heq⟩ := (raw.withRole role).offered_eq
    rw [heq]
    rfl
  rw [hsame]
  exact Param.type_eq_or_of_mem_offered htype

/-- Only roles and the types in a wrapper are added to the parameters. -/
theorem map_ofRaw {α : Type} (params : List RawParam) (f : Param → α) (g : RawParam → α)
    (h : ∀ param role wrapperType,
      f ⟨param.name, param.type, role, param.countType, wrapperType⟩ = g param) :
    (Param.ofRaw params).map f = params.map g := by
  have hmade : ∀ param role, f (RawParam.withRole param role).offered = g param := by
    intro param role
    obtain ⟨_, _, hoffered⟩ := (param.withRole role).offered_eq
    rw [hoffered]
    exact h param _ _
  rw [ofRaw_eq, List.map_zipWith]
  refine List.ext_getElem ?_ ?_
  · simp
  · intro i hi hi'
    simp [hmade]

@[simp] theorem types_ofRaw (params : List RawParam) :
    (Param.ofRaw params).map (·.type) = params.map (·.type) :=
  map_ofRaw _ _ _ fun _ _ _ => rfl

end AbiBridge
