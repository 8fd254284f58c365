import AbiBridge.Proofs.Param.Label
import Mathlib.Data.Nat.Find
import Mathlib.Order.Bounds.Basic

/-!
# Serving buffers from left to right

What the roles are after the first buffers have been served: every served buffer has the first
count that no earlier one claims, and buffers and counts refer to each other.
-/

namespace AbiBridge

theorem foldl_zipIdx_invariant {α σ : Type} {P : Nat → σ → Prop} {f : σ → α × Nat → σ} {start : σ}
    (hstart : P 0 start) (xs : List α)
    (hstep : ∀ n a state, xs[n]? = some a → P n state → P (n + 1) (f state (a, n))) :
    P xs.length (xs.zipIdx.foldl f start) := by
  induction xs using List.reverseRecOn with
  | nil => exact hstart
  | append_singleton xs a ih =>
    rw [List.zipIdx_append, List.foldl_append, List.length_append, Nat.zero_add,
      List.zipIdx_singleton, List.foldl_cons, List.foldl_nil, List.length_singleton]
    refine hstep xs.length a _ ?_ ?_
    · simp
    · apply ih
      intro n b state hb
      exact hstep n b state (List.getElem?_append_left (List.getElem?_eq_some_iff.mp hb).1 ▸ hb)

theorem find?_zipIdx_eq_some_iff {α : Type} {xs : List α} {p : α × Nat → Bool} {j : Nat} :
    (xs.zipIdx.find? p).map (·.2) = some j
      ↔ IsLeast {j | ∃ a, xs[j]? = some a ∧ p (a, j) = true} j := by
  constructor
  · intro h
    obtain ⟨⟨a, _⟩, hfind, rfl⟩ := Option.map_eq_some_iff.mp h
    obtain ⟨hp, k, hk, hget, hbefore⟩ := List.find?_eq_some_iff_getElem.mp hfind
    rw [List.getElem_zipIdx, Nat.zero_add] at hget
    cases hget
    refine ⟨⟨_, List.getElem?_eq_getElem _, hp⟩, ?_⟩
    rintro i ⟨b, hb, hpb⟩
    by_contra hlt
    obtain ⟨hi, rfl⟩ := List.getElem?_eq_some_iff.mp hb
    have hnot := hbefore i (Nat.lt_of_not_le hlt)
    rw [List.getElem_zipIdx, Nat.zero_add, hpb] at hnot
    cases hnot
  · rintro ⟨⟨a, ha, hp⟩, hleast⟩
    obtain ⟨hj, rfl⟩ := List.getElem?_eq_some_iff.mp ha
    refine Option.map_eq_some_iff.mpr ⟨(xs[j], j), ?_, rfl⟩
    refine List.find?_eq_some_iff_getElem.mpr ⟨hp, j, by simpa using hj, by simp, ?_⟩
    intro i hi
    rw [List.getElem_zipIdx, Nat.zero_add, Bool.not_eq_true', Bool.eq_false_iff]
    intro hpi
    exact Nat.not_le_of_lt hi (hleast ⟨_, List.getElem?_eq_getElem (hi.trans hj), hpi⟩)

/-- What the name says about a buffer, if the type can be that of one. -/
def RawParam.label? (param : RawParam) : Option BufferLabel :=
  if param.type.isBuffer then BufferLabel.ofName? param.name else none

def BufferLabel.role (label : BufferLabel) : Option Nat → Role
  | some j => .head (some j) label.isZeroTerminated
  | none => if label.isZeroTerminated then .head none true else .plain

def Role.ofCount (i : Nat) (zeroTerminated : Bool) : Role :=
  if zeroTerminated then .elided i else .count i

theorem RawParam.label?_eq_some_iff {param : RawParam} {label : BufferLabel} :
    param.label? = some label ↔ param.type.isBuffer = true ∧ label.Splits param.name := by
  rw [RawParam.label?]
  split
  · next hbuffer => simp [hbuffer, BufferLabel.ofName?_eq_some_iff]
  · next hbuffer => simp [hbuffer]

@[simp] theorem BufferLabel.role_eq_head_some_iff {label : BufferLabel} {c : Option Nat} {j : Nat}
    {z : Bool} :
    label.role c = .head (some j) z ↔ c = some j ∧ label.isZeroTerminated = z := by
  cases c with
  | none => cases h : label.isZeroTerminated <;> simp [role, h]
  | some k => simp [role]

namespace Role

variable {i i' : Nat} {c : Option Nat} {z z' : Bool}

@[simp] theorem ofCount_inj : ofCount i z = ofCount i' z' ↔ i = i' ∧ z = z' := by
  cases z <;> cases z' <;> simp [ofCount]

theorem ofCount_ne_head : ofCount i z ≠ .head c z' := by
  cases z <;> simp [ofCount]

theorem ofCount_ne_plain : ofCount i z ≠ .plain := by
  cases z <;> simp [ofCount]

theorem ofCount_ne_role {label : BufferLabel} : ofCount i z ≠ label.role c := by
  cases c with
  | none => cases h : label.isZeroTerminated <;> cases z <;> simp [ofCount, BufferLabel.role, h]
  | some k => exact ofCount_ne_head

end Role

@[simp]
theorem length_assign (params : List RawParam) (state : Roles) (param : RawParam) (i : Nat) :
    (Roles.assign params state param i).roles.length = state.roles.length := by
  unfold Roles.assign
  split
  · rfl
  · split
    · rfl
    · dsimp only
      split
      · simp
      · split <;> simp

/-- A buffer in front of position `i` has the parameter at `j` as its count. -/
def ClaimedBefore (roles : List Role) (i j : Nat) : Prop :=
  ∃ earlier < i, ∃ z, roles[earlier]? = some (.head (some j) z)

/-- The parameter at `j` can count the buffer `param` at `i`, and no earlier buffer claims it. -/
structure FreeCount (params : List RawParam) (roles : List Role) (i : Nat) (param : RawParam)
    (logical : String) (j : Nat) : Prop where
  ne : j ≠ i
  unclaimed : ¬ ClaimedBefore roles i j
  fits : ∃ candidate, params[j]? = some candidate ∧ candidate.countType.isSome = true
    ∧ (param.countName = some candidate.name ∨ namesCountOf logical candidate.name = true)

variable {params : List RawParam} {param other : RawParam} {label : BufferLabel} {state : Roles}
  {roles : List Role} {i j n : Nat}

theorem isCountOf_iff {candidate : RawParam} :
    isCountOf param label candidate = true
      ↔ candidate.countType.isSome = true
        ∧ (param.countName = some candidate.name
          ∨ namesCountOf label.logical candidate.name = true) := by
  rw [isCountOf, Bool.and_eq_true, Bool.or_eq_true, beq_iff_eq]

theorem FreeCount.congr {roles' : List Role} {logical : String}
    (h : ClaimedBefore roles i j ↔ ClaimedBefore roles' i j) :
    FreeCount params roles i param logical j ↔ FreeCount params roles' i param logical j :=
  ⟨fun ⟨hne, hfree, hfits⟩ => ⟨hne, hfree ∘ h.mpr, hfits⟩,
    fun ⟨hne, hfree, hfits⟩ => ⟨hne, hfree ∘ h.mp, hfits⟩⟩

theorem countFor?_eq_some_iff {taken : List Nat}
    (htaken : ∀ j, j ∈ taken ↔ ClaimedBefore roles i j) :
    countFor? params taken i param label = some j
      ↔ IsLeast {j | FreeCount params roles i param label.logical j} j := by
  have hset : {j | FreeCount params roles i param label.logical j}
      = {j | ∃ candidate, params[j]? = some candidate
          ∧ (j != i && !taken.contains j && isCountOf param label candidate) = true} := by
    ext j
    constructor
    · rintro ⟨hne, hfree, candidate, hcandidate, hfits⟩
      refine ⟨candidate, hcandidate, ?_⟩
      rw [isCountOf_iff.mpr hfits]
      simp [hne, htaken, hfree]
    · rintro ⟨candidate, hcandidate, h⟩
      simp only [Bool.and_eq_true, bne_iff_ne, Bool.not_eq_true', List.contains_eq_mem,
        decide_eq_false_iff_not, htaken] at h
      exact ⟨h.1.1, h.1.2, candidate, hcandidate, isCountOf_iff.mp h.2⟩
  rw [hset]
  exact find?_zipIdx_eq_some_iff

theorem assign_of_label?_eq_none (hlabel : param.label? = none) :
    Roles.assign params state param i = state := by
  rw [Roles.assign]
  split
  · rfl
  · next h =>
    rw [not_or, Bool.not_eq_true', Bool.not_eq_false] at h
    rw [RawParam.label?, if_pos h.2] at hlabel
    rw [hlabel]

theorem taken_assign (hplain : state.roles[i]? = some .plain) (hlabel : param.label? = some label) :
    (Roles.assign params state param i).taken
      = (countFor? params state.taken i param label).toList ++ state.taken := by
  obtain ⟨hbuffer, hname⟩ := RawParam.label?_eq_some_iff.mp hlabel
  rw [Roles.assign, if_neg (by simp [hplain, hbuffer]), BufferLabel.ofName?_eq_some_iff.mpr hname]
  dsimp only
  split
  · next hcount => rw [hcount]; rfl
  · next hcount => rw [hcount]; split <;> rfl

/-- A step gives a role to the buffer and to its count, and leaves the other roles alone. -/
theorem getElem?_assign (hlength : state.roles.length = params.length)
    (hplain : state.roles[i]? = some .plain) (hlabel : param.label? = some label) (x : Nat) :
    (Roles.assign params state param i).roles[x]?
      = if countFor? params state.taken i param label = some x then
          some (.ofCount i label.isZeroTerminated)
        else if x = i then some (label.role (countFor? params state.taken i param label))
        else state.roles[x]? := by
  obtain ⟨hbuffer, hname⟩ := RawParam.label?_eq_some_iff.mp hlabel
  have hi : i < state.roles.length := (List.getElem?_eq_some_iff.mp hplain).1
  rw [Roles.assign, if_neg (by simp [hplain, hbuffer]), BufferLabel.ofName?_eq_some_iff.mpr hname]
  dsimp only
  cases hcount : countFor? params state.taken i param label with
  | none =>
    dsimp only
    rw [if_neg (Option.some_ne_none x).symm, BufferLabel.role]
    by_cases hx : x = i
    · rw [if_pos hx, hx]
      split
      · exact List.getElem?_set_self hi
      · exact hplain
    · rw [if_neg hx]
      split
      · exact List.getElem?_set_ne (Ne.symm hx)
      · rfl
  | some j =>
    obtain ⟨candidate, hcandidate, -⟩ := (find?_zipIdx_eq_some_iff.mp hcount).1
    have hj : j < state.roles.length := hlength ▸ (List.getElem?_eq_some_iff.mp hcandidate).1
    simp only [BufferLabel.role, Role.ofCount, List.getElem?_set, List.length_set, hi, hj, if_true,
      Option.some.injEq, eq_comm (a := x)]

/-- What holds at the start and is kept by every step holds in the end. -/
theorem exists_rolesOf_of_step {P : Nat → Roles → Prop}
    (hstart : P 0 ⟨params.map fun _ => .plain, []⟩)
    (hstep : ∀ n param state, params[n]? = some param → P n state →
      P (n + 1) (Roles.assign params state param n)) :
    ∃ state, state.roles = rolesOf params ∧ P params.length state :=
  ⟨_, rfl, foldl_zipIdx_invariant hstart params hstep⟩

/-- No buffer can count another one. -/
def BuffersAreNoCounts (params : List RawParam) : Prop :=
  ∀ buffer ∈ params, buffer.label?.isSome = true → ∀ param ∈ params, ∀ label,
    param.label? = some label → isCountOf param label buffer = false

theorem BuffersAreNoCounts.label?_eq_none (hapart : BuffersAreNoCounts params)
    (hparam : params[i]? = some param) (hlabel : param.label? = some label)
    (hfree : FreeCount params roles i param label.logical j)
    (hother : params[j]? = some other) : other.label? = none := by
  obtain ⟨-, -, candidate, hcandidate, hfits⟩ := hfree
  obtain rfl : other = candidate := Option.some.inj (hother.symm.trans hcandidate)
  by_contra hsome
  have hno := hapart other (List.mem_of_getElem? hother) (Option.isSome_iff_ne_none.mpr hsome)
    param (List.mem_of_getElem? hparam) label hlabel
  rw [isCountOf_iff.mpr hfits] at hno
  cases hno

/-- The buffers in front of position `n` are served. -/
structure ServedTo (params : List RawParam) (n : Nat) (state : Roles) : Prop where
  length_eq : state.roles.length = params.length
  /-- Only buffers in front become heads. -/
  head_label : ∀ (i : Nat) (c : Option Nat) (z : Bool), state.roles[i]? = some (.head c z) → i < n
    ∧ ∃ param label, params[i]? = some param ∧ param.label? = some label
  /-- Each of them has the first count that none before it claims, or none. -/
  served : ∀ i < n, ∀ param label, params[i]? = some param → param.label? = some label →
    ∃ c, state.roles[i]? = some (label.role c)
      ∧ ∀ j, c = some j ↔ IsLeast {j | FreeCount params state.roles i param label.logical j} j
  /-- A count refers to the buffer that refers to it. -/
  count_iff : ∀ (i j : Nat) (z : Bool), state.roles[j]? = some (.ofCount i z)
    ↔ state.roles[i]? = some (.head (some j) z)
  taken_iff : ∀ j, j ∈ state.taken
    ↔ ∃ (i : Nat) (z : Bool), state.roles[i]? = some (.head (some j) z)

namespace ServedTo

theorem start (params : List RawParam) :
    ServedTo params 0 ⟨params.map fun _ => .plain, []⟩ := by
  have hplain : ∀ (i : Nat) (role : Role),
      (params.map fun _ => Role.plain)[i]? = some role → role = .plain := by
    intro i role h
    rw [List.getElem?_map, Option.map_eq_some_iff] at h
    obtain ⟨-, -, rfl⟩ := h
    rfl
  have hhead : ∀ (i : Nat) (c : Option Nat) (z : Bool),
      (params.map fun _ => Role.plain)[i]? ≠ some (.head c z) := fun i c z h =>
    Role.noConfusion (hplain i _ h)
  constructor
  · exact List.length_map _
  · exact fun i c z h => absurd h (hhead i c z)
  · exact fun i hi => absurd hi (Nat.not_lt_zero i)
  · intro i j z
    constructor
    · exact fun h => absurd (hplain j _ h) Role.ofCount_ne_plain
    · exact fun h => absurd h (hhead i _ z)
  · intro j
    constructor
    · exact fun h => absurd h List.not_mem_nil
    · rintro ⟨i, z, h⟩
      exact absurd h (hhead i _ z)

/-- What a head refers to can count its buffer. -/
theorem freeCount_of_head (h : ServedTo params n state) {z : Bool}
    (hhead : state.roles[i]? = some (.head (some j) z)) :
    ∃ param label, params[i]? = some param ∧ param.label? = some label
      ∧ FreeCount params state.roles i param label.logical j := by
  obtain ⟨hi, param, label, hparam, hlabel⟩ := h.head_label i _ _ hhead
  obtain ⟨c, hrole, hleast⟩ := h.served i hi param label hparam hlabel
  rw [hhead, Option.some.injEq, eq_comm, BufferLabel.role_eq_head_some_iff] at hrole
  exact ⟨param, label, hparam, hlabel, ((hleast j).mp hrole.1).1⟩

/-- No head refers to a buffer. -/
theorem not_head_of_label (h : ServedTo params n state) (hapart : BuffersAreNoCounts params)
    (hparam : params[j]? = some param) (hlabel : param.label? = some label) {z : Bool} :
    state.roles[i]? ≠ some (.head (some j) z) := by
  intro hhead
  obtain ⟨other, otherLabel, hother, hotherLabel, hfree⟩ := h.freeCount_of_head hhead
  have hnone := hapart.label?_eq_none hother hotherLabel hfree hparam
  rw [hlabel] at hnone
  cases hnone

/-- A buffer that is not served yet has no role yet. -/
theorem plain_of_label (h : ServedTo params n state) (hapart : BuffersAreNoCounts params)
    (hparam : params[n]? = some param) (hlabel : param.label? = some label) :
    state.roles[n]? = some .plain := by
  have hn : n < state.roles.length := h.length_eq ▸ (List.getElem?_eq_some_iff.mp hparam).1
  have hrole := List.getElem?_eq_getElem hn
  have hcount : ∀ i z, state.roles[n]? ≠ some (.ofCount i z) := fun i z hi =>
    h.not_head_of_label hapart hparam hlabel ((h.count_iff i n z).mp hi)
  cases hat : state.roles[n] with
  | plain => rw [hrole, hat]
  | head c z =>
    rw [hat] at hrole
    exact absurd (h.head_label n c z hrole).1 (Nat.lt_irrefl n)
  | count i =>
    rw [hat] at hrole
    exact absurd hrole (hcount i false)
  | elided i =>
    rw [hat] at hrole
    exact absurd hrole (hcount i true)

theorem claimedBefore_iff (h : ServedTo params n state) :
    ClaimedBefore state.roles n j ↔ j ∈ state.taken := by
  rw [h.taken_iff]
  constructor
  · rintro ⟨i, -, z, hi⟩
    exact ⟨i, z, hi⟩
  · rintro ⟨i, z, hi⟩
    exact ⟨i, (h.head_label i _ z hi).1, z, hi⟩

theorem countFor?_iff (h : ServedTo params n state) :
    countFor? params state.taken n param label = some j
      ↔ IsLeast {j | FreeCount params state.roles n param label.logical j} j :=
  countFor?_eq_some_iff fun _ => h.claimedBefore_iff.symm

section Step

variable (h : ServedTo params n state) (hapart : BuffersAreNoCounts params)
  (hparam : params[n]? = some param) (hlabel : param.label? = some label)

include h hapart hparam hlabel

/-- The heads after a step are those before it and the buffer that was served. -/
theorem head_assign_iff {c : Option Nat} {z : Bool} (x : Nat) :
    (Roles.assign params state param n).roles[x]? = some (.head c z)
      ↔ state.roles[x]? = some (.head c z)
        ∨ x = n ∧ label.role (countFor? params state.taken n param label) = .head c z := by
  have hplain := h.plain_of_label hapart hparam hlabel
  rw [getElem?_assign h.length_eq hplain hlabel]
  split
  · next hcount =>
    have hfree := (h.countFor?_iff.mp hcount).1
    constructor
    · intro hrole
      exact absurd (Option.some.inj hrole) Role.ofCount_ne_head
    · rintro (hrole | ⟨rfl, -⟩)
      · obtain ⟨-, other, otherLabel, hother, hotherLabel⟩ := h.head_label x c z hrole
        rw [hapart.label?_eq_none hparam hlabel hfree hother] at hotherLabel
        cases hotherLabel
      · exact absurd rfl hfree.ne
  · split
    · next hx =>
      subst hx
      simp [hplain]
    · next hx => simp [hx]

theorem claimedBefore_assign_iff (hi : i ≤ n) :
    ClaimedBefore (Roles.assign params state param n).roles i j
      ↔ ClaimedBefore state.roles i j := by
  have hsame : ∀ earlier < i, ∀ z,
      (Roles.assign params state param n).roles[earlier]? = some (.head (some j) z)
        ↔ state.roles[earlier]? = some (.head (some j) z) := by
    intro earlier hearlier z
    rw [h.head_assign_iff hapart hparam hlabel]
    exact or_iff_left fun hn => by omega
  constructor
  · rintro ⟨earlier, hearlier, z, hz⟩
    exact ⟨earlier, hearlier, z, (hsame earlier hearlier z).mp hz⟩
  · rintro ⟨earlier, hearlier, z, hz⟩
    exact ⟨earlier, hearlier, z, (hsame earlier hearlier z).mpr hz⟩

theorem countFor?_assign_ne (hother : params[i]? = some other) {otherLabel : BufferLabel}
    (hotherLabel : other.label? = some otherLabel) :
    countFor? params state.taken n param label ≠ some i := by
  intro hcount
  rw [hapart.label?_eq_none hparam hlabel (h.countFor?_iff.mp hcount).1 hother] at hotherLabel
  cases hotherLabel

theorem served_assign (hi : i < n + 1) {otherLabel : BufferLabel}
    (hother : params[i]? = some other) (hotherLabel : other.label? = some otherLabel) :
    ∃ c, (Roles.assign params state param n).roles[i]? = some (otherLabel.role c)
      ∧ ∀ j, c = some j ↔ IsLeast {j | FreeCount params (Roles.assign params state param n).roles i
          other otherLabel.logical j} j := by
  have hset : {j | FreeCount params (Roles.assign params state param n).roles i other
        otherLabel.logical j}
      = {j | FreeCount params state.roles i other otherLabel.logical j} := by
    ext j
    exact FreeCount.congr (h.claimedBefore_assign_iff hapart hparam hlabel (Nat.le_of_lt_succ hi))
  rw [hset, getElem?_assign h.length_eq (h.plain_of_label hapart hparam hlabel) hlabel,
    if_neg (h.countFor?_assign_ne hapart hparam hlabel hother hotherLabel)]
  by_cases hin : i = n
  · subst hin
    obtain rfl : param = other := Option.some.inj (hparam.symm.trans hother)
    obtain rfl : label = otherLabel := Option.some.inj (hlabel.symm.trans hotherLabel)
    exact ⟨_, if_pos rfl, fun j => h.countFor?_iff⟩
  · rw [if_neg hin]
    exact h.served i (by omega) other otherLabel hother hotherLabel

theorem ofCount_assign_iff {z : Bool} :
    (Roles.assign params state param n).roles[j]? = some (.ofCount i z)
      ↔ (Roles.assign params state param n).roles[i]? = some (.head (some j) z) := by
  rw [h.head_assign_iff hapart hparam hlabel,
    getElem?_assign h.length_eq (h.plain_of_label hapart hparam hlabel) hlabel,
    BufferLabel.role_eq_head_some_iff]
  split
  · next hj =>
    have hfree : state.roles[i]? ≠ some (.head (some j) z) := fun hi =>
      (h.countFor?_iff.mp hj).1.unclaimed ⟨i, (h.head_label i _ z hi).1, z, hi⟩
    rw [Option.some.injEq, Role.ofCount_inj, or_iff_right hfree, eq_comm (a := n)]
    exact ⟨fun ⟨hi, hz⟩ => ⟨hi, hj, hz⟩, fun ⟨hi, _, hz⟩ => ⟨hi, hz⟩⟩
  · next hj =>
    rw [or_iff_left fun hi => hj hi.2.1]
    split
    · next hjn =>
      subst hjn
      rw [Option.some.injEq]
      exact iff_of_false Role.ofCount_ne_role.symm (h.not_head_of_label hapart hparam hlabel)
    · exact h.count_iff i j z

theorem mem_taken_assign_iff :
    j ∈ (Roles.assign params state param n).taken ↔ ∃ (i : Nat) (z : Bool),
      (Roles.assign params state param n).roles[i]? = some (.head (some j) z) := by
  rw [taken_assign (h.plain_of_label hapart hparam hlabel) hlabel, List.mem_append,
    Option.mem_toList, h.taken_iff]
  constructor
  · rintro (hj | ⟨i, z, hi⟩)
    · exact ⟨n, _, (h.head_assign_iff hapart hparam hlabel n).mpr
        (.inr ⟨rfl, BufferLabel.role_eq_head_some_iff.mpr ⟨hj, rfl⟩⟩)⟩
    · exact ⟨i, z, (h.head_assign_iff hapart hparam hlabel i).mpr (.inl hi)⟩
  · rintro ⟨i, z, hi⟩
    rcases (h.head_assign_iff hapart hparam hlabel i).mp hi with hi | ⟨-, hi⟩
    · exact .inr ⟨i, z, hi⟩
    · exact .inl (BufferLabel.role_eq_head_some_iff.mp hi).1

theorem assign_of_label : ServedTo params (n + 1) (Roles.assign params state param n) where
  length_eq := (length_assign params state param n).trans h.length_eq
  head_label i c z hi := by
    rcases (h.head_assign_iff hapart hparam hlabel i).mp hi with hi | ⟨rfl, -⟩
    · exact (h.head_label i c z hi).imp_left Nat.lt_succ_of_lt
    · exact ⟨Nat.lt_succ_self i, param, label, hparam, hlabel⟩
  served _ hi _ _ hother hotherLabel :=
    h.served_assign hapart hparam hlabel hi hother hotherLabel
  count_iff _ _ _ := h.ofCount_assign_iff hapart hparam hlabel
  taken_iff _ := h.mem_taken_assign_iff hapart hparam hlabel

end Step

/-- A parameter that is no buffer is passed over. -/
theorem skip (h : ServedTo params n state) (hparam : params[n]? = some param)
    (hlabel : param.label? = none) : ServedTo params (n + 1) state where
  length_eq := h.length_eq
  head_label i c z hi := (h.head_label i c z hi).imp_left Nat.lt_succ_of_lt
  served i hi other label hother hlabel' := by
    rcases Nat.lt_succ_iff_lt_or_eq.mp hi with hi | rfl
    · exact h.served i hi other label hother hlabel'
    · obtain rfl : param = other := Option.some.inj (hparam.symm.trans hother)
      rw [hlabel] at hlabel'
      cases hlabel'
  count_iff := h.count_iff
  taken_iff := h.taken_iff

theorem assign (h : ServedTo params n state) (hapart : BuffersAreNoCounts params)
    (hparam : params[n]? = some param) :
    ServedTo params (n + 1) (Roles.assign params state param n) := by
  cases hlabel : param.label? with
  | none =>
    rw [assign_of_label?_eq_none hlabel]
    exact h.skip hparam hlabel
  | some label => exact h.assign_of_label hapart hparam hlabel

end ServedTo

/-- After the run all buffers are served. -/
theorem exists_servedTo_rolesOf (hapart : BuffersAreNoCounts params) :
    ∃ state, state.roles = rolesOf params ∧ ServedTo params params.length state :=
  exists_rolesOf_of_step (.start params) fun _ _ _ hparam h => h.assign hapart hparam

end AbiBridge
