import AbiBridge.Proofs.Param.FirstFit

/-!
# Counts that are named for a buffer

The name of a count fits every buffer whose logical name starts what follows the marker. So
the count that is named for one buffer may be spent on another, but only on one with such a
name, and only if that one is served before or the first buffer has got an earlier count.
-/

namespace AbiBridge

variable {params : List RawParam} {i j k : Nat} {z : Bool}

/-- If no counts are declared, they are told from buffers by their names. -/
theorem buffersAreNoCounts_of_countName (h : ∀ param ∈ params, param.countName = none) :
    BuffersAreNoCounts params := by
  intro buffer _ hlabel param hparam label _
  obtain ⟨name, hname⟩ := Option.isSome_iff_exists.mp hlabel
  rw [isCountOf, (RawParam.label?_eq_some_iff.mp hname).2.namesCountOf_eq_false, h param hparam]
  simp

/-- The parameter at `j` is a count that is named for the buffer at `k`: a marker, followed by
the logical name of the buffer. -/
structure IsNamedFor (params : List RawParam) (j k : Nat) (marker : String) (label : BufferLabel) :
    Prop where
  marker_mem : marker ∈ countMarkers
  count : ∃ count, params[j]? = some count ∧ count.countType.isSome = true
    ∧ count.name = marker ++ label.logical
  buffer : ∃ buffer, params[k]? = some buffer ∧ buffer.type.isBuffer = true
    ∧ label.Splits buffer.name

namespace IsNamedFor

variable {marker : String} {label : BufferLabel}

theorem ne (h : IsNamedFor params j k marker label) : j ≠ k := by
  rintro rfl
  obtain ⟨count, hcount, -, hname⟩ := h.count
  obtain ⟨buffer, hbuffer, -, hlabel⟩ := h.buffer
  obtain rfl : count = buffer := Option.some.inj (hcount.symm.trans hbuffer)
  have hcounts : namesCountOf label.logical count.name = true := by
    rw [hname, namesCountOf_iff]
    exact ⟨marker, h.marker_mem, List.prefix_refl _⟩
  rw [hlabel.namesCountOf_eq_false] at hcounts
  cases hcounts

theorem freeCount (h : IsNamedFor params j k marker label) {roles : List Role} {buffer : RawParam}
    (hfree : ¬ ClaimedBefore roles k j) :
    FreeCount params roles k buffer label.logical j := by
  obtain ⟨count, hcount, htype, hname⟩ := h.count
  refine ⟨h.ne, hfree, count, hcount, htype, .inr ?_⟩
  rw [hname, namesCountOf_iff]
  exact ⟨marker, h.marker_mem, List.prefix_refl _⟩

/-- A buffer whose count goes to a later one has an earlier count. -/
theorem exists_earlier_count (h : IsNamedFor params j k marker label)
    (hapart : BuffersAreNoCounts params) (hfree : ¬ ClaimedBefore (finalRoles params) (k + 1) j) :
    ∃ earlier < j, ∃ z, (finalRoles params)[k]? = some (.head (some earlier) z) := by
  classical
  obtain ⟨buffer, hbuffer, htype, hsplits⟩ := h.buffer
  have hlabel := RawParam.label?_eq_some_iff.mpr ⟨htype, hsplits⟩
  have hnamed : FreeCount params (finalRoles params) k buffer label.logical j :=
    h.freeCount fun ⟨i, hi, hclaimed⟩ => hfree ⟨i, Nat.lt_succ_of_lt hi, hclaimed⟩
  have hfits : ∃ j, FreeCount params (finalRoles params) k buffer label.logical j := ⟨j, hnamed⟩
  have hleast : IsLeast {j | FreeCount params (finalRoles params) k buffer label.logical j}
      (Nat.find hfits) := ⟨Nat.find_spec hfits, fun _ => Nat.find_min' hfits⟩
  have hrole := finalRoles_of_isLeast hapart hbuffer hlabel hleast
  refine ⟨Nat.find hfits, Nat.lt_of_le_of_ne (Nat.find_min' hfits hnamed) ?_, _, hrole⟩
  intro hj
  exact hfree ⟨k, Nat.lt_succ_self k, _, hj ▸ hrole⟩

end IsNamedFor

/-- The count that is named for one buffer is spent on another one only if it fits the name of
that one too, which is served before or finds the first buffer with an earlier count. -/
theorem spent_of_isNamedFor {marker : String} {label otherLabel : BufferLabel} {other : RawParam}
    (hcountName : ∀ param ∈ params, param.countName = none)
    (hnamed : IsNamedFor params j k marker label)
    (hother : params[i]? = some other) (hsplits : otherLabel.Splits other.name)
    (hne : otherLabel.logical ≠ label.logical)
    (hspent : (finalRoles params)[i]? = some (.head (some j) z)) :
    (otherLabel.logical.toList <+: label.logical.toList
        ∨ (marker = "cbMax" ∧ otherLabel.logical.toList <+: ("Max" ++ label.logical).toList)
        ∨ (marker = "cb" ∧ ("Max" ++ otherLabel.logical).toList <+: label.logical.toList))
      ∧ (i < k ∨ ∃ earlier < j, ∃ z, (finalRoles params)[k]? = some (.head (some earlier) z)) := by
  have hapart := buffersAreNoCounts_of_countName hcountName
  obtain ⟨param, label', hparam, hlabel'⟩ := exists_label_of_finalRoles hapart hspent
  obtain rfl : other = param := Option.some.inj (hother.symm.trans hparam)
  obtain rfl := hsplits.unique (RawParam.label?_eq_some_iff.mp hlabel').2
  have hfree := (isLeast_of_finalRoles hapart hother hlabel' hspent).1
  obtain ⟨count, hcount, -, hname⟩ := hnamed.count
  constructor
  · obtain ⟨-, -, candidate, hcandidate, -, hfits⟩ := hfree
    obtain rfl : count = candidate := Option.some.inj (hcount.symm.trans hcandidate)
    rw [hcountName other (List.mem_of_getElem? hother), hname] at hfits
    exact prefix_of_countName hnamed.marker_mem (hfits.resolve_left nofun)
  · by_cases hik : i < k
    · exact .inl hik
    · right
      apply hnamed.exists_earlier_count hapart
      have hki : k ≠ i := by
        rintro rfl
        obtain ⟨buffer, hbuffer, -, hlabel⟩ := hnamed.buffer
        obtain rfl : other = buffer := Option.some.inj (hother.symm.trans hbuffer)
        exact hne (congrArg _ (hsplits.unique hlabel))
      rintro ⟨earlier, hearlier, hclaimed⟩
      exact hfree.unclaimed ⟨earlier, by omega, hclaimed⟩

/-- A count that is named for the second buffer and fits the first as well. -/
def nestedParams : List RawParam :=
  [⟨"pName", .pointerTo (.primitive .u8) true, none, none⟩,
   ⟨"pNameMax", .pointerTo (.primitive .u8) true, none, none⟩,
   ⟨"cbNameMax", .primitive .u32, none, some .u32⟩]

theorem isNamedFor_nestedParams : IsNamedFor nestedParams 2 1 "cb" ⟨"p", "NameMax"⟩ where
  marker_mem := by decide
  count := ⟨_, rfl, rfl, by decide⟩
  buffer := ⟨_, rfl, rfl, BufferLabel.ofName?_eq_some_iff.mp (by decide)⟩

theorem splits_pName : (⟨"p", "Name"⟩ : BufferLabel).Splits "pName" :=
  BufferLabel.ofName?_eq_some_iff.mp (by decide)

theorem spent_of_isNamedFor_nested :
    (∀ param ∈ nestedParams, param.countName = none)
      ∧ IsNamedFor nestedParams 2 1 "cb" ⟨"p", "NameMax"⟩
      ∧ (finalRoles nestedParams)[0]? = some (.head (some 2) false)
      ∧ ("Name".toList <+: "NameMax".toList
        ∨ ("cb" = "cbMax" ∧ "Name".toList <+: ("Max" ++ "NameMax").toList)
        ∨ ("cb" = "cb" ∧ ("Max" ++ "Name").toList <+: "NameMax".toList))
      ∧ (0 < 1 ∨ ∃ earlier < 2, ∃ z,
        (finalRoles nestedParams)[1]? = some (.head (some earlier) z)) := by
  have hcountName : ∀ param ∈ nestedParams, param.countName = none := by decide
  have hspent : (finalRoles nestedParams)[0]? = some (.head (some 2) false) := by decide
  have hwhere := spent_of_isNamedFor hcountName isNamedFor_nestedParams rfl splits_pName
    (by decide) hspent
  exact ⟨hcountName, isNamedFor_nestedParams, hspent, hwhere⟩

/-- The name alone does not keep a count for its buffer. -/
theorem not_forall_kept_of_isNamedFor :
    ¬ ∀ (params : List RawParam), (∀ param ∈ params, param.countName = none) →
      ∀ (j k : Nat) (marker : String) (label : BufferLabel), IsNamedFor params j k marker label →
        ∀ (i : Nat) (other : RawParam) (otherLabel : BufferLabel), i ≠ k →
          params[i]? = some other → other.type.isBuffer = true → otherLabel.Splits other.name →
          otherLabel.logical ≠ label.logical →
          ∀ z, (finalRoles params)[i]? ≠ some (.head (some j) z) := by
  intro h
  exact h nestedParams (by decide) 2 1 "cb" ⟨"p", "NameMax"⟩ isNamedFor_nestedParams 0 _
    ⟨"p", "Name"⟩ (by decide) rfl rfl splits_pName (by decide) false (by decide)

end AbiBridge
