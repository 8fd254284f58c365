import AbiBridge.Param.Role
import Mathlib.Data.List.Infix

/-!
# Taking names of buffers and counts apart

The marker of a buffer is what stands in front of the first capital of its name, so a name
can be taken apart in one way only. The markers of counts are ambiguous in one place: after
`cb`, a logical name may start with the `Max` that belongs to the marker `cbMax`.
-/

namespace AbiBridge

namespace BufferLabel

variable {name marker : String} {buffer other : BufferLabel}

/-- The name is a marker of buffers and a logical name that starts with a capital. -/
structure Splits (buffer : BufferLabel) (name : String) : Prop where
  marker_mem : buffer.marker ∈ markers
  name_eq : name = buffer.marker ++ buffer.logical
  capital : ∃ c cs, buffer.logical.toList = c :: cs ∧ c.isUpper = true

@[simp] theorem ofMarker?_eq_some_iff :
    ofMarker? name marker = some buffer
      ↔ buffer.marker = marker ∧ name = buffer.marker ++ buffer.logical
        ∧ ∃ c cs, buffer.logical.toList = c :: cs ∧ c.isUpper = true := by
  rw [ofMarker?]
  constructor
  · intro h
    split at h
    · next c cs hrest =>
      have hname := List.isPrefixOf?_eq_some_iff_append_eq.mp hrest
      split at h
      · next hupper =>
        cases h
        refine ⟨rfl, ?_, c, cs, String.toList_ofList, hupper⟩
        rw [← String.toList_inj, String.toList_append, String.toList_ofList, hname]
      · cases h
    · cases h
  · rintro ⟨rfl, rfl, c, cs, hlogical, hupper⟩
    have hrest : buffer.marker.toList.isPrefixOf? (buffer.marker ++ buffer.logical).toList
        = some (c :: cs) := by
      rw [List.isPrefixOf?_eq_some_iff_append_eq, String.toList_append, hlogical]
    rw [hrest]
    dsimp only
    rw [if_pos hupper, ← hlogical, String.ofList_toList]

theorem not_isUpper_of_mem_markers :
    ∀ marker ∈ markers, marker.toList.all (fun c => !c.isUpper) = true := by
  decide

theorem Splits.takeWhile_eq (h : buffer.Splits name) :
    name.toList.takeWhile (fun c => !c.isUpper) = buffer.marker.toList := by
  obtain ⟨c, cs, hlogical, hupper⟩ := h.capital
  rw [h.name_eq, String.toList_append, hlogical,
    List.takeWhile_append_of_pos
      (List.all_eq_true.mp (not_isUpper_of_mem_markers _ h.marker_mem))]
  simp [hupper]

theorem Splits.unique (h : buffer.Splits name) (h' : other.Splits name) : buffer = other := by
  have hmarker : buffer.marker = other.marker := by
    rw [← String.toList_inj, ← h.takeWhile_eq, h'.takeWhile_eq]
  have hlogical : buffer.logical = other.logical := by
    have hname := h.name_eq.symm.trans h'.name_eq
    rw [hmarker, ← String.toList_inj, String.toList_append, String.toList_append] at hname
    exact String.toList_inj.mp (List.append_cancel_left hname)
  cases buffer
  cases other
  exact congrArg₂ BufferLabel.mk hmarker hlogical

/-- The order of the markers does not matter: no name has two of them in front of a capital. -/
theorem ofName?_eq_some_iff : ofName? name = some buffer ↔ buffer.Splits name := by
  have sound : ∀ found, ofName? name = some found → found.Splits name := by
    intro found hfound
    obtain ⟨marker, hmem, hmarker⟩ := List.exists_of_findSome?_eq_some hfound
    obtain ⟨rfl, hname, hcapital⟩ := ofMarker?_eq_some_iff.mp hmarker
    exact ⟨hmem, hname, hcapital⟩
  constructor
  · exact sound buffer
  · intro h
    have hsome : (ofName? name).isSome = true := by
      rw [ofName?, List.findSome?_isSome_iff]
      refine ⟨buffer.marker, h.marker_mem, ?_⟩
      rw [ofMarker?_eq_some_iff.mpr ⟨rfl, h.name_eq, h.capital⟩, Option.isSome_some]
    obtain ⟨found, hfound⟩ := Option.isSome_iff_exists.mp hsome
    rw [hfound, (sound found hfound).unique h]

theorem isZeroTerminated_of_mem_markers :
    ∀ marker ∈ markers, decide ('z' ∈ marker.toList) = decide (marker = "psz") := by
  decide

theorem Splits.isZeroTerminated_eq (h : buffer.Splits name) :
    buffer.isZeroTerminated = decide (buffer.marker = "psz") :=
  isZeroTerminated_of_mem_markers _ h.marker_mem

end BufferLabel

variable {logical other candidate name : String}

@[simp] theorem namesCountOf_iff :
    namesCountOf logical candidate = true
      ↔ ∃ marker ∈ countMarkers, (marker ++ logical).toList <+: candidate.toList := by
  simp [namesCountOf]

theorem head?_of_mem_markers :
    ∀ marker ∈ BufferLabel.markers, marker.toList.head? = some 'p' := by
  decide

theorem head?_of_mem_countMarkers :
    ∀ marker ∈ countMarkers, marker.toList.head? = some 'n' ∨ marker.toList.head? = some 'c' := by
  decide

/-- No buffer has the name of a count. -/
theorem BufferLabel.Splits.namesCountOf_eq_false {buffer : BufferLabel}
    (h : buffer.Splits name) : namesCountOf logical name = false := by
  rw [Bool.eq_false_iff, Ne, namesCountOf_iff]
  rintro ⟨marker, hmarker, hprefix⟩
  have hbuffer := head?_of_mem_markers _ h.marker_mem
  have hcount := head?_of_mem_countMarkers _ hmarker
  obtain ⟨rest, hrest⟩ := hprefix
  have hhead := congrArg List.head? hrest
  simp only [h.name_eq, String.toList_append, List.head?_append, hbuffer] at hhead
  rcases hcount with hcount | hcount <;> simp [hcount] at hhead

theorem eq_or_of_prefix_countMarkers :
    ∀ marker ∈ countMarkers, ∀ longer ∈ countMarkers, marker.toList <+: longer.toList →
      marker = longer ∨ marker = "cb" ∧ longer = "cbMax" := by
  decide

/-- A name that counts the buffer `logical` exactly is also the name of a count of the buffer
`other` only if `other` starts `logical`, or the one marker is `cb` and the other `cbMax`. -/
theorem prefix_of_countName {marker : String} (hmarker : marker ∈ countMarkers)
    (h : namesCountOf other (marker ++ logical) = true) :
    other.toList <+: logical.toList
      ∨ (marker = "cbMax" ∧ other.toList <+: ("Max" ++ logical).toList)
      ∨ (marker = "cb" ∧ ("Max" ++ other).toList <+: logical.toList) := by
  obtain ⟨marker', hmarker', hprefix⟩ := namesCountOf_iff.mp h
  rw [String.toList_append, String.toList_append] at hprefix
  have hcompare := List.prefix_or_prefix_of_prefix ((List.prefix_append _ _).trans hprefix)
    (List.prefix_append marker.toList logical.toList)
  rcases hcompare with hcompare | hcompare
  · rcases eq_or_of_prefix_countMarkers _ hmarker' _ hmarker hcompare with rfl | ⟨rfl, rfl⟩
    · exact .inl ((List.prefix_append_right_inj _).mp hprefix)
    · refine .inr (.inl ⟨rfl, ?_⟩)
      rw [String.toList_append]
      exact (List.prefix_append_right_inj "cb".toList).mp hprefix
  · rcases eq_or_of_prefix_countMarkers _ hmarker _ hmarker' hcompare with rfl | ⟨rfl, rfl⟩
    · exact .inl ((List.prefix_append_right_inj _).mp hprefix)
    · refine .inr (.inr ⟨rfl, ?_⟩)
      rw [String.toList_append]
      exact (List.prefix_append_right_inj "cb".toList).mp hprefix

end AbiBridge
