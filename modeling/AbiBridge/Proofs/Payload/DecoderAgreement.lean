import AbiBridge.Payload.Decode

/-!
# Agreement of the decoders

The record that is made at once and the one that is made field by field have the same bytes
in every field, as long as the table of fields lies inside the record.
-/

namespace AbiBridge

variable {buffer record : List UInt8} {span : FieldExtent}

@[simp] theorem length_leadingBytes (size : Nat) (buffer : List UInt8) :
    (leadingBytes size buffer).length = size := by
  rw [leadingBytes, List.rightpad, List.length_append, List.length_replicate, List.length_take]
  omega

theorem getElem?_leadingBytes {size i : Nat} (hi : i < size) (buffer : List UInt8) :
    (leadingBytes size buffer)[i]? = some (buffer[i]?.getD 0) := by
  rw [leadingBytes, List.rightpad, List.getElem?_append, List.length_take]
  by_cases hlength : i < buffer.length
  · rw [if_pos (by omega), List.getElem?_take_of_lt hi, List.getElem?_eq_getElem hlength]
    rfl
  · have hnone : buffer[i]? = none := List.getElem?_eq_none (by omega)
    rw [if_neg (by omega), hnone, List.getElem?_replicate, if_pos (by omega)]
    rfl

@[simp] theorem covers_iff {i : Nat} : span.covers i = true ↔ span.offset ≤ i ∧ i < span.stop := by
  rw [FieldExtent.covers, Bool.and_eq_true, decide_eq_true_eq, decide_eq_true_eq]

@[simp] theorem length_copy (span : FieldExtent) (buffer record : List UInt8) :
    (span.copy buffer record).length = record.length :=
  List.length_mapIdx

theorem getElem?_copy (span : FieldExtent) (buffer record : List UInt8) (i : Nat) :
    (span.copy buffer record)[i]?
      = record[i]?.map fun byte => if span.covers i then buffer[i]?.getD byte else byte := by
  rw [FieldExtent.copy, List.getElem?_mapIdx]

namespace Payload

variable {payload : Payload} {copied spans : List FieldExtent}

/-- The record has the bytes of the buffer in the given fields and zeros elsewhere. -/
structure HoldsFields (payload : Payload) (buffer : List UInt8) (copied : List FieldExtent)
    (record : List UInt8) : Prop where
  length_eq : record.length = payload.size
  getElem?_eq : ∀ i, i < payload.size →
    record[i]? = some (if copied.any (·.covers i) then buffer[i]?.getD 0 else 0)

theorem holdsFields_replicate (payload : Payload) (buffer : List UInt8) :
    payload.HoldsFields buffer [] (List.replicate payload.size 0) where
  length_eq := List.length_replicate
  getElem?_eq i hi := by
    rw [List.getElem?_replicate, if_pos hi]
    rfl

theorem copyField_eq_ok {record' : List UInt8}
    (h : payload.copyField buffer record span = .ok record') :
    span.stop ≤ buffer.length ∧ record' = span.copy buffer record := by
  rw [copyField] at h
  split at h
  · cases h
  · next hbuffer =>
    split at h
    · cases h
    · cases h
      exact ⟨by omega, rfl⟩

/-- Copying a field adds it to the fields that the record has. -/
theorem HoldsFields.copyField {record' : List UInt8}
    (hrecord : payload.HoldsFields buffer copied record)
    (hcopy : payload.copyField buffer record span = .ok record') :
    payload.HoldsFields buffer (copied ++ [span]) record' := by
  obtain ⟨hstop, rfl⟩ := copyField_eq_ok hcopy
  refine ⟨(length_copy span buffer record).trans hrecord.length_eq, fun i hi => ?_⟩
  rw [getElem?_copy, hrecord.getElem?_eq i hi, Option.map_some, List.any_append, List.any_cons,
    List.any_nil, Bool.or_false]
  cases hcovers : span.covers i with
  | false => rw [Bool.or_false, if_neg (by simp)]
  | true =>
    have hlength : i < buffer.length := by
      have hi := (covers_iff.mp hcovers).2
      omega
    rw [Bool.or_true, if_pos rfl, if_pos rfl, List.getElem?_eq_getElem hlength]
    rfl

/-- What copying all fields of a table leaves in the record. -/
theorem HoldsFields.foldlM {record' : List UInt8}
    (hrecord : payload.HoldsFields buffer copied record)
    (hcopy : spans.foldlM (payload.copyField buffer) record = .ok record') :
    payload.HoldsFields buffer (copied ++ spans) record' := by
  induction spans generalizing copied record with
  | nil =>
    cases hcopy
    rw [List.append_nil]
    exact hrecord
  | cons span spans ih =>
    rw [List.foldlM_cons] at hcopy
    cases hfirst : payload.copyField buffer record span with
    | error failure =>
      rw [hfirst] at hcopy
      cases hcopy
    | ok first =>
      rw [hfirst] at hcopy
      -- The invariant grows by the field that was copied.
      have hrest := ih (hrecord.copyField hfirst) hcopy
      rw [List.append_assoc] at hrest
      exact hrest

theorem holdsFields_checkedRecord (h : payload.checkedRecord buffer = .ok record) :
    payload.HoldsFields buffer payload.spans record :=
  (holdsFields_replicate payload buffer).foldlM h

theorem copyField_ne_outsideRecord (hspan : span.stop ≤ payload.size) (field : String) :
    payload.copyField buffer record span ≠ .error (.outsideRecord field) := by
  rw [copyField]
  split
  · intro heq
    cases heq
  · rw [if_neg (by omega)]
    intro heq
    cases heq

theorem foldlM_ne_outsideRecord (hspans : ∀ span ∈ spans, span.stop ≤ payload.size)
    (field : String) :
    spans.foldlM (payload.copyField buffer) record ≠ .error (.outsideRecord field) := by
  induction spans generalizing record with
  | nil =>
    intro heq
    cases heq
  | cons span spans ih =>
    rw [List.foldlM_cons]
    cases hfirst : payload.copyField buffer record span with
    | error failure =>
      intro heq
      cases heq
      exact copyField_ne_outsideRecord (hspans span List.mem_cons_self) field hfirst
    | ok first => exact ih fun span' hspan' => hspans span' (List.mem_cons_of_mem _ hspan')

theorem checkedRecord_ne_outsideRecord (hfits : payload.FitsTable) (field : String) :
    payload.checkedRecord buffer ≠ .error (.outsideRecord field) :=
  foldlM_ne_outsideRecord hfits field

/-- The two records have the same bytes in every field. -/
theorem fieldBytes_checkedRecord (hfits : payload.FitsTable)
    (h : payload.checkedRecord buffer = .ok record) :
    payload.fieldBytes record = payload.fieldBytes (payload.fastRecord buffer) := by
  have hrecord := holdsFields_checkedRecord h
  have hfast : (payload.fastRecord buffer).length = payload.size := length_leadingBytes _ _
  rw [fieldBytes, fieldBytes, hrecord.length_eq, hfast, List.flatMap_def, List.flatMap_def]
  congr 1
  refine List.map_congr_left fun span hspan => ?_
  have hstop := hfits span hspan
  rw [if_pos hstop, if_pos hstop]
  apply List.ext_getElem?
  intro i
  by_cases hi : i < span.size
  · have hlast : span.offset + i < span.stop := by
      rw [FieldExtent.stop]
      omega
    have hcovers : span.covers (span.offset + i) = true :=
      covers_iff.mpr ⟨Nat.le_add_right _ _, hlast⟩
    have hposition : span.offset + i < payload.size := Nat.lt_of_lt_of_le hlast hstop
    have hany : payload.spans.any (·.covers (span.offset + i)) = true :=
      List.any_eq_true.mpr ⟨span, hspan, hcovers⟩
    rw [List.getElem?_take_of_lt hi, List.getElem?_take_of_lt hi, List.getElem?_drop,
      List.getElem?_drop, hrecord.getElem?_eq _ hposition, if_pos hany, fastRecord,
      getElem?_leadingBytes hposition]
  · rw [List.getElem?_take, List.getElem?_take, if_neg hi, if_neg hi]

/-- The comparison of the two records comes to an end and finds no difference. -/
theorem validate_eq_ok (hfits : payload.FitsTable) (buffer : List UInt8) :
    ∃ report, payload.validate buffer = .ok report ∧ report.hasOtherBytes = false := by
  rw [validate]
  cases hchecked : payload.checkedRecord buffer with
  | ok record =>
    refine ⟨_, rfl, ?_⟩
    have hbytes := fieldBytes_checkedRecord hfits hchecked
    simp [report, DecodeComparison.hasOtherBytes, hbytes]
  | error failure =>
    cases failure with
    | truncated short => exact ⟨_, rfl, rfl⟩
    | outsideRecord field =>
      exact absurd hchecked (checkedRecord_ne_outsideRecord hfits field)

/-- A byte of the record that was made field by field is the byte of the other record if a
field covers it, and zero if not. -/
theorem getElem?_checkedRecord (h : payload.checkedRecord buffer = .ok record) {i : Nat}
    (hi : i < payload.size) :
    record[i]? = if payload.spans.any (·.covers i) then (payload.fastRecord buffer)[i]?
      else some 0 := by
  rw [(holdsFields_checkedRecord h).getElem?_eq i hi]
  by_cases hcovers : payload.spans.any (·.covers i) = true
  · rw [if_pos hcovers, if_pos hcovers, fastRecord, getElem?_leadingBytes hi]
  · rw [if_neg hcovers, if_neg hcovers]

/-- The two ways to decode a buffer agree when the fields of the table are inside the
record, in whatever order they come and however they overlap. -/
theorem decoders_agree (hfits : payload.FitsTable) (buffer : List UInt8) :
    (∃ warnings, payload.decode buffer = .ok ⟨payload.fastRecord buffer, warnings⟩) ∧
      (∀ field, payload.checkedRecord buffer ≠ .error (.outsideRecord field)) ∧
      (payload.fastRecord buffer).length = payload.size ∧
      (∀ i, i < payload.size →
        (payload.fastRecord buffer)[i]? = some (buffer[i]?.getD 0)) ∧
      (∀ record, payload.checkedRecord buffer = .ok record →
        record.length = payload.size ∧
          ∀ i, i < payload.size → record[i]?
            = if payload.spans.any (·.covers i) then (payload.fastRecord buffer)[i]?
              else some 0) ∧
      ∃ report, payload.validate buffer = .ok report ∧ report.hasOtherBytes = false := by
  obtain ⟨report, hreport, hbytes⟩ := validate_eq_ok hfits buffer
  have hdecode : payload.decode buffer
      = .ok ⟨payload.fastRecord buffer, report.warnings (payload.fastRecord buffer) buffer⟩ := by
    rw [decode, hreport]
    rfl
  refine ⟨⟨_, hdecode⟩, checkedRecord_ne_outsideRecord hfits, length_leadingBytes _ _,
    fun i hi => getElem?_leadingBytes hi buffer, fun record hrecord => ?_,
    report, hreport, hbytes⟩
  exact ⟨(holdsFields_checkedRecord hrecord).length_eq,
    fun i hi => getElem?_checkedRecord hrecord hi⟩

def ofBytes (id : Int) (name : String) (size : Nat) (spans : List FieldExtent) : Payload where
  id
  name
  size
  align := 1
  members := [⟨"bytes", 0, .array (.integer false 1) size⟩]
  spans

/-- A table that is out of order, has bytes in two fields and leaves bytes out. -/
def interleaved : Payload :=
  ofBytes 606 "Loose_t" 8 [⟨"late", 4, 3, some 4⟩, ⟨"early", 2, 2, none⟩, ⟨"overlap", 3, 3, some 1⟩]

theorem decoders_agree_interleaved :
    interleaved.FitsTable ∧
      interleaved.fastRecord [1, 2, 3, 4, 5, 6, 7, 8, 9] = [1, 2, 3, 4, 5, 6, 7, 8] ∧
      interleaved.checkedRecord [1, 2, 3, 4, 5, 6, 7, 8, 9] = .ok [0, 0, 3, 4, 5, 6, 7, 0] ∧
      ∃ report, interleaved.validate [1, 2, 3, 4, 5, 6, 7, 8, 9] = .ok report ∧
        report.hasOtherBytes = false :=
  have hfits : interleaved.FitsTable := by decide
  ⟨hfits, rfl, rfl,
    (decoders_agree hfits [1, 2, 3, 4, 5, 6, 7, 8, 9]).2.2.2.2.2⟩

end Payload

end AbiBridge
