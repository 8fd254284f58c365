import AbiBridge.Proofs.Payload.DecoderAgreement

/-!
# What the comparison of the decoders says

The report on a buffer names the first field of the table that ends past the buffer, and has
the bytes of all fields in the order of the table. If the fields lie inside the record, nothing
but the length of the buffer decides whether there is something to warn of.
-/

namespace AbiBridge

/-- The bytes of a field in a buffer, zeros following the end of it. -/
def FieldExtent.bytesIn (span : FieldExtent) (buffer : List UInt8) : List UInt8 :=
  (List.range' span.offset span.size).map fun i => buffer[i]?.getD 0

variable {buffer record : List UInt8} {span : FieldExtent}

/-- A field that lies inside the record has there the bytes that it has in the buffer. -/
theorem take_drop_leadingBytes {size : Nat} (hspan : span.stop ≤ size) (buffer : List UInt8) :
    ((leadingBytes size buffer).drop span.offset).take span.size = span.bytesIn buffer := by
  rw [FieldExtent.stop] at hspan
  apply List.ext_getElem?
  intro i
  rw [FieldExtent.bytesIn, List.getElem?_map]
  by_cases hi : i < span.size
  · rw [List.getElem?_take_of_lt hi, List.getElem?_drop, getElem?_leadingBytes (by omega),
      List.getElem?_range' hi, Nat.one_mul, Option.map_some]
  · rw [List.getElem?_take, if_neg hi, List.getElem?_eq_none (by rw [List.length_range']; omega)]
    rfl

namespace Payload

variable {payload : Payload} {spans : List FieldExtent}

theorem fieldBytes_fastRecord (hfits : payload.FitsTable) (buffer : List UInt8) :
    payload.fieldBytes (payload.fastRecord buffer)
      = payload.spans.flatMap (·.bytesIn buffer) := by
  rw [fieldBytes, fastRecord, length_leadingBytes, List.flatMap_def, List.flatMap_def]
  congr 1
  refine List.map_congr_left fun span hspan => ?_
  rw [if_pos (hfits span hspan), take_drop_leadingBytes (hfits span hspan)]

def firstPast? (spans : List FieldExtent) (buffer : List UInt8) : Option FieldExtent :=
  spans.find? fun span => buffer.length < span.stop

/-- The field is the first of the table that ends past the buffer. -/
def IsFirstPast (payload : Payload) (buffer : List UInt8) (span : FieldExtent) : Prop :=
  buffer.length < span.stop ∧ ∃ before after, payload.spans = before ++ span :: after
    ∧ ∀ earlier ∈ before, earlier.stop ≤ buffer.length

theorem firstPast?_eq_some_iff :
    firstPast? payload.spans buffer = some span ↔ payload.IsFirstPast buffer span := by
  rw [firstPast?, List.find?_eq_some_iff_append, IsFirstPast]
  simp only [decide_eq_true_eq, Bool.not_eq_true', decide_eq_false_iff_not, Nat.not_lt]

@[simp] theorem isSome_firstPast?_iff :
    (firstPast? spans buffer).isSome = true ↔ ∃ span ∈ spans, buffer.length < span.stop := by
  rw [firstPast?, List.find?_isSome]
  simp only [decide_eq_true_eq]

/-- Where the buffer ends, if it ends before the field does. -/
def shortBuffer (payload : Payload) (buffer : List UInt8) (span : FieldExtent) : ShortBuffer :=
  ⟨payload.name, span.name, span.stop, buffer.length⟩

/-- Copying comes to the first field that ends past the buffer, and not beyond it. -/
theorem foldlM_copyField_eq_truncated (hspans : ∀ span ∈ spans, span.stop ≤ payload.size)
    (hfirst : firstPast? spans buffer = some span) :
    spans.foldlM (payload.copyField buffer) record
      = .error (.truncated (payload.shortBuffer buffer span)) := by
  induction spans generalizing record with
  | nil => cases hfirst
  | cons head spans ih =>
    rw [firstPast?, List.find?_cons] at hfirst
    rw [List.foldlM_cons, copyField]
    by_cases hpast : buffer.length < head.stop
    · rw [if_pos hpast]
      rw [decide_eq_true hpast] at hfirst
      cases hfirst
      rfl
    · have hhead := hspans head List.mem_cons_self
      rw [decide_eq_false hpast] at hfirst
      rw [if_neg hpast, if_neg (by omega)]
      exact ih (fun span hspan => hspans span (List.mem_cons_of_mem _ hspan)) hfirst

theorem exists_foldlM_copyField_eq_ok (hspans : ∀ span ∈ spans, span.stop ≤ payload.size)
    (hfirst : firstPast? spans buffer = none) (record : List UInt8) :
    ∃ record', spans.foldlM (payload.copyField buffer) record = .ok record' := by
  induction spans generalizing record with
  | nil => exact ⟨record, rfl⟩
  | cons head spans ih =>
    have hpast := List.find?_eq_none.mp hfirst
    have hhead : ¬ buffer.length < head.stop := by simpa using hpast head List.mem_cons_self
    have hinside := hspans head List.mem_cons_self
    rw [List.foldlM_cons, copyField, if_neg hhead, if_neg (by omega)]
    exact ih (fun span hspan => hspans span (List.mem_cons_of_mem _ hspan))
      (List.find?_eq_none.mpr fun span hspan => hpast span (List.mem_cons_of_mem _ hspan)) _

/-- The whole report on a buffer. -/
theorem validate_eq (hfits : payload.FitsTable) (buffer : List UInt8) :
    payload.validate buffer = .ok {
      payload := payload.name
      callbackId := payload.id
      expectedLength := payload.size
      actualLength := buffer.length
      truncated := (firstPast? payload.spans buffer).map (payload.shortBuffer buffer)
      fast := payload.spans.flatMap (·.bytesIn buffer)
      slow := if (firstPast? payload.spans buffer).isSome then []
        else payload.spans.flatMap (·.bytesIn buffer) } := by
  rw [validate]
  cases hfirst : firstPast? payload.spans buffer with
  | some span =>
    rw [checkedRecord, foldlM_copyField_eq_truncated hfits hfirst]
    simp only [report, fieldBytes_fastRecord hfits]
    rfl
  | none =>
    obtain ⟨record, hrecord⟩ :=
      exists_foldlM_copyField_eq_ok hfits hfirst (List.replicate payload.size 0)
    have hchecked : payload.checkedRecord buffer = .ok record := hrecord
    rw [hchecked]
    simp only [report, fieldBytes_checkedRecord hfits hchecked, fieldBytes_fastRecord hfits]
    rfl

end Payload

def DecodeComparison.shortWarning (report : DecodeComparison) (failure : ShortBuffer) : String :=
  "[vbind] callback " ++ toString report.callbackId ++ ": " ++ failure.message

/-- The report on a buffer says what there is to say of it, and no more. -/
structure DecodeComparison.IsExact (report : DecodeComparison) (payload : Payload)
    (buffer : List UInt8) : Prop where
  payload_eq : report.payload = payload.name ∧ report.callbackId = payload.id
  length_eq : report.expectedLength = payload.size ∧ report.actualLength = buffer.length
  truncated_iff : report.truncated ≠ none ↔ ∃ span ∈ payload.spans, buffer.length < span.stop
  truncated_eq : ∀ failure, report.truncated = some failure → ∃ span,
    payload.IsFirstPast buffer span
      ∧ failure = ⟨payload.name, span.name, span.stop, buffer.length⟩
  fast_eq : report.fast = payload.spans.flatMap (·.bytesIn buffer)
  slow_eq : report.slow = if report.truncated = none then report.fast else []
  isClean_iff : report.isClean = true ↔ buffer.length = payload.size

/-- The warnings are those that the report gives rise to, the one about a field that is cut off
before the other. -/
structure DecodeComparison.WarnsWith (report : DecodeComparison) (record buffer : List UInt8)
    (warnings : List String) : Prop where
  none_iff : warnings.length = 0 ↔ report.isClean = true
  one_iff : warnings.length = 1 ↔ report.isClean = false ∧ report.truncated = none
  two_iff : warnings.length = 2 ↔ report.truncated ≠ none
  of_truncated : ∀ failure, report.truncated = some failure →
    warnings = [report.shortWarning failure, report.dump record buffer]
  of_complete : report.isClean = false → report.truncated = none →
    warnings = [report.dump record buffer]

namespace DecodeComparison

variable {report : DecodeComparison}

theorem isClean_eq_false_of_truncated {failure : ShortBuffer}
    (h : report.truncated = some failure) : report.isClean = false := by
  rw [isClean, h, Option.isNone_some, Bool.and_false, Bool.false_and]

theorem warnsWith_warnings (report : DecodeComparison) (record buffer : List UInt8) :
    report.WarnsWith record buffer (report.warnings record buffer) := by
  cases htruncated : report.truncated with
  | some failure =>
    have hclean := isClean_eq_false_of_truncated htruncated
    have hwarnings : report.warnings record buffer
        = [report.shortWarning failure, report.dump record buffer] := by
      rw [warnings, hclean, htruncated]
      rfl
    constructor <;> simp [hwarnings, hclean, htruncated]
  | none =>
    cases hclean : report.isClean with
    | true =>
      have hwarnings : report.warnings record buffer = [] := by rw [warnings, if_pos hclean]
      constructor <;> simp [hwarnings, hclean, htruncated]
    | false =>
      have hwarnings : report.warnings record buffer = [report.dump record buffer] := by
        rw [warnings, hclean, htruncated]
        rfl
      constructor <;> simp [hwarnings, hclean, htruncated]

end DecodeComparison

namespace Payload

variable {payload : Payload}

/-- Of three conditions for a clean report the length decides: what ends past the buffer ends
past a buffer of the size of the record too, and no field does that. -/
theorem isExact_of_validate (hfits : payload.FitsTable) {buffer : List UInt8}
    {report : DecodeComparison} (h : payload.validate buffer = .ok report) :
    report.IsExact payload buffer := by
  rw [validate_eq hfits] at h
  cases h
  constructor
  case payload_eq => exact ⟨rfl, rfl⟩
  case length_eq => exact ⟨rfl, rfl⟩
  case truncated_iff =>
    rw [← isSome_firstPast?_iff, ← Option.isSome_iff_ne_none, Option.isSome_map]
  case truncated_eq =>
    intro failure hfailure
    obtain ⟨span, hspan, rfl⟩ := Option.map_eq_some_iff.mp hfailure
    exact ⟨span, firstPast?_eq_some_iff.mp hspan, rfl⟩
  case fast_eq => rfl
  case slow_eq => cases firstPast? payload.spans buffer <;> rfl
  case isClean_iff =>
    cases hfirst : firstPast? payload.spans buffer with
    | none =>
      simpa [DecodeComparison.isClean, DecodeComparison.hasOtherLength,
        DecodeComparison.hasOtherBytes] using eq_comm
    | some span =>
      obtain ⟨hpast, before, after, hspans, -⟩ := firstPast?_eq_some_iff.mp hfirst
      have hinside : span.stop ≤ payload.size := hfits span (hspans ▸ by simp)
      rw [DecodeComparison.isClean_eq_false_of_truncated rfl]
      simp only [Bool.false_eq_true, false_iff]
      omega

/-- Decoding comes to an end, with a report that is exact and the warnings that go with it. -/
theorem validate_isExact (hfits : payload.FitsTable) (buffer : List UInt8) :
    ∃ report decoded, payload.validate buffer = .ok report ∧ payload.decode buffer = .ok decoded
      ∧ report.IsExact payload buffer
      ∧ decoded.record = leadingBytes payload.size buffer
      ∧ report.WarnsWith decoded.record buffer decoded.warnings := by
  obtain ⟨report, hreport⟩ : ∃ report, payload.validate buffer = .ok report :=
    ⟨_, validate_eq hfits buffer⟩
  refine ⟨report, ⟨payload.fastRecord buffer, report.warnings (payload.fastRecord buffer) buffer⟩,
    hreport, ?_, isExact_of_validate hfits hreport, rfl, report.warnsWith_warnings _ buffer⟩
  rw [decode, hreport]
  rfl

/-- The first field of the table that is cut off has the greatest offset. -/
theorem validate_isExact_interleaved :
    interleaved.FitsTable
      ∧ ∃ report decoded, interleaved.validate [1, 2, 3, 4, 5] = .ok report
        ∧ interleaved.decode [1, 2, 3, 4, 5] = .ok decoded
        ∧ report.truncated = some ⟨"Loose_t", "late", 7, 5⟩
        ∧ report.fast = [5, 0, 0, 3, 4, 4, 5, 0] ∧ report.slow = []
        ∧ report.isClean = false ∧ decoded.warnings.length = 2 := by
  have hfits : interleaved.FitsTable := by decide
  obtain ⟨report, decoded, hreport, hdecoded, hexact, -, hwarnings⟩ :=
    validate_isExact hfits [1, 2, 3, 4, 5]
  have htruncated : report.truncated = some ⟨"Loose_t", "late", 7, 5⟩ := by
    cases hreport
    rfl
  have hslow : report.slow = [] := by rw [hexact.slow_eq, htruncated]; rfl
  refine ⟨hfits, report, decoded, hreport, hdecoded, htruncated, hexact.fast_eq, hslow, ?_, ?_⟩
  · rw [← Bool.not_eq_true, hexact.isClean_iff]
    decide
  · exact hwarnings.two_iff.mpr (by rw [htruncated]; nofun)

end Payload

end AbiBridge
