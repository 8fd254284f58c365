import Mathlib.Data.List.Forall2
import AbiBridge.Payload.Disagreement
import AbiBridge.Proofs.Payload.DecoderAgreement

/-!
# What the check against the native library finds

The check goes through the size and the alignment of the payload and then, field by field,
through those of its fields. What it finds is read off from these questions one by one, so it
finds every disagreement, each once and in that order.
-/

namespace AbiBridge

/-- A number about which the declaration and the native library can disagree. -/
inductive Aspect where
  | size
  | align
  | fieldSize (index : Nat)
  | fieldAlign (index : Nat)
  deriving DecidableEq, Repr

def Aspect.rank : Aspect → Nat
  | size => 0
  | align => 1
  | fieldSize index => 2 * index + 2
  | fieldAlign index => 2 * index + 3

namespace Payload

variable {payload : Payload} {shim : ShimAnswers} {aspect : Aspect} {span : FieldExtent}
  {index : Nat} {disagreement : Disagreement}

inductive Disagrees (payload : Payload) (shim : ShimAnswers) : Aspect → Disagreement → Prop
  | size (h : shim.size payload.id ≠ payload.size) :
      Disagrees payload shim .size (.size payload.name payload.size (shim.size payload.id))
  | align (h : shim.align payload.id ≠ payload.align) :
      Disagrees payload shim .align (.align payload.name payload.align (shim.align payload.id))
  | fieldSize {index : Nat} {span : FieldExtent} (hspan : payload.spans[index]? = some span)
      (h : shim.fieldSize payload.id index ≠ span.size) :
      Disagrees payload shim (.fieldSize index)
        (.fieldSize payload.name span.name span.size (shim.fieldSize payload.id index))
  | fieldAlign {index : Nat} {span : FieldExtent} {declared : Nat}
      (hspan : payload.spans[index]? = some span) (hdeclared : span.align = some declared)
      (h : shim.fieldAlign payload.id index ≠ declared) :
      Disagrees payload shim (.fieldAlign index)
        (.fieldAlign payload.name span.name declared (shim.fieldAlign payload.id index))

/-- The native library has the numbers of the declaration, as far as it declares them. -/
structure AgreesWith (payload : Payload) (shim : ShimAnswers) : Prop where
  size_eq : shim.size payload.id = payload.size
  align_eq : shim.align payload.id = payload.align
  fieldSize_eq : ∀ index span, payload.spans[index]? = some span →
    shim.fieldSize payload.id index = span.size
  fieldAlign_eq : ∀ index span declared, payload.spans[index]? = some span →
    span.align = some declared → shim.fieldAlign payload.id index = declared

theorem agreesWith_iff :
    payload.AgreesWith shim ↔ ∀ aspect disagreement, ¬ payload.Disagrees shim aspect disagreement := by
  constructor
  · rintro hagrees aspect disagreement (h | h | ⟨hspan, h⟩ | ⟨hspan, hdeclared, h⟩)
    · exact h hagrees.size_eq
    · exact h hagrees.align_eq
    · exact h (hagrees.fieldSize_eq _ _ hspan)
    · exact h (hagrees.fieldAlign_eq _ _ _ hspan hdeclared)
  · intro hnone
    constructor
    case size_eq => exact Decidable.byContradiction fun h => hnone _ _ (.size h)
    case align_eq => exact Decidable.byContradiction fun h => hnone _ _ (.align h)
    case fieldSize_eq =>
      exact fun _ _ hspan => Decidable.byContradiction fun h => hnone _ _ (.fieldSize hspan h)
    case fieldAlign_eq =>
      exact fun _ _ _ hspan hdeclared =>
        Decidable.byContradiction fun h => hnone _ _ (.fieldAlign hspan hdeclared h)

def aspects (payload : Payload) : List Aspect :=
  [.size, .align]
    ++ (List.range payload.spans.length).flatMap fun index => [.fieldSize index, .fieldAlign index]

def finding? (payload : Payload) (shim : ShimAnswers) : Aspect → Option Disagreement
  | .size =>
    (unlessEqual payload.size (shim.size payload.id)
      (.size payload.name payload.size (shim.size payload.id))).head?
  | .align =>
    (unlessEqual payload.align (shim.align payload.id)
      (.align payload.name payload.align (shim.align payload.id))).head?
  | .fieldSize index => do
    let span ← payload.spans[index]?
    let size := shim.fieldSize payload.id index
    (unlessEqual span.size size (.fieldSize payload.name span.name span.size size)).head?
  | .fieldAlign index => do
    let span ← payload.spans[index]?
    let declared ← span.align
    let align := shim.fieldAlign payload.id index
    (unlessEqual declared align (.fieldAlign payload.name span.name declared align)).head?

theorem head?_unlessEqual_eq_some_iff {declared native : Nat} {discrepancy : Disagreement} :
    (unlessEqual declared native discrepancy).head? = some disagreement
      ↔ native ≠ declared ∧ discrepancy = disagreement := by
  rw [unlessEqual]
  split <;> simp [*]

@[simp] theorem toList_head?_unlessEqual (declared native : Nat) (discrepancy : Disagreement) :
    (unlessEqual declared native discrepancy).head?.toList
      = unlessEqual declared native discrepancy := by
  rw [unlessEqual]
  split <;> rfl

theorem finding?_eq_some_iff :
    payload.finding? shim aspect = some disagreement
      ↔ payload.Disagrees shim aspect disagreement := by
  constructor
  · intro h
    cases aspect with
    | size =>
      obtain ⟨hne, rfl⟩ := head?_unlessEqual_eq_some_iff.mp h
      exact .size hne
    | align =>
      obtain ⟨hne, rfl⟩ := head?_unlessEqual_eq_some_iff.mp h
      exact .align hne
    | fieldSize index =>
      obtain ⟨span, hspan, h⟩ := Option.bind_eq_some_iff.mp h
      obtain ⟨hne, rfl⟩ := head?_unlessEqual_eq_some_iff.mp h
      exact .fieldSize hspan hne
    | fieldAlign index =>
      obtain ⟨span, hspan, h⟩ := Option.bind_eq_some_iff.mp h
      obtain ⟨declared, hdeclared, h⟩ := Option.bind_eq_some_iff.mp h
      obtain ⟨hne, rfl⟩ := head?_unlessEqual_eq_some_iff.mp h
      exact .fieldAlign hspan hdeclared hne
  · rintro (hne | hne | ⟨hspan, hne⟩ | ⟨hspan, hdeclared, hne⟩)
    · exact head?_unlessEqual_eq_some_iff.mpr ⟨hne, rfl⟩
    · exact head?_unlessEqual_eq_some_iff.mpr ⟨hne, rfl⟩
    · exact Option.bind_eq_some_iff.mpr
        ⟨_, hspan, head?_unlessEqual_eq_some_iff.mpr ⟨hne, rfl⟩⟩
    · exact Option.bind_eq_some_iff.mpr ⟨_, hspan, Option.bind_eq_some_iff.mpr
        ⟨_, hdeclared, head?_unlessEqual_eq_some_iff.mpr ⟨hne, rfl⟩⟩⟩

theorem filterMap_finding?_pair (first second : Aspect) :
    [first, second].filterMap (payload.finding? shim)
      = (payload.finding? shim first).toList ++ (payload.finding? shim second).toList := by
  rw [List.filterMap_cons, List.filterMap_cons, List.filterMap_nil]
  cases payload.finding? shim first <;> cases payload.finding? shim second <;> rfl

theorem checkWhole_eq :
    payload.checkWhole shim = [Aspect.size, .align].filterMap (payload.finding? shim) := by
  rw [filterMap_finding?_pair, finding?, finding?, toList_head?_unlessEqual,
    toList_head?_unlessEqual]
  rfl

theorem checkField_eq (hspan : payload.spans[index]? = some span) :
    payload.checkField shim span index
      = [Aspect.fieldSize index, .fieldAlign index].filterMap (payload.finding? shim) := by
  rw [filterMap_finding?_pair, finding?, finding?, hspan, checkField]
  congr 1
  · exact (toList_head?_unlessEqual ..).symm
  · cases halign : span.align with
    | none => simp [halign]
    | some declared =>
      simp only [bind, Option.bind_some, halign]
      exact (toList_head?_unlessEqual ..).symm

/-- The check asks about one aspect after the other. -/
theorem disagreements_eq_filterMap (hknown : shim.size payload.id ≠ 0) :
    payload.disagreements shim = payload.aspects.filterMap (payload.finding? shim) := by
  have hrange : List.range payload.spans.length = payload.spans.zipIdx.map Prod.snd := by
    rw [List.zipIdx_map_snd, List.range_eq_range']
  rw [disagreements, if_neg hknown, aspects, List.filterMap_append, ← checkWhole_eq, hrange,
    List.flatMap_map, List.filterMap_flatMap, List.flatMap_def, List.flatMap_def]
  congr 2
  exact List.map_congr_left fun (span, index) hmem =>
    checkField_eq (List.mk_mem_zipIdx_iff_getElem?.mp hmem)

theorem pairwise_rank_aspects (payload : Payload) :
    payload.aspects.Pairwise fun first second => first.rank < second.rank := by
  rw [aspects, List.pairwise_append]
  refine ⟨by simp [Aspect.rank], ?_, ?_⟩
  · refine List.pairwise_flatMap.mpr ⟨fun index _ => by simp [Aspect.rank], ?_⟩
    refine List.pairwise_lt_range.imp fun {earlier later} hlt => ?_
    simp only [List.mem_cons, List.not_mem_nil, or_false]
    rintro _ (rfl | rfl) _ (rfl | rfl) <;> simp only [Aspect.rank] <;> omega
  · simp only [List.mem_cons, List.not_mem_nil, or_false, List.mem_flatMap]
    rintro _ (rfl | rfl) _ ⟨index, -, rfl | rfl⟩ <;> simp only [Aspect.rank] <;> omega

/-- An aspect that disagrees is among those of the payload. -/
theorem Disagrees.mem_aspects (h : payload.Disagrees shim aspect disagreement) :
    aspect ∈ payload.aspects := by
  rw [aspects, List.mem_append, List.mem_flatMap]
  rcases h with _ | _ | ⟨hspan, -⟩ | ⟨hspan, -, -⟩
  · exact .inl (by simp)
  · exact .inl (by simp)
  all_goals
    obtain ⟨hlt, -⟩ := List.getElem?_eq_some_iff.mp hspan
    exact .inr ⟨_, List.mem_range.mpr hlt, by simp⟩

/-- The found disagreements belong to the aspects about which something is found. -/
theorem forall₂_disagrees (aspects : List Aspect) :
    List.Forall₂ (payload.Disagrees shim)
      (aspects.filter fun aspect => (payload.finding? shim aspect).isSome)
      (aspects.filterMap (payload.finding? shim)) := by
  induction aspects with
  | nil => exact .nil
  | cons aspect aspects ih =>
    rw [List.filter_cons, List.filterMap_cons]
    cases hfinding : payload.finding? shim aspect with
    | none => exact ih
    | some disagreement => exact .cons (finding?_eq_some_iff.mp hfinding) ih

/-- The found disagreements are all there are: one for each aspect that disagrees, in the order
of the aspects. -/
def FindsAll (payload : Payload) (shim : ShimAnswers) (found : List Disagreement) : Prop :=
  ∃ aspects : List Aspect, (aspects.Pairwise fun first second => first.rank < second.rank)
    ∧ (∀ aspect, aspect ∈ aspects ↔ ∃ disagreement, payload.Disagrees shim aspect disagreement)
    ∧ List.Forall₂ (payload.Disagrees shim) aspects found

theorem findsAll_disagreements (hknown : shim.size payload.id ≠ 0) :
    payload.FindsAll shim (payload.disagreements shim) := by
  rw [disagreements_eq_filterMap hknown]
  refine ⟨_, (pairwise_rank_aspects payload).filter _, fun aspect => ?_, forall₂_disagrees _⟩
  rw [List.mem_filter, Option.isSome_iff_exists]
  simp only [finding?_eq_some_iff]
  exact ⟨And.right, fun hfound => ⟨hfound.elim fun _ h => h.mem_aspects, hfound⟩⟩

theorem FindsAll.eq_nil_iff {found : List Disagreement} (h : payload.FindsAll shim found) :
    found = [] ↔ payload.AgreesWith shim := by
  obtain ⟨aspects, -, hmem, hfound⟩ := h
  rw [agreesWith_iff]
  constructor
  · rintro rfl aspect disagreement hdisagrees
    cases hfound
    exact List.not_mem_nil ((hmem aspect).mpr ⟨disagreement, hdisagrees⟩)
  · intro hnone
    cases hfound with
    | nil => rfl
    | cons hhead _ => exact absurd hhead (hnone _ _)

/-- An unknown payload is all that is found about it. Of a known one everything is found that
disagrees, and nothing if the numbers agree. -/
theorem disagreements_complete (payload : Payload) (shim : ShimAnswers) :
    (shim.size payload.id = 0 → payload.disagreements shim = [.unknown payload.name])
      ∧ (shim.size payload.id ≠ 0 →
          (payload.disagreements shim = [] ↔ payload.AgreesWith shim)
          ∧ payload.FindsAll shim (payload.disagreements shim)) := by
  refine ⟨fun hunknown => by rw [disagreements, if_pos hunknown], fun hknown => ?_⟩
  have hall := findsAll_disagreements hknown
  exact ⟨hall.eq_nil_iff, hall⟩

/-- A library that has a longer payload and another alignment of the last field. -/
def drifted : ShimAnswers where
  size _ := 12
  align _ := 1
  fieldSize _ index := [3, 2, 3].getD index 0
  fieldAlign _ index := [4, 1, 2].getD index 0

/-- Nothing is said about the second field, which has no declared alignment. -/
theorem disagreements_complete_drifted :
    drifted.size interleaved.id ≠ 0
      ∧ interleaved.disagreements drifted
        = [.size "Loose_t" 8 12, .fieldAlign "Loose_t" "overlap" 1 2]
      ∧ ¬ interleaved.AgreesWith drifted := by
  have hknown : drifted.size interleaved.id ≠ 0 := by decide
  have hfound : interleaved.disagreements drifted
      = [.size "Loose_t" 8 12, .fieldAlign "Loose_t" "overlap" 1 2] := by decide
  obtain ⟨hnil, -⟩ := (disagreements_complete interleaved drifted).2 hknown
  exact ⟨hknown, hfound, fun hagrees => absurd (hnil.mpr hagrees) (by rw [hfound]; nofun)⟩

end Payload

end AbiBridge
