import AbiBridge.Proofs.Generate.CallbackUnion
import AbiBridge.Proofs.Module.NumberCases

/-!
# Callbacks that share a variant

The variant of a callback is the name of its payload without a final `_t`, and no one looks
whether another callback has it already. Different payloads have one variant exactly if one of
their names is the other one with `_t`. The number of the later of two such callbacks is lost: the
variant that is made for it is given the number of the earlier.
-/

namespace AbiBridge

/-- The name is a variant as it is: it does not end in `_t`, or nothing else is left. -/
def KeepsName (payload : String) : Prop :=
  ∀ stem, payload = stem ++ "_t" → stem = ""

/-- One name is a variant as it is, and the other one is that with `_t`. -/
def Twins (first second : String) : Prop :=
  first ≠ "" ∧ KeepsName first ∧ second = first ++ "_t"
    ∨ second ≠ "" ∧ KeepsName second ∧ first = second ++ "_t"

theorem variantFor_append {stem : String} (hstem : stem ≠ "") : variantFor (stem ++ "_t") = stem := by
  have hsuffix : ['_', 't'].isSuffixOf? (stem ++ "_t").toList = some stem.toList := by
    rw [String.toList_append]
    exact List.isSuffixOf?_eq_some_iff_append_eq.mpr rfl
  rw [variantFor, hsuffix]
  cases hcs : stem.toList with
  | nil => exact absurd (String.toList_eq_nil_iff.mp hcs) hstem
  | cons c cs => exact (congrArg String.ofList hcs.symm).trans String.ofList_toList

theorem variantFor_of_keepsName {payload : String} (h : KeepsName payload) :
    variantFor payload = payload := by
  rw [variantFor]
  split
  · next c cs hsuffix =>
    have hpayload : payload = String.ofList (c :: cs) ++ "_t" := by
      apply String.toList_injective
      rw [String.toList_append, String.toList_ofList]
      exact (List.isSuffixOf?_eq_some_iff_append_eq.mp hsuffix).symm
    have hempty := congrArg String.toList (h _ hpayload)
    rw [String.toList_ofList] at hempty
    cases hempty
  · rfl

theorem keepsName_or_exists_stem (payload : String) :
    KeepsName payload ∨ ∃ stem, stem ≠ "" ∧ payload = stem ++ "_t" := by
  by_cases h : KeepsName payload
  · exact .inl h
  · obtain ⟨stem, hstem⟩ := not_forall.mp h
    exact .inr ⟨stem, (Classical.not_imp.mp hstem).symm⟩

theorem variantFor_eq_variantFor_iff {first second : String} (hne : first ≠ second) :
    variantFor first = variantFor second ↔ Twins first second := by
  constructor
  · intro h
    rcases keepsName_or_exists_stem first with hfirst | ⟨stem, hstem, hfirst⟩
    · rcases keepsName_or_exists_stem second with hsecond | ⟨stem, hstem, hsecond⟩
      · rw [variantFor_of_keepsName hfirst, variantFor_of_keepsName hsecond] at h
        exact absurd h hne
      · rw [variantFor_of_keepsName hfirst, hsecond, variantFor_append hstem] at h
        subst h
        exact .inl ⟨hstem, hfirst, hsecond⟩
    · rcases keepsName_or_exists_stem second with hsecond | ⟨other, hother, hsecond⟩
      · rw [hfirst, variantFor_append hstem, variantFor_of_keepsName hsecond] at h
        subst h
        exact .inr ⟨hstem, hsecond, hfirst⟩
      · rw [hfirst, hsecond, variantFor_append hstem, variantFor_append hother] at h
        exact absurd (by rw [hfirst, hsecond, h]) hne
  · rintro (⟨hfirst, hkeeps, rfl⟩ | ⟨hsecond, hkeeps, rfl⟩)
    · rw [variantFor_append hfirst, variantFor_of_keepsName hkeeps]
    · rw [variantFor_append hsecond, variantFor_of_keepsName hkeeps]

/-- Two callbacks share a variant exactly if their payloads do. -/
theorem pairwise_twins_chooseCallbacks {items : List StructItem} (index : Index)
    (deny : List String) (hnames : (items.map (·.name)).Nodup) :
    (chooseCallbacks items index deny).callbacks.Pairwise fun first second =>
      first.variant = second.variant ↔ Twins first.payload second.payload := by
  have hitems : items.Pairwise fun first second => first.name ≠ second.name :=
    List.pairwise_map.mp hnames
  rw [chooseCallbacks, filterMap_callback?_decideFrom hnames, List.pairwise_filterMap]
  apply (hitems.sublist List.filter_sublist).imp
  intro first second hne callback hcallback other hother
  obtain ⟨id, -, rfl⟩ := Option.map_eq_some_iff.mp hcallback
  obtain ⟨id, -, rfl⟩ := Option.map_eq_some_iff.mp hother
  exact variantFor_eq_variantFor_iff hne

namespace Bindings

variable {bindings : Bindings} {before after : List Callback} {callback : Callback}

theorem id_ne_of_mem_before (hids : (bindings.callbacks.map (·.id)).Nodup)
    (hsplit : bindings.callbacks = before ++ callback :: after) {earlier : Callback}
    (h : earlier ∈ before) : earlier.id ≠ callback.id := by
  rw [hsplit, List.map_append, List.map_cons] at hids
  exact (List.nodup_append.mp hids).2.2 _ (List.mem_map_of_mem h) _ List.mem_cons_self

theorem variantOf?_eq_some (hids : (bindings.callbacks.map (·.id)).Nodup)
    (hsplit : bindings.callbacks = before ++ callback :: after) :
    bindings.variantOf? callback.id = some callback.variant := by
  have hfind : bindings.callbacks.find? (·.id == callback.id) = some callback := by
    apply List.find?_eq_some_iff_append.mpr
    refine ⟨beq_self_eq_true _, before, after, hsplit, ?_⟩
    intro earlier hmem
    simpa using id_ne_of_mem_before hids hsplit hmem
  rw [variantOf?_eq, hfind, Option.map_some]

/-- The number of a callback comes back if no callback before it has its variant. -/
theorem numberOf?_eq_some_iff (hids : (bindings.callbacks.map (·.id)).Nodup)
    (hsplit : bindings.callbacks = before ++ callback :: after) :
    bindings.numberOf? callback.variant = some callback.id
      ↔ ∀ earlier ∈ before, earlier.variant ≠ callback.variant := by
  rw [numberOf?_eq, hsplit, List.find?_append]
  cases hfind : before.find? (·.variant == callback.variant) with
  | none =>
    have hnone : ∀ earlier ∈ before, earlier.variant ≠ callback.variant := by simpa using hfind
    simpa using hnone
  | some first =>
    have hmem : first ∈ before := List.mem_of_find?_eq_some hfind
    have hvariant : first.variant = callback.variant := by simpa using List.find?_some hfind
    have hid : first.id ≠ callback.id := id_ne_of_mem_before hids hsplit hmem
    have hnot : ¬ ∀ earlier ∈ before, earlier.variant ≠ callback.variant :=
      fun h => h first hmem hvariant
    simp [hid, hnot]

end Bindings

/-- The variants of callbacks are different but for payloads that share one, and the number of a
callback comes back from its variant unless an earlier payload shares that. -/
theorem chooseCallbacks_variants {items : List StructItem} (index : Index) (deny : List String)
    (hnames : (items.map (·.name)).Nodup) :
    ((chooseCallbacks items index deny).callbacks.Pairwise fun first second =>
        first.variant = second.variant ↔ Twins first.payload second.payload)
      ∧ ∀ bindings : Bindings, bindings.callbacks = (chooseCallbacks items index deny).callbacks →
        ∀ before callback after, bindings.callbacks = before ++ callback :: after →
          bindings.variantOf? callback.id = some callback.variant
            ∧ ((bindings.variantOf? callback.id).bind bindings.numberOf? = some callback.id
              ↔ ∀ earlier ∈ before, ¬ Twins earlier.payload callback.payload) := by
  have htwins := pairwise_twins_chooseCallbacks index deny hnames
  refine ⟨htwins, ?_⟩
  intro bindings hcallbacks before callback after hsplit
  have hids : (bindings.callbacks.map (·.id)).Nodup := by
    rw [hcallbacks]
    exact (ids_decideFrom items).2
  have hvariant := Bindings.variantOf?_eq_some hids hsplit
  have hearlier : ∀ earlier ∈ before,
      (earlier.variant = callback.variant ↔ Twins earlier.payload callback.payload) := by
    rw [← hcallbacks, hsplit, List.pairwise_append] at htwins
    exact fun earlier hmem => htwins.2.2 earlier hmem callback List.mem_cons_self
  refine ⟨hvariant, ?_⟩
  rw [hvariant, Option.bind_some, Bindings.numberOf?_eq_some_iff hids hsplit]
  exact forall₂_congr fun earlier hmem => not_congr (hearlier earlier hmem)

def bareItem (name : String) (id : Int) : StructItem where
  name
  layout := ⟨name, .literal 1, .literal 1, [], true, []⟩
  fields := []
  callbackId := some id

def callbackBindings (items : List StructItem) : Bindings :=
  ⟨[], [], [], [], [], [], [], [], (chooseCallbacks items .empty []).callbacks⟩

def startedItems : List StructItem :=
  [bareItem "Started_t" 101, bareItem "Stopped_t" 102]

theorem chooseCallbacks_variants_started :
    (startedItems.map (·.name)).Nodup
      ∧ ((callbackBindings startedItems).callbacks.map (·.variant)).Nodup
      ∧ ((callbackBindings startedItems).variantOf? 102).bind
          (callbackBindings startedItems).numberOf? = some 102 := by
  have hnames : (startedItems.map (·.name)).Nodup := by decide
  have htwins : ¬ Twins "Started_t" "Stopped_t" := fun h =>
    absurd ((variantFor_eq_variantFor_iff (by decide)).mpr h) (by decide +kernel)
  obtain ⟨hpairs, hback⟩ := chooseCallbacks_variants .empty [] hnames
  refine ⟨hnames, ?_, ?_⟩
  · have hpair := (List.pairwise_pair.mp hpairs).not.mpr htwins
    exact List.pairwise_map.mpr (List.pairwise_pair.mpr hpair)
  · have hnumber := (hback (callbackBindings startedItems) rfl
      [(bareItem "Started_t" 101).toCallback 101 []]
      ((bareItem "Stopped_t" 102).toCallback 102 []) [] rfl).2
    exact hnumber.mpr (List.forall_mem_singleton.mpr htwins)

def statusItems : List StructItem :=
  [bareItem "Status" 1, bareItem "Status_t" 2]

/-- The variants are not always different, and a number may be lost. -/
theorem chooseCallbacks_variants_shared :
    (statusItems.map (·.name)).Nodup
      ∧ ((chooseCallbacks statusItems .empty []).callbacks.map fun callback =>
          (callback.id, callback.variant)) = [(1, "Status"), (2, "Status")]
      ∧ (callbackBindings statusItems).variantOf? 2 = some "Status"
      ∧ (callbackBindings statusItems).numberOf? "Status" = some 1 := by
  rw [Bindings.variantOf?_eq, Bindings.numberOf?_eq]
  decide +kernel

end AbiBridge
