import AbiBridge.Proofs.Generate.Closed
import AbiBridge.Proofs.Module.DecodingCases
import Mathlib.Data.List.Nodup

/-!
# The union of all callbacks

If the payloads of a descriptor have different names, the callbacks of a module are exactly
its payloads that carry a number, one callback for each. So the function that makes a variant
from bytes has one case for each of these numbers and no other.
-/

namespace AbiBridge

def StructItem.callback? (deny : List String) (item : StructItem) : Option Callback :=
  item.callbackId.map fun id => item.toCallback id deny

theorem StructItem.callback?_eq_some {deny : List String} {item : StructItem} {callback : Callback}
    (h : item.callback? deny = some callback) :
    callback.payload = item.name ∧ item.callbackId = some callback.id := by
  obtain ⟨id, hid, rfl⟩ := Option.map_eq_some_iff.mp h
  exact ⟨rfl, hid⟩

section Choice

variable {index : Index} {deny : List String} {taken : List (Int × String)}

def rejectedNames (outcomes : List CallbackOutcome) : List String :=
  (outcomes.filterMap (·.rejection?)).map (·.entity)

theorem rejectedNames_sublist (items : List StructItem) :
    (rejectedNames (decideFrom index deny taken items)).Sublist (items.map (·.name)) := by
  induction items generalizing taken with
  | nil => exact List.Sublist.refl _
  | cons item items ih =>
    have hlater : ∀ taken, (rejectedNames (decideFrom index deny taken items)).Sublist
        ((item :: items).map (·.name)) := fun taken => ih.cons _
    have hnow : ∀ issue, (rejectedNames (.rejected item.name issue
        :: decideFrom index deny taken items)).Sublist ((item :: items).map (·.name)) :=
      fun issue => ih.cons_cons _
    rw [decideFrom]
    split
    · exact hlater taken
    · split
      · exact hnow _
      · split
        · exact hnow _
        · exact hlater _

/-- The structs that carry a number and are not rejected are the payloads of the callbacks. -/
theorem filterMap_callback?_decideFrom {items : List StructItem}
    (hnames : (items.map (·.name)).Nodup) :
    (decideFrom index deny taken items).filterMap (·.callback?)
      = (items.filter fun item =>
          !(rejectedNames (decideFrom index deny taken items)).contains item.name).filterMap
            (·.callback? deny) := by
  induction items generalizing taken with
  | nil => rfl
  | cons item items ih =>
    obtain ⟨hnew, hrest⟩ := List.nodup_cons.mp hnames
    have hkept : ∀ taken, (rejectedNames (decideFrom index deny taken items)).contains item.name
        = false := by
      intro taken
      rw [List.contains_eq_mem, decide_eq_false_iff_not]
      exact fun hmem => hnew ((rejectedNames_sublist items).subset hmem)
    have hrejected : ∀ issue,
        (decideFrom index deny taken items).filterMap (·.callback?)
          = ((item :: items).filter fun other =>
              !(rejectedNames (.rejected item.name issue
                :: decideFrom index deny taken items)).contains other.name).filterMap
                  (·.callback? deny) := by
      intro issue
      have hhead : rejectedNames (.rejected item.name issue :: decideFrom index deny taken items)
          = item.name :: rejectedNames (decideFrom index deny taken items) := rfl
      rw [hhead, List.filter_cons_of_neg (by simp), ih hrest]
      congr 1
      refine List.filter_congr fun other hother => ?_
      have hne : other.name ≠ item.name := fun heq =>
        hnew (List.mem_map.mpr ⟨other, hother, heq⟩)
      simp [hne]
    rw [decideFrom]
    split
    · next hid =>
      rw [List.filter_cons_of_pos (by simpa using hkept taken), ih hrest]
      simp [StructItem.callback?, hid]
    · next id hid =>
      split
      · exact hrejected _
      · split
        · exact hrejected _
        · have hhead : rejectedNames (.accepted (item.toCallback id deny)
              :: decideFrom index deny ((id, item.name) :: taken) items)
                = rejectedNames (decideFrom index deny ((id, item.name) :: taken) items) := rfl
          have hcallback : item.callback? deny = some (item.toCallback id deny) := by
            simp [StructItem.callback?, hid]
          rw [hhead, List.filter_cons_of_pos (by simpa using hkept _),
            List.filterMap_cons_some hcallback, ← ih hrest]
          rfl

/-- A number is given away once, and never one that is taken. -/
theorem ids_decideFrom (items : List StructItem) :
    (∀ callback ∈ (decideFrom index deny taken items).filterMap (·.callback?),
        taken.lookup callback.id = none)
      ∧ (((decideFrom index deny taken items).filterMap (·.callback?)).map (·.id)).Nodup := by
  induction items generalizing taken with
  | nil => exact ⟨by simp [decideFrom], by simp [decideFrom]⟩
  | cons item items ih =>
    rw [decideFrom]
    split
    · exact ih
    · next id hid =>
      split
      · exact ih
      · next hfree =>
        split
        · exact ih
        · obtain ⟨hlookup, hnodup⟩ := @ih ((id, item.name) :: taken)
          have hlater : ∀ callback ∈ (decideFrom index deny ((id, item.name) :: taken) items).filterMap
              (·.callback?), callback.id ≠ id ∧ taken.lookup callback.id = none := by
            intro callback hcallback
            have h := hlookup callback hcallback
            rw [List.lookup_cons] at h
            split at h
            · cases h
            · next hne => exact ⟨by simpa using hne, h⟩
          refine ⟨?_, ?_⟩
          · intro callback hcallback
            rcases List.mem_cons.mp hcallback with rfl | hcallback
            · exact hfree
            · exact (hlater callback hcallback).2
          · refine List.nodup_cons.mpr ⟨?_, hnodup⟩
            intro hmem
            obtain ⟨callback, hcallback, heq⟩ := List.mem_map.mp hmem
            exact (hlater callback hcallback).1 heq

end Choice

@[simp] theorem callback?_retainMethods (deny dropped : List String) (item : StructItem) :
    (item.retainMethods dropped).callback? deny = item.callback? deny :=
  rfl

@[simp]
theorem Scope.callback?_finishStruct (scope : Scope) (deny : List String) (item : StructItem) :
    (scope.finishStruct item).callback? deny = item.callback? deny := by
  have hfields : ∀ id, (scope.finishStruct item).toCallback id deny = item.toCallback id deny := by
    intro id
    simp [finishStruct, StructItem.toCallback, Function.comp_def]
  exact congrArg (item.callbackId.map ·) (funext hfields)

/-- Of different names, those that a filter keeps are the names of the items that it keeps. -/
theorem any_name_filter {items : List StructItem} (hnames : (items.map (·.name)).Nodup)
    (keep : StructItem → Bool) {item : StructItem} (hitem : item ∈ items) :
    (items.filter keep).any (·.name == item.name) = keep item := by
  rw [Bool.eq_iff_iff, List.any_eq_true]
  constructor
  · rintro ⟨other, hother, heq⟩
    obtain ⟨hmem, hkeep⟩ := List.mem_filter.mp hother
    have hsame := List.inj_on_of_nodup_map hnames hmem hitem (beq_iff_eq.mp heq)
    rwa [hsame] at hkeep
  · intro hkeep
    exact ⟨item, List.mem_filter.mpr ⟨hitem, hkeep⟩, beq_self_eq_true _⟩

namespace Scope

def outcomes (scope : Scope) (config : Config) (api : Api) (layouts : Layouts) :
    List CallbackOutcome :=
  decideFrom scope.index config.shim.deny [] (scope.payloadStage config api layouts).made

variable {scope : Scope} {config : Config} {api : Api} {layouts : Layouts}

theorem nodup_payloadStage_names (hnames : ((config.includedCallbacks api).map (·.name)).Nodup) :
    ((scope.payloadStage config api layouts).made.map (·.name)).Nodup := by
  have hmade := (structItems_made_sublist scope layouts (scope.typedefStage config api).dropped
    (config.includedCallbacks api)).map (·.1)
  rw [List.map_map, List.map_map] at hmade
  exact hnames.sublist hmade

theorem nodup_drafts_names (hnames : ((config.includedCallbacks api).map (·.name)).Nodup) :
    ((scope.drafts config api layouts).items.callbackStructs.map (·.name)).Nodup :=
  (nodup_payloadStage_names hnames).sublist (List.filter_sublist.map _)

theorem drafts_callbacks (hnames : ((config.includedCallbacks api).map (·.name)).Nodup) :
    (scope.drafts config api layouts).callbacks
      = (scope.drafts config api layouts).items.callbackStructs.filterMap
          (·.callback? config.shim.deny) :=
  filterMap_callback?_decideFrom (nodup_payloadStage_names hnames)

end Scope

/-- Among items of different names, one that carries a number has one callback. -/
theorem filter_payload_filterMap {deny : List String} {items : List StructItem}
    (hnames : (items.map (·.name)).Nodup) {item : StructItem} (hitem : item ∈ items) {id : Int}
    (hid : item.callbackId = some id) :
    (items.filterMap (·.callback? deny)).filter (·.payload == item.name)
      = [item.toCallback id deny] := by
  have hcallback : item.callback? deny = some (item.toCallback id deny) := by
    simp [StructItem.callback?, hid]
  induction items with
  | nil => cases hitem
  | cons first items ih =>
    obtain ⟨hnew, hrest⟩ := List.nodup_cons.mp hnames
    rcases List.mem_cons.mp hitem with rfl | hitem
    · have hothers : (items.filterMap (·.callback? deny)).filter (·.payload == item.name) = [] := by
        refine List.filter_eq_nil_iff.mpr fun callback hmem heq => ?_
        obtain ⟨other, hother, hmade⟩ := List.mem_filterMap.mp hmem
        have hname := (StructItem.callback?_eq_some hmade).1.symm.trans (beq_iff_eq.mp heq)
        exact hnew (List.mem_map.mpr ⟨other, hother, hname⟩)
      rw [List.filterMap_cons_some hcallback, List.filter_cons_of_pos (by simp [StructItem.toCallback]),
        hothers]
    · have hne : first.name ≠ item.name := fun heq =>
        hnew (List.mem_map.mpr ⟨item, hitem, heq.symm⟩)
      cases hfirst : first.callback? deny with
      | none => rw [List.filterMap_cons_none hfirst, ih hrest hitem]
      | some callback =>
        have hpayload := (StructItem.callback?_eq_some hfirst).1
        rw [List.filterMap_cons_some hfirst, List.filter_cons_of_neg (by simpa [hpayload] using hne),
          ih hrest hitem]

namespace Scope

variable (scope : Scope) (config : Config) {api : Api} (reportA reportB : PlatformReport)

/-- The callbacks of a module are its payloads that carry a number. -/
theorem generate_callbacks (hnames : ((config.includedCallbacks api).map (·.name)).Nodup) :
    (scope.generate config api reportA reportB).bindings.callbacks
      = (scope.generate config api reportA reportB).bindings.callbackStructs.filterMap
          (·.callback? config.shim.deny) := by
  have hcallbacks : (scope.generate config api reportA reportB).bindings.callbacks
      = ((scope.drafts config api (layoutsOf config api reportA reportB)).items.callbackStructs.filterMap
          (·.callback? config.shim.deny)).filter fun callback =>
            ((scope.drafts config api
                (layoutsOf config api reportA reportB)).items.callbackStructs.filter
              fun item => (item.dropped? (scope.leftOut config api reportA reportB)).isNone).any
                (·.name == callback.payload) := by
    rw [← drafts_callbacks hnames]
    show List.filter (fun callback => (List.map _ (prune _ _).items.callbackStructs).any _) _ = _
    rw [prune_items]
    simp only [List.any_map]
    rfl
  rw [generate_callbackStructs, hcallbacks, List.map_map, List.filterMap_map, List.filter_filterMap,
    List.filterMap_filter]
  refine List.filterMap_congr fun item hitem => ?_
  have hkeep := any_name_filter (nodup_drafts_names hnames)
    (fun item => (item.dropped? (scope.leftOut config api reportA reportB)).isNone) hitem
  have hfinal : (scope.finishStruct (item.retainMethods
      (scope.leftOut config api reportA reportB))).callback? config.shim.deny
        = item.callback? config.shim.deny := by
    rw [callback?_finishStruct, callback?_retainMethods]
  rw [Function.comp_apply, Function.comp_apply, hfinal]
  cases hcallback : item.callback? config.shim.deny with
  | none => simp
  | some callback =>
    rw [Option.filter_some, (StructItem.callback?_eq_some hcallback).1, hkeep]

theorem nodup_callbackStructs_names (hnames : ((config.includedCallbacks api).map (·.name)).Nodup) :
    ((scope.generate config api reportA reportB).bindings.callbackStructs.map (·.name)).Nodup := by
  rw [generate_callbackStructs, List.map_map, List.map_map]
  exact (nodup_drafts_names hnames).sublist (List.filter_sublist.map _)

theorem nodup_callbacks_ids (api : Api) :
    ((scope.generate config api reportA reportB).bindings.callbacks.map (·.id)).Nodup :=
  (ids_decideFrom _).2.sublist (List.filter_sublist.map _)

end Scope

/-- The callbacks of a module and its payloads that carry a number belong to each other, one to
one, and the function that makes a variant from bytes has a case for the numbers of these
payloads only. The case of each callback is the first for its number. -/
theorem generate_callbacks_payloads {patterns : PatternLanguage} {config : Config} {api : Api}
    {reportA reportB : PlatformReport} {generated : Generated}
    (h : config.generate patterns api reportA reportB = .ok generated)
    (hnames : (api.callbackStructs.map (·.name)).Nodup) :
    (generated.bindings.callbacks.map (·.id)).Nodup
      ∧ (∀ callback ∈ generated.bindings.callbacks, ∃ item ∈ generated.bindings.callbackStructs,
          item.name = callback.payload ∧ item.callbackId = some callback.id)
      ∧ (∀ item ∈ generated.bindings.callbackStructs, ∀ id, item.callbackId = some id →
          ∃ callback, generated.bindings.callbacks.filter (·.payload == item.name) = [callback]
            ∧ callback.id = id)
      ∧ (∀ id, (generated.bindings.decodingCase? id).isSome
          ↔ ∃ item ∈ generated.bindings.callbackStructs, item.callbackId = some id)
      ∧ ∀ callback ∈ generated.bindings.callbacks,
          generated.bindings.decodingCase? callback.id = some (Bindings.decodeCase callback) := by
  obtain ⟨scope, -, rfl⟩ := Config.exists_scope_of_generate h
  have hincluded : ((config.includedCallbacks api).map (·.name)).Nodup :=
    hnames.sublist (List.filter_sublist.map _)
  have hids := scope.nodup_callbacks_ids config reportA reportB api
  have hcallbacks := scope.generate_callbacks config reportA reportB hincluded
  have hitems := scope.nodup_callbackStructs_names config reportA reportB hincluded
  generalize (scope.generate config api reportA reportB).bindings = bindings at *
  have hpayload : ∀ callback ∈ bindings.callbacks, ∃ item ∈ bindings.callbackStructs,
      item.name = callback.payload ∧ item.callbackId = some callback.id := by
    intro callback hcallback
    rw [hcallbacks] at hcallback
    obtain ⟨item, hitem, hmade⟩ := List.mem_filterMap.mp hcallback
    obtain ⟨hname, hid⟩ := StructItem.callback?_eq_some hmade
    exact ⟨item, hitem, hname.symm, hid⟩
  have hone : ∀ item ∈ bindings.callbackStructs, ∀ id, item.callbackId = some id →
      ∃ callback, bindings.callbacks.filter (·.payload == item.name) = [callback]
        ∧ callback.id = id := by
    intro item hitem id hid
    rw [hcallbacks]
    exact ⟨_, filter_payload_filterMap hitems hitem hid, rfl⟩
  have hcase : ∀ id, (bindings.decodingCase? id).isSome
      ↔ ∃ callback ∈ bindings.callbacks, callback.id = id := by
    intro id
    rw [Bindings.decodingCase?_eq, Option.isSome_map, List.find?_isSome]
    simp only [beq_iff_eq]
  refine ⟨hids, hpayload, hone, fun id => (hcase id).trans ⟨?_, ?_⟩, ?_⟩
  · rintro ⟨callback, hcallback, rfl⟩
    obtain ⟨item, hitem, -, hid⟩ := hpayload callback hcallback
    exact ⟨item, hitem, hid⟩
  · rintro ⟨item, hitem, hid⟩
    obtain ⟨callback, hfilter, heq⟩ := hone item hitem id hid
    have hmem : callback ∈ bindings.callbacks.filter (·.payload == item.name) := by
      rw [hfilter]
      exact List.mem_cons_self
    exact ⟨callback, (List.mem_filter.mp hmem).1, heq⟩
  · intro callback hcallback
    obtain ⟨found, hfound⟩ := Option.isSome_iff_exists.mp
      ((List.find?_isSome (p := fun other : Callback => other.id == callback.id)).mpr
        ⟨callback, hcallback, beq_self_eq_true _⟩)
    have hid : found.id = callback.id := by simpa using List.find?_some hfound
    have hsame : found = callback :=
      List.inj_on_of_nodup_map hids (List.mem_of_find?_eq_some hfound) hcallback hid
    rw [Bindings.decodingCase?_eq, hfound, hsame, Option.map_some]

/-- Payloads of which one carries a number that is taken, one has no number and one points to a
payload that is left out. -/
def unionApi : Api where
  callbackStructs := [
    { name := "Started_t", callbackId := some 101, fields := [⟨"m_nCount", "int"⟩] },
    { name := "Stopped_t", callbackId := some 101, fields := [⟨"m_nCount", "int"⟩] },
    { name := "Nested_t", fields := [⟨"m_nCount", "int"⟩] },
    { name := "Paused_t", callbackId := some 103, fields := [⟨"m_pLast", "Stopped_t *"⟩] }]

def unionReport : PlatformReport :=
  .ofList [("Started_t", ⟨4, 4, [⟨"m_nCount", 4, 4, some 0⟩]⟩),
    ("Stopped_t", ⟨4, 4, [⟨"m_nCount", 4, 4, some 0⟩]⟩),
    ("Nested_t", ⟨4, 4, [⟨"m_nCount", 4, 4, some 0⟩]⟩),
    ("Paused_t", ⟨8, 8, [⟨"m_pLast", 8, 8, some 0⟩]⟩)]

def unionConfig : Config where
  retypings := []

def unionScope : Scope where
  index := .ofApi unionApi .empty []
  resolver := .ofOverrides .empty
  retypers := []
  boolMarker := "m_b"
  skippedConstants := []

theorem generate_callbacks_payloads_rejected :
    ∃ generated, unionConfig.generate Pattern.language unionApi unionReport unionReport
        = .ok generated
      ∧ generated.bindings.callbackStructs.map (fun item => (item.name, item.callbackId))
          = [("Started_t", some 101), ("Nested_t", none)]
      ∧ (generated.bindings.callbacks.map (·.id)).Nodup
      ∧ (generated.bindings.decodingCase? 101).isSome
      ∧ ¬ (generated.bindings.decodingCase? 103).isSome := by
  have hgenerate : unionConfig.generate Pattern.language unionApi unionReport unionReport
      = .ok (unionScope.generate unionConfig unionApi unionReport unionReport) := rfl
  have hitems : (unionScope.generate unionConfig unionApi unionReport
      unionReport).bindings.callbackStructs.map (fun item => (item.name, item.callbackId))
        = [("Started_t", some 101), ("Nested_t", none)] := by decide +kernel
  obtain ⟨hids, -, -, hcase, -⟩ := generate_callbacks_payloads hgenerate (by decide)
  have hnumbers : ∀ id, (∃ item ∈ (unionScope.generate unionConfig unionApi unionReport
      unionReport).bindings.callbackStructs, item.callbackId = some id) ↔ id = 101 := by
    intro id
    have hsame : (∃ item ∈ (unionScope.generate unionConfig unionApi unionReport
        unionReport).bindings.callbackStructs, item.callbackId = some id)
          ↔ some id ∈ ((unionScope.generate unionConfig unionApi unionReport
            unionReport).bindings.callbackStructs.map
              (fun item => (item.name, item.callbackId))).map (·.2) := by simp
    rw [hsame, hitems]
    simp
  exact ⟨_, hgenerate, hitems, hids, (hcase 101).mpr ((hnumbers 101).mpr rfl),
    fun h => absurd ((hnumbers 103).mp ((hcase 103).mp h)) (by decide)⟩

end AbiBridge
