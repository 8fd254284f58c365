import AbiBridge.Proofs.CType.Mentions
import AbiBridge.Proofs.Generate.Prune
import Mathlib.Data.List.Forall2

/-!
# Pruning as a least closure

The typedefs and structs that pruning removes are the least set that holds whatever mentions a
name left out before, or the name of an item of the set. No order of rounds is left in that
description. Each removed item is reported once, under its own name.
-/

namespace AbiBridge

variable {dropped : List String}

inductive Draft where
  | typedef (item : TypedefItem)
  | struct (item : StructItem)

namespace Draft

def name : Draft → String
  | typedef item => item.name
  | struct item => item.name

/-- The type of the typedef, or that of a field of the struct, mentions the name. -/
def Mentions : Draft → String → Prop
  | typedef item, name => item.type.Mentions name
  | struct item, name => ∃ field ∈ item.fields, field.type.Mentions name

def dropped? (dropped : List String) : Draft → Option String
  | typedef item => item.dropped? dropped
  | struct item => item.dropped? dropped

@[simp] theorem mentions_struct_iff {item : StructItem} {name : String} :
    (struct item).Mentions name ↔ name ∈ item.fieldNames := by
  simp [Mentions, StructItem.fieldNames, CType.mem_names_iff]

@[simp] theorem dropped?_eq_none_iff {draft : Draft} :
    draft.dropped? dropped = none ↔ ∀ name, draft.Mentions name → name ∉ dropped := by
  cases draft with
  | typedef item =>
    rw [dropped?, TypedefItem.dropped?_eq_none_iff]
    exact forall_congr' fun name => imp_congr_left CType.mem_names_iff
  | struct item =>
    rw [dropped?, StructItem.dropped?_eq_none_iff]
    exact forall_congr' fun name => imp_congr_left mentions_struct_iff.symm

theorem of_dropped?_eq_some {draft : Draft} {missing : String}
    (h : draft.dropped? dropped = some missing) :
    draft.Mentions missing ∧ missing ∈ dropped := by
  cases draft with
  | typedef item =>
    obtain ⟨hname, hmem⟩ := TypedefItem.mem_of_dropped?_eq_some h
    exact ⟨CType.mem_names_iff.mp hname, hmem⟩
  | struct item =>
    obtain ⟨hname, hmem⟩ := StructItem.mem_of_dropped?_eq_some h
    exact ⟨mentions_struct_iff.mpr hname, hmem⟩

/-- The issue reports the item, by its own name, for a left-out entity that it mentions. -/
def IsReportedBy (dropped : List String) (draft : Draft) (issue : EntityIssue) : Prop :=
  ∃ missing ∈ dropped, draft.Mentions missing
    ∧ issue = ⟨draft.name, .unresolvedName draft.name missing⟩

end Draft

def Method.Mentions (method : Method) (name : String) : Prop :=
  (∃ param ∈ method.params, param.type.Mentions name)
    ∨ ∃ result, method.result = some result ∧ result.Mentions name

theorem Method.mentions_iff {method : Method} {name : String} :
    method.Mentions name ↔ name ∈ method.paramNames ++ method.resultNames := by
  simp [Mentions, paramNames, resultNames, CType.mem_names_iff]

theorem Method.dropped?_eq_none_iff_not_mentions {method : Method} :
    method.dropped? dropped = none ↔ ¬ ∃ name ∈ dropped, method.Mentions name := by
  rw [Method.dropped?_eq_none_iff]
  constructor
  · rintro hnone ⟨name, hdropped, hname⟩
    exact hnone name (mentions_iff.mp hname) hdropped
  · intro hnone name hname hdropped
    exact hnone ⟨name, hdropped, mentions_iff.mpr hname⟩

section Items

variable {α : Type} {name : α → String} {dropped? : α → Option String}

theorem forall₂_unresolvedItems {report : α → EntityIssue → Prop}
    (h : ∀ item missing, dropped? item = some missing →
      report item ⟨name item, .unresolvedName (name item) missing⟩) (items : List α) :
    List.Forall₂ report (items.filter fun item => (dropped? item).isSome)
      (unresolvedItems name dropped? items) := by
  induction items with
  | nil => exact .nil
  | cons item items ih =>
    rw [unresolvedItems] at ih ⊢
    cases hitem : dropped? item with
    | none =>
      rw [List.filterMap_cons_none (by simp [hitem]), List.filter_cons_of_neg (by simp [hitem])]
      exact ih
    | some missing =>
      rw [List.filterMap_cons_some (by simp [hitem]; rfl),
        List.filter_cons_of_pos (by simp [hitem])]
      exact .cons (h item missing hitem) ih

end Items

namespace Survivors

def drafts (items : Survivors) : List Draft :=
  items.allTypedefs.map .typedef ++ items.allStructs.map .struct

theorem issues_eq_unresolvedItems (dropped : List String) (items : Survivors) :
    items.issues dropped = unresolvedItems Draft.name (Draft.dropped? dropped) items.drafts := by
  simp [issues, drafts, allTypedefs, allStructs, unresolvedItems, List.filterMap_map, Draft.name,
    Draft.dropped?]

@[simp] theorem drafts_retain (dropped : List String) (items : Survivors) :
    (items.retain dropped).drafts
      = items.drafts.filter fun draft => (draft.dropped? dropped).isNone := by
  simp [retain, drafts, allTypedefs, allStructs, List.filter_map, Function.comp_def,
    Draft.dropped?]

@[simp] theorem typedef_mem_drafts_iff {items : Survivors} {item : TypedefItem} :
    .typedef item ∈ items.drafts ↔ item ∈ items.allTypedefs := by
  simp [drafts]

@[simp] theorem struct_mem_drafts_iff {items : Survivors} {item : StructItem} :
    .struct item ∈ items.drafts ↔ item ∈ items.allStructs := by
  simp [drafts]

/-- What a round removes, together with what it leaves, are all items. -/
theorem perm_drafts_retain (dropped : List String) (items : Survivors) :
    ((items.drafts.filter fun draft => (draft.dropped? dropped).isSome)
      ++ (items.retain dropped).drafts).Perm items.drafts := by
  have hnone : (items.drafts.filter fun draft => (draft.dropped? dropped).isNone)
      = items.drafts.filter fun draft => !(draft.dropped? dropped).isSome :=
    List.filter_congr fun draft _ => (Option.not_isSome _).symm
  rw [drafts_retain, hnone]
  exact List.filter_append_perm _ _

end Survivors

/-- Every removed item is reported once: what is reported, together with what is left, are all
items. -/
theorem exists_removed (dropped : List String) (items : Survivors) :
    ∃ removed : List Draft,
      (removed ++ (prune dropped items).items.drafts).Perm items.drafts
      ∧ List.Forall₂ (Draft.IsReportedBy (prune dropped items).dropped) removed
          (prune dropped items).log := by
  fun_induction prune dropped items
  case case1 dropped items _ => exact ⟨[], List.Perm.refl _, .nil⟩
  case case2 dropped items issue issues hissues log rest ih =>
    obtain ⟨later, hperm, hreports⟩ := ih
    have hsubset : dropped ⊆ rest.dropped :=
      List.Subset.trans (List.subset_append_right _ _) (subset_prune_dropped _ _)
    have hnow : List.Forall₂ (Draft.IsReportedBy rest.dropped)
        (items.drafts.filter fun draft => (draft.dropped? dropped).isSome) log := by
      rw [show log = items.issues dropped from hissues.symm, items.issues_eq_unresolvedItems]
      refine forall₂_unresolvedItems (fun draft missing hmissing => ?_) _
      obtain ⟨hname, hmem⟩ := Draft.of_dropped?_eq_some hmissing
      exact ⟨missing, hsubset hmem, hname, rfl⟩
    refine ⟨_, ?_, List.rel_append hnow hreports⟩
    rw [List.append_assoc]
    exact (List.Perm.append_left _ hperm).trans (items.perm_drafts_retain dropped)

/-- An item is removed if it mentions a name that is left out before, or the name of an item that
is removed. -/
inductive Survivors.Removes (dropped : List String) (items : Survivors) : Draft → Prop where
  | initial {draft name} (hdraft : draft ∈ items.drafts) (hname : draft.Mentions name)
      (h : name ∈ dropped) : Removes dropped items draft
  | step {draft other} (hdraft : draft ∈ items.drafts) (hname : draft.Mentions other.name)
      (h : Removes dropped items other) : Removes dropped items draft

namespace Survivors

variable {items : Survivors} {draft : Draft}

theorem Removes.mem_drafts (h : items.Removes dropped draft) : draft ∈ items.drafts := by
  cases h with
  | initial hdraft | step hdraft => exact hdraft

/-- Whatever has an issue at the end has its name among those that are left out. -/
theorem name_mem_prune_dropped (hdraft : draft ∈ items.drafts)
    (hdropped : draft.dropped? (prune dropped items).dropped ≠ none) :
    draft.name ∈ (prune dropped items).dropped := by
  cases draft with
  | typedef item =>
    obtain ⟨issue, hissue, heq⟩ := exists_issue_typedef (typedef_mem_drafts_iff.mp hdraft) hdropped
    rw [Draft.name, ← heq]
    exact entity_mem_prune_dropped hissue
  | struct item =>
    obtain ⟨issue, hissue, heq⟩ := exists_issue_struct (struct_mem_drafts_iff.mp hdraft) hdropped
    rw [Draft.name, ← heq]
    exact entity_mem_prune_dropped hissue

theorem Removes.dropped?_ne_none (h : items.Removes dropped draft) :
    draft.dropped? (prune dropped items).dropped ≠ none := by
  have hmentions : ∀ {draft : Draft} {name : String}, draft.Mentions name →
      name ∈ (prune dropped items).dropped →
        draft.dropped? (prune dropped items).dropped ≠ none :=
    fun hname hmem hnone => Draft.dropped?_eq_none_iff.mp hnone _ hname hmem
  induction h with
  | initial _ hname h => exact hmentions hname (subset_prune_dropped _ _ h)
  | step _ hname h ih => exact hmentions hname (name_mem_prune_dropped h.mem_drafts ih)

/-- The names left out at the end are those left out before and those of the removed items. -/
theorem mem_prune_dropped_iff {name : String} :
    name ∈ (prune dropped items).dropped
      ↔ name ∈ dropped ∨ ∃ draft, items.Removes dropped draft ∧ draft.name = name := by
  constructor
  · have hclosed : ∀ draft ∈ items.drafts, ∀ n, draft.Mentions n →
        (n ∈ dropped ∨ ∃ other, items.Removes dropped other ∧ other.name = n) →
          draft.name ∈ dropped
            ∨ ∃ other, items.Removes dropped other ∧ other.name = draft.name := by
      rintro draft hdraft n hn (hdropped | ⟨other, hother, rfl⟩)
      · exact .inr ⟨draft, .initial hdraft hn hdropped, rfl⟩
      · exact .inr ⟨draft, .step hdraft hn hother, rfl⟩
    refine fun h => forall_mem_prune_dropped
      (P := fun n => n ∈ dropped ∨ ∃ other, items.Removes dropped other ∧ other.name = n)
      (fun n hn => .inl hn) ?_ ?_ name h
    · intro item hitem n hn
      exact hclosed _ (typedef_mem_drafts_iff.mpr hitem) n (CType.mem_names_iff.mp hn)
    · intro item hitem n hn
      exact hclosed _ (struct_mem_drafts_iff.mpr hitem) n (Draft.mentions_struct_iff.mpr hn)
  · rintro (h | ⟨draft, hdraft, rfl⟩)
    · exact subset_prune_dropped _ _ h
    · exact name_mem_prune_dropped hdraft.mem_drafts hdraft.dropped?_ne_none

theorem dropped?_eq_none_iff_not_removes (hdraft : draft ∈ items.drafts) :
    draft.dropped? (prune dropped items).dropped = none ↔ ¬ items.Removes dropped draft := by
  constructor
  · exact fun hnone hremoves => hremoves.dropped?_ne_none hnone
  · intro hkept
    rw [Draft.dropped?_eq_none_iff]
    intro name hname hmem
    rcases mem_prune_dropped_iff.mp hmem with hdropped | ⟨other, hother, rfl⟩
    · exact hkept (.initial hdraft hname hdropped)
    · exact hkept (.step hdraft hname hother)

end Survivors

section Classical

open Classical

/-- What a list of items keeps is what is not removed. -/
theorem filter_isNone_eq_filter_not_removes {α : Type} {items : Survivors} (toDraft : α → Draft)
    {list : List α} (hlist : ∀ item ∈ list, toDraft item ∈ items.drafts) :
    (list.filter fun item => ((toDraft item).dropped? (prune dropped items).dropped).isNone)
      = list.filter fun item => ¬ items.Removes dropped (toDraft item) := by
  refine List.filter_congr fun item hitem => ?_
  rw [Bool.eq_iff_iff, Option.isNone_iff_eq_none, decide_eq_true_iff]
  exact Survivors.dropped?_eq_none_iff_not_removes (hlist item hitem)

/-- The struct with the methods that mention no left-out entity. -/
theorem retainMethods_eq (dropped : List String) (item : StructItem) :
    item.retainMethods dropped
      = { item with methods := item.methods.filter fun method =>
            ¬ ∃ name ∈ dropped, method.Mentions name } := by
  have hmethods : (item.methods.filter fun method => (method.dropped? dropped).isNone)
      = item.methods.filter fun method => ¬ ∃ name ∈ dropped, method.Mentions name := by
    refine List.filter_congr fun method _ => ?_
    rw [Bool.eq_iff_iff, Option.isNone_iff_eq_none, decide_eq_true_iff]
    exact Method.dropped?_eq_none_iff_not_mentions
  rw [StructItem.retainMethods, hmethods]

/-- Pruning removes the least set of typedefs and structs that holds whatever mentions a name that
is left out before or the name of an item of the set, and keeps the others in their order. The
names that are left out at the end are those left out before and those of the removed items. A
struct that is kept loses the methods that mention one of them. Each removed item has one issue,
under its own name; all other issues are about methods of structs that are kept. -/
theorem pruneAll_least_closure (dropped : List String) (items : Survivors) :
    (pruneAll dropped items).items.extraTypedefs
        = items.extraTypedefs.filter (fun item => ¬ items.Removes dropped (.typedef item))
      ∧ (pruneAll dropped items).items.typedefs
        = items.typedefs.filter (fun item => ¬ items.Removes dropped (.typedef item))
      ∧ (pruneAll dropped items).items.callbackStructs
        = (items.callbackStructs.filter fun item => ¬ items.Removes dropped (.struct item)).map
            (fun item => { item with methods := item.methods.filter fun method =>
              ¬ ∃ name ∈ (pruneAll dropped items).dropped, method.Mentions name })
      ∧ (pruneAll dropped items).items.structs
        = (items.structs.filter fun item => ¬ items.Removes dropped (.struct item)).map
            (fun item => { item with methods := item.methods.filter fun method =>
              ¬ ∃ name ∈ (pruneAll dropped items).dropped, method.Mentions name })
      ∧ (∀ name, name ∈ (pruneAll dropped items).dropped
          ↔ name ∈ dropped ∨ ∃ draft, items.Removes dropped draft ∧ draft.name = name)
      ∧ ∃ removed log methodLog,
          removed.Perm (items.drafts.filter fun draft => items.Removes dropped draft)
          ∧ List.Forall₂ (Draft.IsReportedBy (pruneAll dropped items).dropped) removed log
          ∧ (pruneAll dropped items).log = log ++ methodLog
          ∧ ∀ issue ∈ methodLog, ∃ item ∈ items.allStructs, ¬ items.Removes dropped (.struct item)
            ∧ ∃ method ∈ item.methods, issue.entity = qualifiedName item.name method.flatName := by
  have hitems := prune_items dropped items
  have htypedefs : ∀ list : List TypedefItem, (∀ item ∈ list, item ∈ items.allTypedefs) →
      (list.filter fun item => (item.dropped? (prune dropped items).dropped).isNone)
        = list.filter fun item => ¬ items.Removes dropped (.typedef item) :=
    fun list hlist => filter_isNone_eq_filter_not_removes .typedef fun item hitem =>
      Survivors.typedef_mem_drafts_iff.mpr (hlist item hitem)
  have hstructs : ∀ list : List StructItem, (∀ item ∈ list, item ∈ items.allStructs) →
      (list.filter fun item => (item.dropped? (prune dropped items).dropped).isNone)
        = list.filter fun item => ¬ items.Removes dropped (.struct item) :=
    fun list hlist => filter_isNone_eq_filter_not_removes .struct fun item hitem =>
      Survivors.struct_mem_drafts_iff.mpr (hlist item hitem)
  have hmethods : (fun item : StructItem => item.retainMethods (prune dropped items).dropped)
      = fun item => { item with methods := item.methods.filter fun method =>
          ¬ ∃ name ∈ (prune dropped items).dropped, method.Mentions name } :=
    funext fun item => retainMethods_eq _ item
  have hextra := htypedefs items.extraTypedefs fun item hitem => List.mem_append_left _ hitem
  have hown := htypedefs items.typedefs fun item hitem => List.mem_append_right _ hitem
  have hpayloads := hstructs items.callbackStructs fun item hitem => List.mem_append_left _ hitem
  have hplain := hstructs items.structs fun item hitem => List.mem_append_right _ hitem
  refine ⟨?_, ?_, ?_, ?_, fun name => Survivors.mem_prune_dropped_iff, ?_⟩
  · rw [← hextra, pruneAll, hitems, Survivors.retain]
  · rw [← hown, pruneAll, hitems, Survivors.retain]
  · rw [← hpayloads, pruneAll, ← hmethods, hitems, Survivors.retain]
  · rw [← hplain, pruneAll, ← hmethods, hitems, Survivors.retain]
  · obtain ⟨removed, hperm, hreports⟩ := exists_removed dropped items
    refine ⟨removed, _, _, ?_, hreports, rfl, ?_⟩
    · -- What is left is what is not removed, so the rest of all items is what is removed.
      have hleft : (prune dropped items).items.drafts
          = items.drafts.filter fun draft => ¬ items.Removes dropped draft := by
        rw [hitems, Survivors.drafts_retain]
        exact filter_isNone_eq_filter_not_removes id fun draft hdraft => hdraft
      rw [hleft] at hperm
      have hall := List.filter_append_perm (fun draft => decide (items.Removes dropped draft))
        items.drafts
      simp only [decide_not] at hperm
      exact (List.perm_append_right_iff _).mp (hperm.trans hall.symm)
    · intro issue hissue
      obtain ⟨item, hitem, hmem⟩ := List.mem_flatMap.mp hissue
      obtain ⟨method, hmethod, missing, -, rfl⟩ := mem_unresolvedItems_iff.mp hmem
      rw [hitems] at hitem
      have hkept : Draft.struct item ∈ (items.retain (prune dropped items).dropped).drafts :=
        Survivors.struct_mem_drafts_iff.mpr hitem
      rw [Survivors.drafts_retain, List.mem_filter, Option.isNone_iff_eq_none] at hkept
      exact ⟨item, Survivors.struct_mem_drafts_iff.mp hkept.1,
        (Survivors.dropped?_eq_none_iff_not_removes hkept.1).mp hkept.2, method, hmethod, rfl⟩

end Classical

end AbiBridge
