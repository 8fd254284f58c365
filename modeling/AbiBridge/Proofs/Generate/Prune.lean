import AbiBridge.Generate.Prune

/-!
# What pruning leaves

The items that are left are those that name no entity of the final set of left-out
entities, and every other item has become part of that set.
-/

namespace AbiBridge

def StructItem.fieldNames (item : StructItem) : List String :=
  item.fields.flatMap (·.type.names)

def Method.paramNames (method : Method) : List String :=
  method.params.flatMap (·.type.names)

def Method.resultNames (method : Method) : List String :=
  method.result.toList.flatMap (·.names)

variable {dropped final : List String}

@[simp] theorem firstDropped?_eq_none_iff {type : CType} :
    firstDropped? dropped type = none ↔ ∀ name ∈ type.names, name ∉ dropped := by
  simp [firstDropped?]

@[simp] theorem TypedefItem.dropped?_eq_none_iff {item : TypedefItem} :
    item.dropped? dropped = none ↔ ∀ name ∈ item.type.names, name ∉ dropped :=
  firstDropped?_eq_none_iff

@[simp] theorem StructItem.dropped?_eq_none_iff {item : StructItem} :
    item.dropped? dropped = none ↔ ∀ name ∈ item.fieldNames, name ∉ dropped := by
  simp only [StructItem.dropped?, List.findSome?_eq_none_iff, firstDropped?_eq_none_iff,
    StructItem.fieldNames, List.mem_flatMap]
  constructor
  · rintro hfields name ⟨field, hfield, hname⟩
    exact hfields field hfield name hname
  · intro hnames field hfield name hname
    exact hnames name ⟨field, hfield, hname⟩

theorem mem_of_firstDropped?_eq_some {type : CType} {missing : String}
    (h : firstDropped? dropped type = some missing) : missing ∈ type.names ∧ missing ∈ dropped :=
  ⟨List.mem_of_find?_eq_some h, List.contains_iff_mem.mp (List.find?_some h)⟩

theorem TypedefItem.mem_of_dropped?_eq_some {item : TypedefItem} {missing : String}
    (h : item.dropped? dropped = some missing) : missing ∈ item.type.names ∧ missing ∈ dropped :=
  mem_of_firstDropped?_eq_some h

theorem StructItem.mem_of_dropped?_eq_some {item : StructItem} {missing : String}
    (h : item.dropped? dropped = some missing) : missing ∈ item.fieldNames ∧ missing ∈ dropped := by
  obtain ⟨field, hfield, hmissing⟩ := List.exists_of_findSome?_eq_some h
  obtain ⟨hname, hdropped⟩ := mem_of_firstDropped?_eq_some hmissing
  exact ⟨List.mem_flatMap.mpr ⟨field, hfield, hname⟩, hdropped⟩

@[simp] theorem Method.dropped?_eq_none_iff {method : Method} :
    method.dropped? dropped = none
      ↔ ∀ name ∈ method.paramNames ++ method.resultNames, name ∉ dropped := by
  have hnames : method.paramNames ++ method.resultNames
      = (method.params.map (·.type) ++ method.result.toList).flatMap (·.names) := by
    rw [List.flatMap_append, List.flatMap_map, Method.paramNames, Method.resultNames]
  rw [hnames, Method.dropped?]
  simp only [List.findSome?_eq_none_iff, firstDropped?_eq_none_iff, List.mem_flatMap]
  constructor
  · rintro htypes name ⟨type, htype, hname⟩
    exact htypes type htype name hname
  · intro hnames type htype name hname
    exact hnames name ⟨type, htype, hname⟩

section Rounds

variable {α : Type} {name : α → String} {dropped? : List String → α → Option String}

/-- An item that names nothing of a larger set names nothing of a smaller one. -/
def IsAntitone (dropped? : List String → α → Option String) : Prop :=
  ∀ (dropped final : List String) (item : α), dropped ⊆ final → dropped? final item = none →
    dropped? dropped item = none

theorem filter_filter_of_subset (hanti : IsAntitone dropped?) (hsubset : dropped ⊆ final)
    (items : List α) :
    (items.filter fun item => (dropped? dropped item).isNone).filter
        (fun item => (dropped? final item).isNone)
      = items.filter fun item => (dropped? final item).isNone := by
  rw [List.filter_filter]
  refine List.filter_congr fun item _ => ?_
  cases hfinal : dropped? final item with
  | some missing => rfl
  | none => simp [hanti dropped final item hsubset hfinal]

@[simp] theorem mem_unresolvedItems_iff {issue : EntityIssue} {items : List α} :
    issue ∈ unresolvedItems name (dropped? dropped) items
      ↔ ∃ item ∈ items, ∃ missing, dropped? dropped item = some missing
          ∧ ⟨name item, .unresolvedName (name item) missing⟩ = issue := by
  simp [unresolvedItems]

/-- Every issue of the final set is either one of this round or is still one after it. -/
def IsSplitBy (issues now later : List EntityIssue) : Prop :=
  ∀ issue ∈ issues, (∃ issue' ∈ now, issue'.entity = issue.entity) ∨ issue ∈ later

theorem IsSplitBy.append {left right now now' later later' : List EntityIssue}
    (hleft : IsSplitBy left now later) (hright : IsSplitBy right now' later') :
    IsSplitBy (left ++ right) (now ++ now') (later ++ later') := by
  intro issue hissue
  rcases List.mem_append.mp hissue with hissue | hissue
  · rcases hleft issue hissue with ⟨issue', hissue', heq⟩ | hlater
    · exact .inl ⟨issue', List.mem_append_left _ hissue', heq⟩
    · exact .inr (List.mem_append_left _ hlater)
  · rcases hright issue hissue with ⟨issue', hissue', heq⟩ | hlater
    · exact .inl ⟨issue', List.mem_append_right _ hissue', heq⟩
    · exact .inr (List.mem_append_right _ hlater)

theorem isSplitBy_unresolvedItems (name : α → String)
    (dropped? : List String → α → Option String) (dropped final : List String) (items : List α) :
    IsSplitBy (unresolvedItems name (dropped? final) items)
      (unresolvedItems name (dropped? dropped) items)
      (unresolvedItems name (dropped? final)
        (items.filter fun item => (dropped? dropped item).isNone)) := by
  intro issue hissue
  obtain ⟨item, hitem, missing, hmissing, rfl⟩ := mem_unresolvedItems_iff.mp hissue
  cases hnow : dropped? dropped item with
  | some missing' =>
    exact .inl ⟨_, mem_unresolvedItems_iff.mpr ⟨item, hitem, missing', hnow, rfl⟩, rfl⟩
  | none =>
    have hleft : item ∈ items.filter fun item => (dropped? dropped item).isNone :=
      List.mem_filter.mpr ⟨hitem, by simp [hnow]⟩
    exact .inr (mem_unresolvedItems_iff.mpr ⟨item, hleft, missing, hmissing, rfl⟩)

theorem filter_eq_self_of_unresolvedItems_eq_nil {items : List α}
    (h : unresolvedItems name (dropped? dropped) items = []) :
    (items.filter fun item => (dropped? dropped item).isNone) = items := by
  refine List.filter_eq_self.mpr fun item hitem => ?_
  cases hnow : dropped? dropped item with
  | none => rfl
  | some missing =>
    have hissue : ⟨name item, .unresolvedName (name item) missing⟩
        ∈ unresolvedItems name (dropped? dropped) items :=
      mem_unresolvedItems_iff.mpr ⟨item, hitem, missing, hnow, rfl⟩
    rw [h] at hissue
    cases hissue

end Rounds

theorem TypedefItem.isAntitone_dropped? : IsAntitone TypedefItem.dropped? := by
  intro dropped final item hsubset hfinal
  rw [TypedefItem.dropped?_eq_none_iff] at hfinal ⊢
  exact fun name hname hdropped => hfinal name hname (hsubset hdropped)

theorem StructItem.isAntitone_dropped? : IsAntitone StructItem.dropped? := by
  intro dropped final item hsubset hfinal
  rw [StructItem.dropped?_eq_none_iff] at hfinal ⊢
  exact fun name hname hdropped => hfinal name hname (hsubset hdropped)

namespace Survivors

theorem retain_retain (hsubset : dropped ⊆ final) (items : Survivors) :
    (items.retain dropped).retain final = items.retain final := by
  simp only [retain, filter_filter_of_subset TypedefItem.isAntitone_dropped? hsubset,
    filter_filter_of_subset StructItem.isAntitone_dropped? hsubset]

theorem retain_eq_self {items : Survivors} (h : items.issues dropped = []) :
    items.retain dropped = items := by
  simp only [issues, List.append_eq_nil_iff] at h
  obtain ⟨⟨⟨hextra, htypedefs⟩, hpayloads⟩, hstructs⟩ := h
  rw [retain, filter_eq_self_of_unresolvedItems_eq_nil hextra,
    filter_eq_self_of_unresolvedItems_eq_nil htypedefs,
    filter_eq_self_of_unresolvedItems_eq_nil hpayloads,
    filter_eq_self_of_unresolvedItems_eq_nil hstructs]

theorem isSplitBy_issues (dropped final : List String) (items : Survivors) :
    IsSplitBy (items.issues final) (items.issues dropped)
      ((items.retain dropped).issues final) := by
  have htypedefs := isSplitBy_unresolvedItems (·.name) TypedefItem.dropped? dropped final
  have hstructs := isSplitBy_unresolvedItems (·.name) StructItem.dropped? dropped final
  exact (((htypedefs items.extraTypedefs).append (htypedefs items.typedefs)).append
    (hstructs items.callbackStructs)).append (hstructs items.structs)

end Survivors

theorem subset_prune_dropped (dropped : List String) (items : Survivors) :
    dropped ⊆ (prune dropped items).dropped := by
  fun_induction prune dropped items
  case case1 => exact List.Subset.refl _
  case case2 dropped items issue issues _ log rest ih =>
    exact List.Subset.trans (List.subset_append_right _ _) ih

theorem prune_items (dropped : List String) (items : Survivors) :
    (prune dropped items).items = items.retain (prune dropped items).dropped := by
  fun_induction prune dropped items
  case case1 dropped items hnone => exact (Survivors.retain_eq_self hnone).symm
  case case2 dropped items issue issues _ log rest ih =>
    have hsubset : dropped ⊆ rest.dropped :=
      List.Subset.trans (List.subset_append_right _ _) (subset_prune_dropped _ _)
    -- The final set contains that of the round, so the filters of all rounds are one.
    rw [show rest.items = _ from ih, Survivors.retain_retain hsubset]

/-- Whatever names an entity of the final set belongs to that set itself. -/
theorem entity_mem_prune_dropped {dropped : List String} {items : Survivors} {issue : EntityIssue}
    (h : issue ∈ items.issues (prune dropped items).dropped) :
    issue.entity ∈ (prune dropped items).dropped := by
  fun_induction prune dropped items
  case case1 dropped items hnone =>
    rw [hnone] at h
    cases h
  case case2 dropped items issue' issues hsome log rest ih =>
    rcases Survivors.isSplitBy_issues dropped _ items _ h with ⟨issue'', hissue'', heq⟩ | h
    · have hlog : issue''.entity ∈ log.map (·.entity) ++ dropped := by
        rw [hsome] at hissue''
        exact List.mem_append_left _ (List.mem_map_of_mem hissue'')
      rw [← heq]
      exact subset_prune_dropped _ _ hlog
    · exact ih h

def Survivors.allTypedefs (items : Survivors) : List TypedefItem :=
  items.extraTypedefs ++ items.typedefs

def Survivors.allStructs (items : Survivors) : List StructItem :=
  items.callbackStructs ++ items.structs

theorem Survivors.exists_issue_typedef {items : Survivors} {item : TypedefItem}
    (hitem : item ∈ items.allTypedefs) (hdropped : item.dropped? dropped ≠ none) :
    ∃ issue ∈ items.issues dropped, issue.entity = item.name := by
  obtain ⟨missing, hmissing⟩ := Option.ne_none_iff_exists'.mp hdropped
  refine ⟨⟨item.name, .unresolvedName item.name missing⟩, ?_, rfl⟩
  simp only [issues, List.mem_append]
  rcases List.mem_append.mp hitem with hitem | hitem
  · exact .inl (.inl (.inl (mem_unresolvedItems_iff.mpr ⟨item, hitem, missing, hmissing, rfl⟩)))
  · exact .inl (.inl (.inr (mem_unresolvedItems_iff.mpr ⟨item, hitem, missing, hmissing, rfl⟩)))

theorem Survivors.exists_issue_struct {items : Survivors} {item : StructItem}
    (hitem : item ∈ items.allStructs) (hdropped : item.dropped? dropped ≠ none) :
    ∃ issue ∈ items.issues dropped, issue.entity = item.name := by
  obtain ⟨missing, hmissing⟩ := Option.ne_none_iff_exists'.mp hdropped
  refine ⟨⟨item.name, .unresolvedName item.name missing⟩, ?_, rfl⟩
  simp only [issues, List.mem_append]
  rcases List.mem_append.mp hitem with hitem | hitem
  · exact .inl (.inr (mem_unresolvedItems_iff.mpr ⟨item, hitem, missing, hmissing, rfl⟩))
  · exact .inr (mem_unresolvedItems_iff.mpr ⟨item, hitem, missing, hmissing, rfl⟩)

/-- Whoever has an issue names something that was left out. -/
theorem Survivors.exists_of_mem_issues {items : Survivors} {issue : EntityIssue}
    (h : issue ∈ items.issues dropped) :
    (∃ item ∈ items.allTypedefs, item.name = issue.entity ∧ ∃ n ∈ item.type.names, n ∈ dropped)
      ∨ ∃ item ∈ items.allStructs, item.name = issue.entity ∧ ∃ n ∈ item.fieldNames, n ∈ dropped := by
  have htypedef : ∀ typedefs : List TypedefItem,
      issue ∈ unresolvedItems (·.name) (TypedefItem.dropped? dropped) typedefs →
        ∃ item ∈ typedefs, item.name = issue.entity ∧ ∃ n ∈ item.type.names, n ∈ dropped := by
    intro typedefs hissue
    obtain ⟨item, hitem, missing, hmissing, rfl⟩ := mem_unresolvedItems_iff.mp hissue
    exact ⟨item, hitem, rfl, missing, TypedefItem.mem_of_dropped?_eq_some hmissing⟩
  have hstruct : ∀ structs : List StructItem,
      issue ∈ unresolvedItems (·.name) (StructItem.dropped? dropped) structs →
        ∃ item ∈ structs, item.name = issue.entity ∧ ∃ n ∈ item.fieldNames, n ∈ dropped := by
    intro structs hissue
    obtain ⟨item, hitem, missing, hmissing, rfl⟩ := mem_unresolvedItems_iff.mp hissue
    exact ⟨item, hitem, rfl, missing, StructItem.mem_of_dropped?_eq_some hmissing⟩
  rw [issues, List.mem_append, List.mem_append, List.mem_append] at h
  rcases h with ((h | h) | h) | h
  · obtain ⟨item, hitem, hfacts⟩ := htypedef _ h
    exact .inl ⟨item, List.mem_append_left _ hitem, hfacts⟩
  · obtain ⟨item, hitem, hfacts⟩ := htypedef _ h
    exact .inl ⟨item, List.mem_append_right _ hitem, hfacts⟩
  · obtain ⟨item, hitem, hfacts⟩ := hstruct _ h
    exact .inr ⟨item, List.mem_append_left _ hitem, hfacts⟩
  · obtain ⟨item, hitem, hfacts⟩ := hstruct _ h
    exact .inr ⟨item, List.mem_append_right _ hitem, hfacts⟩

theorem Survivors.retain_allTypedefs_subset (dropped : List String) (items : Survivors) :
    (items.retain dropped).allTypedefs ⊆ items.allTypedefs := by
  simp only [retain, allTypedefs, ← List.filter_append]
  exact List.filter_sublist.subset

theorem Survivors.retain_allStructs_subset (dropped : List String) (items : Survivors) :
    (items.retain dropped).allStructs ⊆ items.allStructs := by
  simp only [retain, allStructs, ← List.filter_append]
  exact List.filter_sublist.subset

/-- What holds of the names that are left out first, and of every item that names one of which
it holds, holds of all names that are left out. -/
theorem forall_mem_prune_dropped {P : String → Prop} {dropped : List String} {items : Survivors}
    (hdropped : ∀ n ∈ dropped, P n)
    (htypedefs : ∀ item ∈ items.allTypedefs, ∀ n ∈ item.type.names, P n → P item.name)
    (hstructs : ∀ item ∈ items.allStructs, ∀ n ∈ item.fieldNames, P n → P item.name) :
    ∀ n ∈ (prune dropped items).dropped, P n := by
  fun_induction prune dropped items
  case case1 => exact hdropped
  case case2 dropped items issue issues hissues log rest ih =>
    have hround : ∀ n ∈ log.map (·.entity) ++ dropped, P n := by
      intro n hn
      rcases List.mem_append.mp hn with hn | hn
      · obtain ⟨found, hfound, rfl⟩ := List.mem_map.mp hn
        have hfound : found ∈ items.issues dropped := hissues ▸ hfound
        rcases Survivors.exists_of_mem_issues hfound with
          ⟨item, hitem, heq, n, hn, hleft⟩ | ⟨item, hitem, heq, n, hn, hleft⟩
        · rw [← heq]
          exact htypedefs item hitem n hn (hdropped n hleft)
        · rw [← heq]
          exact hstructs item hitem n hn (hdropped n hleft)
      · exact hdropped n hn
    exact ih hround
      (fun item hitem => htypedefs item (items.retain_allTypedefs_subset dropped hitem))
      (fun item hitem => hstructs item (items.retain_allStructs_subset dropped hitem))

section All

variable {items : Survivors}

theorem subset_pruneAll_dropped (dropped : List String) (items : Survivors) :
    dropped ⊆ (pruneAll dropped items).dropped :=
  subset_prune_dropped dropped items

theorem pruneAll_allTypedefs (dropped : List String) (items : Survivors) :
    (pruneAll dropped items).items.allTypedefs = items.allTypedefs.filter fun item =>
      (item.dropped? (pruneAll dropped items).dropped).isNone := by
  simp only [pruneAll, Survivors.allTypedefs, prune_items, Survivors.retain, List.filter_append]

theorem pruneAll_allStructs (dropped : List String) (items : Survivors) :
    (pruneAll dropped items).items.allStructs
      = (items.allStructs.filter fun item =>
          (item.dropped? (pruneAll dropped items).dropped).isNone).map
            (·.retainMethods (pruneAll dropped items).dropped) := by
  simp only [pruneAll, Survivors.allStructs, prune_items, Survivors.retain, List.filter_append,
    List.map_append]

/-- A typedef is left, or its name is among those that were left out. -/
theorem mem_pruneAll_allTypedefs {item : TypedefItem} (hitem : item ∈ items.allTypedefs)
    (hkept : item.name ∉ (pruneAll dropped items).dropped) :
    item ∈ (pruneAll dropped items).items.allTypedefs := by
  rw [pruneAll_allTypedefs]
  refine List.mem_filter.mpr ⟨hitem, Option.isNone_iff_eq_none.mpr ?_⟩
  refine Classical.byContradiction fun hdropped => ?_
  obtain ⟨issue, hissue, heq⟩ := Survivors.exists_issue_typedef hitem hdropped
  rw [← heq] at hkept
  exact hkept (entity_mem_prune_dropped hissue)

theorem mem_pruneAll_allStructs {item : StructItem} (hitem : item ∈ items.allStructs)
    (hkept : item.name ∉ (pruneAll dropped items).dropped) :
    item.retainMethods (pruneAll dropped items).dropped
      ∈ (pruneAll dropped items).items.allStructs := by
  rw [pruneAll_allStructs]
  refine List.mem_map_of_mem (List.mem_filter.mpr ⟨hitem, Option.isNone_iff_eq_none.mpr ?_⟩)
  refine Classical.byContradiction fun hdropped => ?_
  obtain ⟨issue, hissue, heq⟩ := Survivors.exists_issue_struct hitem hdropped
  rw [← heq] at hkept
  exact hkept (entity_mem_prune_dropped hissue)

theorem of_mem_pruneAll_allTypedefs {item : TypedefItem}
    (h : item ∈ (pruneAll dropped items).items.allTypedefs) :
    item ∈ items.allTypedefs
      ∧ ∀ name ∈ item.type.names, name ∉ (pruneAll dropped items).dropped := by
  rw [pruneAll_allTypedefs] at h
  obtain ⟨hitem, hnone⟩ := List.mem_filter.mp h
  exact ⟨hitem, TypedefItem.dropped?_eq_none_iff.mp (Option.isNone_iff_eq_none.mp hnone)⟩

theorem of_mem_pruneAll_allStructs {item : StructItem}
    (h : item ∈ (pruneAll dropped items).items.allStructs) :
    ∃ draft ∈ items.allStructs, item = draft.retainMethods (pruneAll dropped items).dropped
      ∧ ∀ name ∈ draft.fieldNames, name ∉ (pruneAll dropped items).dropped := by
  rw [pruneAll_allStructs] at h
  obtain ⟨draft, hdraft, rfl⟩ := List.mem_map.mp h
  obtain ⟨hitem, hnone⟩ := List.mem_filter.mp hdraft
  exact ⟨draft, hitem, rfl, StructItem.dropped?_eq_none_iff.mp (Option.isNone_iff_eq_none.mp hnone)⟩

/-- A typedef whose name is not left out reads nothing that is. -/
theorem not_mem_dropped_of_mem_allTypedefs {item : TypedefItem} (hitem : item ∈ items.allTypedefs)
    (hkept : item.name ∉ (pruneAll dropped items).dropped) :
    ∀ name ∈ item.type.names, name ∉ (pruneAll dropped items).dropped :=
  (of_mem_pruneAll_allTypedefs (mem_pruneAll_allTypedefs hitem hkept)).2

theorem not_mem_dropped_of_mem_allStructs {item : StructItem} (hitem : item ∈ items.allStructs)
    (hkept : item.name ∉ (pruneAll dropped items).dropped) :
    ∀ name ∈ item.fieldNames, name ∉ (pruneAll dropped items).dropped := by
  obtain ⟨draft, -, heq, hothers⟩ :=
    of_mem_pruneAll_allStructs (mem_pruneAll_allStructs hitem hkept)
  have hfields : draft.fieldNames = item.fieldNames := (congrArg StructItem.fieldNames heq).symm
  rwa [hfields] at hothers

theorem of_mem_retainMethods {item : StructItem} {method : Method}
    (h : method ∈ (item.retainMethods dropped).methods) :
    method ∈ item.methods
      ∧ ∀ name ∈ method.paramNames ++ method.resultNames, name ∉ dropped := by
  obtain ⟨hmethod, hnone⟩ := List.mem_filter.mp h
  exact ⟨hmethod, Method.dropped?_eq_none_iff.mp (Option.isNone_iff_eq_none.mp hnone)⟩

end All

end AbiBridge
