import AbiBridge.Proofs.Generate.Faults

/-!
# Accounting for what is removed

A payload that is rejected and an item that is pruned are reported once, under their own
names. The issues of methods and enums are reported under other names.
-/

namespace AbiBridge

section Choice

variable {index : Index} {deny : List String} {taken : List (Int × String)} {name : String}

theorem isFatal_of_rejection (items : List StructItem) :
    ∀ issue ∈ (decideFrom index deny taken items).filterMap (·.rejection?),
      issue.issue.isFatal = true := by
  induction items generalizing taken with
  | nil => exact fun issue hissue => absurd hissue List.not_mem_nil
  | cons item items ih =>
    have hnow : ∀ issue : Issue, issue.isFatal = true →
        ∀ found ∈ (CallbackOutcome.rejected item.name issue
            :: decideFrom index deny taken items).filterMap (·.rejection?),
          found.issue.isFatal = true := by
      intro issue hfatal found hfound
      rcases List.mem_cons.mp hfound with rfl | hfound
      · exact hfatal
      · exact ih found hfound
    rw [decideFrom]
    split
    · exact ih
    · split
      · exact hnow _ rfl
      · split
        · exact hnow _ rfl
        · exact ih

theorem faults_rejections {items : List StructItem} (hnames : (items.map (·.name)).Nodup)
    (name : String) :
    faults ((decideFrom index deny taken items).filterMap (·.rejection?)) name
        + ((items.filter fun item =>
            !(rejectedNames (decideFrom index deny taken items)).contains item.name).map
              (·.name)).count name
      = (items.map (·.name)).count name := by
  have hsublist : (rejectedNames (decideFrom index deny taken items)).Sublist
      (items.map (·.name)) := rejectedNames_sublist items
  have hfaults : faults ((decideFrom index deny taken items).filterMap (·.rejection?)) name
      = (rejectedNames (decideFrom index deny taken items)).count name :=
    faults_eq_count (isFatal_of_rejection items)
  generalize rejectedNames (decideFrom index deny taken items) = rejected at hsublist hfaults ⊢
  have hkept : (items.filter fun item => !rejected.contains item.name).map (·.name)
      = (items.map (·.name)).filter fun name => !rejected.contains name := by
    rw [List.filter_map]
    rfl
  rw [hfaults, hkept]
  by_cases hmem : name ∈ rejected
  · have hone := List.count_eq_one_of_mem (hnames.sublist hsublist) hmem
    have hall := List.count_eq_one_of_mem hnames (hsublist.subset hmem)
    have hnone : ((items.map (·.name)).filter fun name => !rejected.contains name).count name = 0 := by
      refine List.count_eq_zero.mpr fun h => ?_
      have hfree := (List.mem_filter.mp h).2
      simp [hmem] at hfree
    omega
  · have hnone := List.count_eq_zero.mpr hmem
    have hall := List.count_filter (l := items.map (·.name)) (a := name)
      (p := fun name => !rejected.contains name) (by simp [hmem])
    omega

end Choice

theorem faults_unresolvedItems {α : Type} (nameOf : α → String) (dropped? : α → Option String)
    (items : List α) (name : String) :
    faults (unresolvedItems nameOf dropped? items) name
        + ((items.filter fun item => (dropped? item).isNone).map nameOf).count name
      = (items.map nameOf).count name := by
  induction items with
  | nil => rfl
  | cons item items ih =>
    rw [unresolvedItems] at ih ⊢
    rw [List.map_cons, List.count_cons]
    cases hitem : dropped? item with
    | none =>
      rw [List.filterMap_cons_none (by simp [hitem]), List.filter_cons_of_pos (by simp [hitem]),
        List.map_cons, List.count_cons]
      omega
    | some missing =>
      rw [List.filterMap_cons_some (by simp [hitem]; rfl), List.filter_cons_of_neg (by simp [hitem]),
        faults_cons rfl]
      omega

def Survivors.names (items : Survivors) : List String :=
  items.extraTypedefs.map (·.name) ++ items.typedefs.map (·.name)
    ++ items.callbackStructs.map (·.name) ++ items.structs.map (·.name)

theorem Survivors.faults_issues (dropped : List String) (items : Survivors) (name : String) :
    faults (items.issues dropped) name + (items.retain dropped).names.count name
      = items.names.count name := by
  have hextra := faults_unresolvedItems (·.name) (TypedefItem.dropped? dropped)
    items.extraTypedefs name
  have htypedefs := faults_unresolvedItems (·.name) (TypedefItem.dropped? dropped)
    items.typedefs name
  have hpayloads := faults_unresolvedItems (·.name) (StructItem.dropped? dropped)
    items.callbackStructs name
  have hstructs := faults_unresolvedItems (·.name) (StructItem.dropped? dropped)
    items.structs name
  simp only [issues, retain, names, faults_append, List.count_append]
  omega

theorem faults_prune (dropped : List String) (items : Survivors) (name : String) :
    faults (prune dropped items).log name + (prune dropped items).items.names.count name
      = items.names.count name := by
  fun_induction prune dropped items
  case case1 => exact Nat.zero_add _
  case case2 dropped items issue issues hissues log rest ih =>
    have hround : faults log name + (items.retain dropped).names.count name
        = items.names.count name := by
      rw [← items.faults_issues dropped name, hissues]
    have hlater : faults rest.log name + rest.items.names.count name
        = (items.retain dropped).names.count name := ih
    show faults (log ++ rest.log) name + rest.items.names.count name = items.names.count name
    rw [faults_append]
    omega

theorem faults_methodIssues {name : String} (hname : IsIdentifier name) (dropped : List String)
    (item : StructItem) : faults (item.methodIssues dropped) name = 0 := by
  apply faults_eq_zero_of_entity_ne
  intro issue hissue
  obtain ⟨method, -, missing, -, rfl⟩ := mem_unresolvedItems_iff.mp hissue
  exact hname.ne_qualifiedName item.name method.flatName

theorem faults_pruneAll {name : String} (hname : IsIdentifier name) (dropped : List String)
    (items : Survivors) :
    faults (pruneAll dropped items).log name + (pruneAll dropped items).items.names.count name
      = items.names.count name := by
  have hmethods : ∀ structs : List StructItem, faults (structs.flatMap
      (·.methodIssues (prune dropped items).dropped)) name = 0 := by
    intro structs
    induction structs with
    | nil => rfl
    | cons item structs ih =>
      rw [List.flatMap_cons, faults_append, faults_methodIssues hname, ih]
  have hnames : (pruneAll dropped items).items.names = (prune dropped items).items.names := by
    simp [pruneAll, Survivors.names, StructItem.retainMethods, Function.comp_def]
  have hrounds := faults_prune dropped items name
  rw [hnames, pruneAll, faults_append, hmethods]
  omega

theorem faults_enumLog {api : Api} {name : String}
    (h : name ∉ api.allEnums.map fun (owner, decl) => enumItemName owner decl) :
    faults api.enumLog name = 0 := by
  apply faults_eq_zero_of_entity_ne
  intro issue hissue heq
  obtain ⟨⟨owner, decl⟩, hmem, hissue⟩ := List.mem_flatMap.mp hissue
  obtain ⟨found, -, rfl⟩ := List.mem_map.mp hissue
  exact h (List.mem_map.mpr ⟨(owner, decl), hmem, heq⟩)

end AbiBridge
