import AbiBridge.Proofs.Generate.CallbackUnion
import AbiBridge.Proofs.Generate.LeftOut

/-!
# What a run leaves out and what it keeps

The final set of names of a run consists of the entities that are broken or refer to one that
is left out. The module has the others.
-/

namespace AbiBridge

section Choice

variable {index : Index} {deny : List String} {taken : List (Int × String)} {name : String}

/-- If all numbers are different, a payload is rejected for one of its fields only. -/
theorem mem_rejectedNames_iff {items : List StructItem}
    (hids : (items.filterMap (·.callbackId)).Nodup)
    (htaken : ∀ item ∈ items, ∀ id, item.callbackId = some id → taken.lookup id = none) :
    name ∈ rejectedNames (decideFrom index deny taken items)
      ↔ ∃ item ∈ items, item.name = name ∧ item.callbackId ≠ none
          ∧ ∃ field ∈ item.fields, cannotBeBytes index field.type = true := by
  induction items generalizing taken with
  | nil => simp [decideFrom, rejectedNames]
  | cons item items ih =>
    have hrest := fun other hother => htaken other (List.mem_cons_of_mem item hother)
    rw [decideFrom]
    split
    · next hid =>
      rw [List.filterMap_cons_none hid] at hids
      rw [ih hids hrest, List.exists_mem_cons_iff]
      simp [hid]
    · next id hid =>
      rw [List.filterMap_cons_some hid] at hids
      obtain ⟨hnew, hids⟩ := List.nodup_cons.mp hids
      split
      · next first hfirst =>
        rw [htaken item List.mem_cons_self id hid] at hfirst
        cases hfirst
      · split
        · next field hfield =>
          have hbytes : ∃ field ∈ item.fields, cannotBeBytes index field.type = true :=
            ⟨field, List.mem_of_find?_eq_some hfield, by simpa using List.find?_some hfield⟩
          have hhead : ∀ issue, name ∈ rejectedNames
              (.rejected item.name issue :: decideFrom index deny taken items)
                ↔ name = item.name ∨ name ∈ rejectedNames (decideFrom index deny taken items) :=
            fun issue => List.mem_cons
          rw [hhead, ih hids hrest, List.exists_mem_cons_iff]
          exact or_congr_left ⟨fun heq => ⟨heq.symm, by simp [hid], hbytes⟩, fun h => h.1.symm⟩
        · next hfine =>
          have hnone : ¬ ∃ field ∈ item.fields, cannotBeBytes index field.type = true := by
            rintro ⟨field, hfield, hbytes⟩
            exact List.find?_eq_none.mp hfine field hfield hbytes
          have hlater : ∀ other ∈ items, ∀ id', other.callbackId = some id' →
              ((id, item.name) :: taken).lookup id' = none := by
            intro other hother id' hid'
            have hne : id' ≠ id := fun heq =>
              hnew (List.mem_filterMap.mpr ⟨other, hother, heq ▸ hid'⟩)
            rw [List.lookup_cons, beq_eq_false_iff_ne.mpr hne]
            exact hrest other hother id' hid'
          have htail : name ∈ rejectedNames (.accepted (item.toCallback id deny)
              :: decideFrom index deny ((id, item.name) :: taken) items)
                ↔ name ∈ rejectedNames
                    (decideFrom index deny ((id, item.name) :: taken) items) := Iff.rfl
          rw [htail, ih hids hlater, List.exists_mem_cons_iff]
          simp [hnone]

end Choice

namespace Scope

variable {scope : Scope} {layouts : Layouts} {dropped : List String}

/-- The struct is made from the declaration, when the names of a set are left out. -/
structure IsMadeFrom (scope : Scope) (layouts : Layouts) (dropped : List String)
    (item : StructItem) (decl : StructDecl) : Prop where
  name : item.name = decl.name
  callbackId : item.callbackId = decl.callbackId
  layout : ∃ layout, layoutOf layouts decl = .ok layout
  fields : ∀ field ∈ item.fields, ∃ fieldDecl ∈ decl.fields,
    scope.fieldItem [] decl.name fieldDecl = .ok field
  declared : ∀ fieldDecl ∈ decl.fields, ∃ field ∈ item.fields,
    scope.fieldItem [] decl.name fieldDecl = .ok field
  methods : ∃ left ⊆ dropped,
    item.methods = (scope.methods left decl.name [] decl.methods).made

theorem isMadeFrom_structItem {decl : StructDecl} {item : StructItem} {log : List EntityIssue}
    (h : scope.structItem layouts dropped decl = .ok (item, log)) :
    scope.IsMadeFrom layouts dropped item decl := by
  obtain ⟨layout, fields, hlayout, hfields, rfl, -⟩ := structItem_eq_ok h
  have hnarrow : ∀ fieldDecl field, scope.fieldItem dropped decl.name fieldDecl = .ok field →
      scope.fieldItem [] decl.name fieldDecl = .ok field := by
    intro fieldDecl field hfield
    obtain ⟨type, htype, rfl⟩ := fieldItem_eq_ok_iff.mp hfield
    exact fieldItem_eq_ok_iff.mpr ⟨type, (resolveIn_eq_ok_iff.mp htype).1, rfl⟩
  refine ⟨rfl, rfl, ⟨layout, hlayout⟩, ?_, ?_, dropped, List.Subset.refl _, rfl⟩
  · intro field hfield
    obtain ⟨fieldDecl, hdecl, hmade⟩ := exists_of_mem_mapM hfields field hfield
    exact ⟨fieldDecl, hdecl, hnarrow _ _ hmade⟩
  · intro fieldDecl hdecl
    obtain ⟨field, hfield, hmade⟩ := mem_of_mapM hfields fieldDecl hdecl
    exact ⟨field, hfield, hnarrow _ _ hmade⟩

theorem IsMadeFrom.mono {item : StructItem} {decl : StructDecl} {final : List String}
    (h : scope.IsMadeFrom layouts dropped item decl) (hsubset : dropped ⊆ final) :
    scope.IsMadeFrom layouts final item decl := by
  obtain ⟨left, hleft, hmethods⟩ := h.methods
  exact { h with methods := ⟨left, List.Subset.trans hleft hsubset, hmethods⟩ }

theorem exists_isMadeFrom {decls : List StructDecl} {item : StructItem}
    (h : item ∈ (scope.structItems layouts dropped decls).made) :
    ∃ decl ∈ decls,
      scope.IsMadeFrom layouts (scope.structItems layouts dropped decls).dropped item decl := by
  induction decls generalizing dropped with
  | nil => cases h
  | cons decl decls ih =>
    rw [structItems] at h ⊢
    split at h
    · next made log hmade =>
      rcases List.mem_cons.mp h with rfl | h
      · exact ⟨decl, List.mem_cons_self,
          (isMadeFrom_structItem hmade).mono (subset_structItems_dropped _ _ _ _)⟩
      · obtain ⟨decl', hdecl', hmade'⟩ := ih h
        exact ⟨decl', List.mem_cons_of_mem _ hdecl', hmade'⟩
    · obtain ⟨decl', hdecl', hmade'⟩ := ih h
      exact ⟨decl', List.mem_cons_of_mem _ hdecl', hmade'⟩

/-- Under its name the table has the layout of a declaration. -/
theorem layoutOf_layoutsOf {config : Config} {api : Api}
    (hnames : ((config.structDecls api).map (·.name)).Nodup) (reportA reportB : PlatformReport)
    {decl : StructDecl} (hdecl : decl ∈ config.structDecls api) :
    layoutOf (layoutsOf config api reportA reportB) decl
      = (config.platforms reportA reportB).structLayout decl := by
  have hfound : (config.structDecls api).find? (·.name == decl.name) = some decl := by
    cases hfind : (config.structDecls api).find? (·.name == decl.name) with
    | none =>
      exact absurd (beq_self_eq_true decl.name) (List.find?_eq_none.mp hfind decl hdecl)
    | some found =>
      have hname : found.name = decl.name := by simpa using List.find?_some hfind
      rw [List.inj_on_of_nodup_map hnames (List.mem_of_find?_eq_some hfind) hdecl hname]
  rw [layoutOf, layoutsOf, Layouts.get?_ofStructs]
  rw [Config.structDecls] at hfound
  rw [hfound]
  rfl

section Run

variable {config : Config} {api : Api} {reportA reportB : PlatformReport}
  (hindex : scope.index = .ofApi api config.extraTypedefs config.opaqueTypes)
  (hdistinct : config.Distinct api)
include hdistinct

theorem mem_rejectedNames_outcomes_iff {name : String} :
    name ∈ rejectedNames (scope.outcomes config api layouts)
      ↔ ∃ item ∈ (scope.payloadStage config api layouts).made, item.name = name
          ∧ item.callbackId ≠ none
          ∧ ∃ field ∈ item.fields, cannotBeBytes scope.index field.type = true := by
  have hmade := (structItems_made_sublist scope layouts (scope.typedefStage config api).dropped
    (config.includedCallbacks api)).filterMap (·.2)
  rw [List.filterMap_map, List.filterMap_map] at hmade
  exact mem_rejectedNames_iff (hdistinct.ids.sublist hmade) fun item _ id _ => rfl

/-- The drafts are made from declarations, and none of them is a payload that cannot be made
from bytes. -/
theorem exists_draft_isMadeFrom {item : StructItem}
    (h : item ∈ (scope.drafts config api layouts).items.allStructs) :
    ∃ decl ∈ config.structDecls api,
      scope.IsMadeFrom layouts (scope.drafts config api layouts).dropped item decl
      ∧ (decl ∈ config.includedCallbacks api → decl.callbackId ≠ none →
          ∀ field ∈ item.fields, cannotBeBytes scope.index field.type = false) := by
  rcases mem_drafts_allStructs_iff.mp h with ⟨hpayload, hkept⟩ | hstruct
  · obtain ⟨decl, hdecl, hmade⟩ := exists_isMadeFrom hpayload
    refine ⟨decl, List.mem_append_left _ hdecl, hmade.mono payloadStage_dropped_subset, ?_⟩
    intro _ hid field hfield
    rw [← Bool.not_eq_true]
    intro hbytes
    exact hkept ((mem_rejectedNames_outcomes_iff hdistinct).mpr
      ⟨item, hpayload, rfl, hmade.callbackId ▸ hid, field, hfield, hbytes⟩)
  · obtain ⟨decl, hdecl, hmade⟩ := exists_isMadeFrom hstruct
    refine ⟨decl, List.mem_append_right _ hdecl, hmade.mono structStage_dropped_subset, ?_⟩
    exact fun hpayload => absurd rfl (hdistinct.payload_ne_struct hpayload hdecl)

omit hdistinct in
theorem exists_entry_of_mem_drafts {item : TypedefItem}
    (h : item ∈ (scope.drafts config api layouts).items.allTypedefs) :
    ∃ raw type, (item.name, raw) ∈ config.typedefEntries api
      ∧ scope.resolve [] item.name raw .value = .ok type ∧ item.type.names = type.names := by
  rcases List.mem_append.mp h with hextra | hown
  · obtain ⟨raw, type, left, hentry, htype, heq⟩ := exists_of_mem_typedefItems_made hextra
    exact ⟨raw, type, List.mem_append_left _ hentry, (resolve_eq_ok_iff.mp htype).1,
      heq ▸ names_withHandles _ _⟩
  · obtain ⟨raw, type, left, hentry, htype, heq⟩ := exists_of_mem_typedefItems_made hown
    exact ⟨raw, type, List.mem_append_right _ hentry, (resolve_eq_ok_iff.mp htype).1,
      heq ▸ names_withHandles _ _⟩

include hindex in
theorem leftOut_of_mem_drafts_dropped : ∀ name ∈ (scope.drafts config api
    (layoutsOf config api reportA reportB)).dropped,
      scope.LeftOut config api (config.platforms reportA reportB) name := by
  have hlayouts : ∀ decl ∈ config.structDecls api,
      layoutOf (layoutsOf config api reportA reportB) decl
        = (config.platforms reportA reportB).structLayout decl :=
    fun decl hdecl => layoutOf_layoutsOf hdistinct.nodup_struct_names reportA reportB hdecl
  have hextra : ∀ name ∈ (scope.extraStage config).dropped,
      scope.LeftOut config api (config.platforms reportA reportB) name :=
    leftOut_of_mem_typedefItems_dropped hdistinct (List.subset_append_left _ _)
      fun name hname => absurd hname List.not_mem_nil
  have htypedefs : ∀ name ∈ (scope.typedefStage config api).dropped,
      scope.LeftOut config api (config.platforms reportA reportB) name :=
    leftOut_of_mem_typedefItems_dropped hdistinct (List.subset_append_right _ _) hextra
  have hpayloads := leftOut_of_mem_structItems_dropped hdistinct hindex hlayouts
    (List.subset_append_left _ _) htypedefs
  have hstructs := leftOut_of_mem_structItems_dropped hdistinct hindex hlayouts
    (List.subset_append_right _ _) hpayloads
  intro name hname
  rcases List.mem_append.mp hname with hrejected | hdropped
  · obtain ⟨item, hitem, rfl, hid, field, hfield, hbytes⟩ :=
      (mem_rejectedNames_outcomes_iff hdistinct).mp hrejected
    obtain ⟨decl, hdecl, hmade⟩ := exists_isMadeFrom hitem
    obtain ⟨fieldDecl, hfieldDecl, hmadeField⟩ := hmade.fields field hfield
    rw [hmade.name]
    exact .broken (.payload hdecl (hmade.callbackId ▸ hid) hfieldDecl hmadeField hbytes)
  · exact hstructs name hdropped

include hindex in
theorem leftOut_of_mem_leftOut : ∀ name ∈ scope.leftOut config api reportA reportB,
    scope.LeftOut config api (config.platforms reportA reportB) name := by
  refine forall_mem_prune_dropped (leftOut_of_mem_drafts_dropped hindex hdistinct) ?_ ?_
  · intro item hitem name hname hleft
    obtain ⟨raw, type, hentry, htype, hnames⟩ := exists_entry_of_mem_drafts hitem
    rw [hnames] at hname
    exact .refers (.typedef hentry htype hname) hleft
  · intro item hitem name hname hleft
    obtain ⟨decl, hdecl, hmade, -⟩ := exists_draft_isMadeFrom hdistinct hitem
    obtain ⟨field, hfield, hname⟩ := List.mem_flatMap.mp hname
    obtain ⟨fieldDecl, hfieldDecl, hmadeField⟩ := hmade.fields field hfield
    rw [hmade.name]
    exact .refers (.field hdecl hfieldDecl hmadeField hname) hleft

omit hdistinct in
theorem exists_pruned_typedef {name raw : String}
    (hentry : (name, raw) ∈ config.typedefEntries api)
    (hkept : name ∉ scope.leftOut config api reportA reportB) :
    ∃ type, scope.resolve [] name raw .value = .ok type
      ∧ ∀ other ∈ type.names, other ∉ scope.leftOut config api reportA reportB := by
  have hstage : name ∉ (scope.typedefStage config api).dropped := fun hdropped =>
    hkept (subset_pruneAll_dropped _ _ (typedefStage_dropped_subset hdropped))
  obtain ⟨type, hread, hmade⟩ := exists_mem_typedefStage hentry hstage
  have hknown := (mem_typedefStage_made hmade).2
  have hdraft : ⟨name, withHandles scope.index type⟩
      ∈ (scope.drafts config api (layoutsOf config api reportA reportB)).items.allTypedefs := hmade
  have hothers := not_mem_dropped_of_mem_allTypedefs hdraft hkept
  rw [names_withHandles] at hknown hothers
  refine ⟨type, ?_, hothers⟩
  rw [resolve, hread]
  exact checkNames_eq_ok_iff.mpr ⟨rfl, hknown, fun _ _ => List.not_mem_nil⟩

/-- The struct that a module has for a declaration. -/
theorem exists_pruned_struct {decl : StructDecl} (hdecl : decl ∈ config.structDecls api)
    (hkept : decl.name ∉ scope.leftOut config api reportA reportB) :
    ∃ item ∈ (scope.drafts config api (layoutsOf config api reportA reportB)).items.allStructs,
      scope.IsMadeFrom (layoutsOf config api reportA reportB)
        (scope.leftOut config api reportA reportB) item decl
      ∧ (decl ∈ config.includedCallbacks api → decl.callbackId ≠ none →
          ∀ field ∈ item.fields, cannotBeBytes scope.index field.type = false)
      ∧ ∀ other ∈ item.fieldNames, other ∉ scope.leftOut config api reportA reportB := by
  have hdrafts : decl.name ∉ (scope.drafts config api
      (layoutsOf config api reportA reportB)).dropped := fun hdropped =>
    hkept (subset_pruneAll_dropped _ _ hdropped)
  obtain ⟨item, hitem, hname⟩ := exists_mem_drafts_allStructs hdecl hdrafts
  obtain ⟨decl', hdecl', hmade, hbytes⟩ := exists_draft_isMadeFrom hdistinct hitem
  cases hdistinct.struct_eq hdecl hdecl' (hname.symm.trans hmade.name)
  rw [← hname] at hkept
  exact ⟨item, hitem, hmade.mono (subset_pruneAll_dropped _ _), hbytes,
    not_mem_dropped_of_mem_allStructs hitem hkept⟩

theorem mem_leftOut_of_leftOut {name : String}
    (h : scope.LeftOut config api (config.platforms reportA reportB) name) :
    name ∈ scope.leftOut config api reportA reportB := by
  induction h with
  | broken h =>
    by_contra hkept
    cases h with
    | typedef hentry hnone =>
      obtain ⟨type, htype, -⟩ := exists_pruned_typedef hentry hkept
      exact hnone type htype
    | layout hdecl hnone =>
      obtain ⟨item, -, hmade, -⟩ := exists_pruned_struct hdistinct hdecl hkept
      obtain ⟨layout, hlayout⟩ := hmade.layout
      rw [layoutOf_layoutsOf hdistinct.nodup_struct_names reportA reportB hdecl] at hlayout
      exact hnone layout hlayout
    | field hdecl hfield hnone =>
      obtain ⟨item, -, hmade, -⟩ := exists_pruned_struct hdistinct hdecl hkept
      obtain ⟨field, -, hmadeField⟩ := hmade.declared _ hfield
      exact hnone field hmadeField
    | payload hdecl hid hfield hitem hbytes =>
      obtain ⟨item, -, hmade, hfine, -⟩ :=
        exists_pruned_struct hdistinct (List.mem_append_left _ hdecl) hkept
      obtain ⟨field, hmem, hmadeField⟩ := hmade.declared _ hfield
      cases hitem.symm.trans hmadeField
      have hnot := hfine hdecl hid _ hmem
      rw [hbytes] at hnot
      cases hnot
  | refers h hleft ih =>
    by_contra hkept
    cases h with
    | typedef hentry htype hother =>
      obtain ⟨type', htype', hothers⟩ := exists_pruned_typedef hentry hkept
      cases htype.symm.trans htype'
      exact hothers _ hother ih
    | field hdecl hfield hitem hother =>
      obtain ⟨item, -, hmade, -, hothers⟩ := exists_pruned_struct hdistinct hdecl hkept
      obtain ⟨field, hmem, hmadeField⟩ := hmade.declared _ hfield
      cases hitem.symm.trans hmadeField
      exact hothers _ (List.mem_flatMap.mpr ⟨_, hmem, hother⟩) ih

include hindex in
/-- The names that a run leaves out are those of the entities that are broken or refer to one
that is left out. -/
theorem mem_leftOut_iff {name : String} :
    name ∈ scope.leftOut config api reportA reportB
      ↔ scope.LeftOut config api (config.platforms reportA reportB) name :=
  ⟨leftOut_of_mem_leftOut hindex hdistinct name, mem_leftOut_of_leftOut hdistinct⟩

theorem not_leftOut_of_mem_allTypedefs {item : TypedefItem}
    (h : item ∈ (scope.pruned config api (layoutsOf config api reportA reportB)).items.allTypedefs) :
    ¬ scope.LeftOut config api (config.platforms reportA reportB) item.name := by
  obtain ⟨hdraft, hothers⟩ := of_mem_pruneAll_allTypedefs h
  obtain ⟨raw, type, hentry, htype, hnames⟩ := exists_entry_of_mem_drafts hdraft
  refine (not_leftOut_typedef_iff hdistinct hentry).mpr ⟨type, htype, fun other hother hleft => ?_⟩
  rw [← hnames] at hother
  exact hothers other hother (mem_leftOut_of_leftOut hdistinct hleft)

include hindex in
theorem mem_typedefs_iff {name : String} :
    name ∈ ((scope.generate config api reportA reportB).bindings.extraTypedefs
        ++ (scope.generate config api reportA reportB).bindings.typedefs).map (·.name)
      ↔ name ∈ (config.typedefEntries api).map (·.1)
        ∧ ¬ scope.LeftOut config api (config.platforms reportA reportB) name := by
  constructor
  · intro hname
    obtain ⟨item, hitem, rfl⟩ := List.mem_map.mp hname
    exact ⟨name_mem_typedefs hitem, not_leftOut_of_mem_allTypedefs hdistinct hitem⟩
  · rintro ⟨hentry, hkept⟩
    have hleft : name ∉ scope.leftOut config api reportA reportB := fun hmem =>
      hkept ((mem_leftOut_iff hindex hdistinct).mp hmem)
    exact (mem_pruned_allTypedefs_iff hleft).mpr hentry

/-- A struct of a module is made from a declaration that is not left out. -/
theorem exists_decl_of_mem_allStructs {item : StructItem}
    (h : item ∈ (scope.generate config api reportA reportB).bindings.allStructs) :
    ∃ decl ∈ config.structDecls api, ∃ draft,
      scope.IsMadeFrom (layoutsOf config api reportA reportB)
        (scope.leftOut config api reportA reportB) draft decl
      ∧ ¬ scope.LeftOut config api (config.platforms reportA reportB) decl.name
      ∧ item = scope.finishStruct
          (draft.retainMethods (scope.leftOut config api reportA reportB)) := by
  rw [generate_allStructs] at h
  obtain ⟨survivor, hsurvivor, rfl⟩ := List.mem_map.mp h
  obtain ⟨draft, hdraft, rfl, hothers⟩ := of_mem_pruneAll_allStructs hsurvivor
  obtain ⟨decl, hdecl, hmade, hbytes⟩ := exists_draft_isMadeFrom hdistinct hdraft
  refine ⟨decl, hdecl, draft, hmade.mono (subset_pruneAll_dropped _ _), ?_, rfl⟩
  refine (not_leftOut_struct_iff hdistinct hdecl).mpr ⟨⟨?_, ?_, ?_⟩, ?_⟩
  · obtain ⟨layout, hlayout⟩ := hmade.layout
    rw [layoutOf_layoutsOf hdistinct.nodup_struct_names reportA reportB hdecl] at hlayout
    exact ⟨layout, hlayout⟩
  · intro field hfield
    obtain ⟨made, -, hmadeField⟩ := hmade.declared field hfield
    exact ⟨made, hmadeField⟩
  · intro hpayload hid field hfield made hmadeField
    obtain ⟨made', hmem, hmadeField'⟩ := hmade.declared field hfield
    cases hmadeField.symm.trans hmadeField'
    exact hbytes hpayload hid _ hmem
  · intro field hfield made hmadeField other hother hleft
    obtain ⟨made', hmem, hmadeField'⟩ := hmade.declared field hfield
    cases hmadeField.symm.trans hmadeField'
    exact hothers other (List.mem_flatMap.mpr ⟨_, hmem, hother⟩)
      (mem_leftOut_of_leftOut hdistinct hleft)

include hindex in
/-- A declaration that is not left out has a struct in the module. -/
theorem exists_mem_allStructs_of_decl {decl : StructDecl} (hdecl : decl ∈ config.structDecls api)
    (hkept : ¬ scope.LeftOut config api (config.platforms reportA reportB) decl.name) :
    ∃ draft, scope.IsMadeFrom (layoutsOf config api reportA reportB)
        (scope.leftOut config api reportA reportB) draft decl
      ∧ scope.finishStruct (draft.retainMethods (scope.leftOut config api reportA reportB))
          ∈ (scope.generate config api reportA reportB).bindings.allStructs := by
  have hleft : decl.name ∉ scope.leftOut config api reportA reportB := fun hmem =>
    hkept ((mem_leftOut_iff hindex hdistinct).mp hmem)
  obtain ⟨draft, hdraft, hmade, -⟩ := exists_pruned_struct hdistinct hdecl hleft
  refine ⟨draft, hmade, ?_⟩
  rw [generate_allStructs]
  rw [← hmade.name] at hleft
  exact List.mem_map_of_mem (mem_pruneAll_allStructs hdraft hleft)

include hindex in
theorem mem_callbackStructs_iff {name : String} :
    name ∈ (scope.generate config api reportA reportB).bindings.callbackStructs.map (·.name)
      ↔ name ∈ (config.includedCallbacks api).map (·.name)
        ∧ ¬ scope.LeftOut config api (config.platforms reportA reportB) name := by
  constructor
  · intro hname
    obtain ⟨item, hitem, rfl⟩ := List.mem_map.mp hname
    obtain ⟨decl, -, draft, hmade, hkept, rfl⟩ :=
      exists_decl_of_mem_allStructs hdistinct (List.mem_append_left _ hitem)
    exact ⟨name_mem_includedCallbacks hitem, hmade.name ▸ hkept⟩
  · rintro ⟨hname, hkept⟩
    obtain ⟨decl, hdecl, rfl⟩ := List.mem_map.mp hname
    obtain ⟨draft, hmade, hitem⟩ := exists_mem_allStructs_of_decl hindex hdistinct
      (List.mem_append_left _ hdecl) hkept
    rcases List.mem_append.mp hitem with hpayload | hstruct
    · exact List.mem_map.mpr ⟨_, hpayload, hmade.name⟩
    · obtain ⟨decl', hdecl', hsame⟩ := List.mem_map.mp (name_mem_structs hstruct)
      exact absurd (hsame.trans hmade.name).symm (hdistinct.payload_ne_struct hdecl hdecl')

include hindex in
theorem mem_structs_iff {name : String} :
    name ∈ (scope.generate config api reportA reportB).bindings.structs.map (·.name)
      ↔ name ∈ api.structs.map (·.name)
        ∧ ¬ scope.LeftOut config api (config.platforms reportA reportB) name := by
  constructor
  · intro hname
    obtain ⟨item, hitem, rfl⟩ := List.mem_map.mp hname
    obtain ⟨decl, -, draft, hmade, hkept, rfl⟩ :=
      exists_decl_of_mem_allStructs hdistinct (List.mem_append_right _ hitem)
    exact ⟨name_mem_structs hitem, hmade.name ▸ hkept⟩
  · rintro ⟨hname, hkept⟩
    obtain ⟨decl, hdecl, rfl⟩ := List.mem_map.mp hname
    obtain ⟨draft, hmade, hitem⟩ := exists_mem_allStructs_of_decl hindex hdistinct
      (List.mem_append_right _ hdecl) hkept
    rcases List.mem_append.mp hitem with hpayload | hstruct
    · obtain ⟨decl', hdecl', hsame⟩ := List.mem_map.mp (name_mem_includedCallbacks hpayload)
      exact absurd (hsame.trans hmade.name) (hdistinct.payload_ne_struct hdecl' hdecl)
    · exact List.mem_map.mpr ⟨_, hstruct, hmade.name⟩

include hindex in
/-- The numbers of the callbacks are those of the payloads that are not left out. -/
theorem mem_callbacks_ids_iff {id : Int} :
    id ∈ (scope.generate config api reportA reportB).bindings.callbacks.map (·.id)
      ↔ ∃ decl ∈ config.includedCallbacks api, decl.callbackId = some id
        ∧ ¬ scope.LeftOut config api (config.platforms reportA reportB) decl.name := by
  rw [scope.generate_callbacks config reportA reportB hdistinct.nodup_payload_names]
  constructor
  · intro hid
    obtain ⟨callback, hcallback, rfl⟩ := List.mem_map.mp hid
    obtain ⟨item, hitem, hmade⟩ := List.mem_filterMap.mp hcallback
    obtain ⟨decl, hdecl, draft, hmadeFrom, hkept, rfl⟩ :=
      exists_decl_of_mem_allStructs hdistinct (List.mem_append_left _ hitem)
    obtain ⟨decl', hdecl', hsame⟩ := List.mem_map.mp (name_mem_includedCallbacks hitem)
    cases hdistinct.struct_eq hdecl (List.mem_append_left _ hdecl')
      (hmadeFrom.name.symm.trans hsame.symm)
    exact ⟨decl, hdecl',
      hmadeFrom.callbackId.symm.trans (StructItem.callback?_eq_some hmade).2, hkept⟩
  · rintro ⟨decl, hdecl, hid, hkept⟩
    obtain ⟨item, hitem, hname⟩ := List.mem_map.mp ((mem_callbackStructs_iff hindex hdistinct).mpr
      ⟨List.mem_map_of_mem hdecl, hkept⟩)
    obtain ⟨decl', hdecl', draft, hmade, -, rfl⟩ :=
      exists_decl_of_mem_allStructs hdistinct (List.mem_append_left _ hitem)
    cases hdistinct.struct_eq (List.mem_append_left _ hdecl) hdecl'
      (hname.symm.trans hmade.name)
    generalize hfinal : scope.finishStruct (draft.retainMethods
      (scope.leftOut config api reportA reportB)) = item at hitem
    have hitemId : item.callbackId = some id := hfinal ▸ hmade.callbackId.trans hid
    have hcallback : item.callback? config.shim.deny
        = some (item.toCallback id config.shim.deny) := by
      rw [StructItem.callback?, hitemId]
      rfl
    exact List.mem_map.mpr ⟨_, List.mem_filterMap.mpr ⟨item, hitem, hcallback⟩, rfl⟩

end Run

end Scope

end AbiBridge
