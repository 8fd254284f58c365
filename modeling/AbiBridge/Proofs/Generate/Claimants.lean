import AbiBridge.Proofs.Callback.Partition
import AbiBridge.Proofs.Generate.Agreement

/-!
# Numbers and their claimants

Several payloads can claim the number of a callback. If one of them gets it once the others are
deleted, then somebody has it in the whole module, unless it was given to a payload that is left
out afterwards. Only a payload that is tied to names which the deleted ones declare can fare
differently.
-/

namespace AbiBridge

/-- What becomes of an entity may depend on the names that were brought: it has one of them, it
mentions an entity of this kind, or its number went to one, if that is not the number in
question. -/
inductive Scope.IsTied (scope : Scope) (config : Config) (api : Api) (errors : List EntityIssue)
    (brought : List String) (id : Int) : String → Prop where
  | brought {name : String} (h : name ∈ brought) : IsTied scope config api errors brought id name
  | mentions {name other : String} (h : scope.Mentions config api name other)
      (hother : IsTied scope config api errors brought id other) :
      IsTied scope config api errors brought id name
  | idTaken {name first : String} {taken : Int}
      (h : ⟨name, .callbackIdTaken taken first name⟩ ∈ errors) (htaken : taken ≠ id)
      (hfirst : IsTied scope config api errors brought id first) :
      IsTied scope config api errors brought id name

theorem Index.SameTypes.notFromBytes_iff {index index' : Index} (h : index.SameTypes index')
    {type : CType} : NotFromBytes index type ↔ NotFromBytes index' type := by
  rw [← cannotBeBytes_eq_true_iff, ← cannotBeBytes_eq_true_iff, h.cannotBeBytes]

namespace Scope

section Callbacks

variable {scope : Scope} {config : Config} {api : Api} {reportA reportB : PlatformReport}

/-- A payload of a module is one of the drafts that mentions nothing that is left out. -/
theorem exists_draft_of_mem_callbackStructs {item : StructItem}
    (h : item ∈ (scope.generate config api reportA reportB).bindings.callbackStructs) :
    ∃ draft ∈ (scope.drafts config api
        (layoutsOf config api reportA reportB)).items.callbackStructs,
      draft.name = item.name ∧ draft.callbackId = item.callbackId
        ∧ ∀ name ∈ draft.fieldNames, name ∉ scope.leftOut config api reportA reportB := by
  rw [generate_callbackStructs] at h
  obtain ⟨left, hleft, rfl⟩ := List.mem_map.mp h
  obtain ⟨draft, hdraft, rfl⟩ := List.mem_map.mp hleft
  obtain ⟨hdraft, hnone⟩ := List.mem_filter.mp hdraft
  exact ⟨draft, hdraft, rfl, rfl,
    StructItem.dropped?_eq_none_iff.mp (Option.isNone_iff_eq_none.mp hnone)⟩

theorem exists_mem_callbackStructs_of_draft {draft : StructItem}
    (hdraft : draft ∈ (scope.drafts config api
      (layoutsOf config api reportA reportB)).items.callbackStructs)
    (hkept : ∀ name ∈ draft.fieldNames, name ∉ scope.leftOut config api reportA reportB) :
    ∃ item ∈ (scope.generate config api reportA reportB).bindings.callbackStructs,
      item.name = draft.name ∧ item.callbackId = draft.callbackId := by
  rw [generate_callbackStructs]
  refine ⟨_, List.mem_map_of_mem (List.mem_map_of_mem (List.mem_filter.mpr ⟨hdraft, ?_⟩)), rfl, rfl⟩
  exact Option.isNone_iff_eq_none.mpr (StructItem.dropped?_eq_none_iff.mpr hkept)

variable (hnames : ((config.includedCallbacks api).map (·.name)).Nodup)
include hnames

/-- A number is that of a callback if a payload of the module has it. -/
theorem exists_callback_iff {id : Int} {name : String} :
    (∃ callback ∈ (scope.generate config api reportA reportB).bindings.callbacks,
        callback.id = id ∧ callback.payload = name)
      ↔ ∃ item ∈ (scope.generate config api reportA reportB).bindings.callbackStructs,
          item.callbackId = some id ∧ item.name = name := by
  rw [generate_callbacks scope config reportA reportB hnames]
  constructor
  · rintro ⟨callback, hcallback, rfl, rfl⟩
    obtain ⟨item, hitem, hmade⟩ := List.mem_filterMap.mp hcallback
    obtain ⟨hname, hid⟩ := StructItem.callback?_eq_some hmade
    exact ⟨item, hitem, hid, hname.symm⟩
  · rintro ⟨item, hitem, hid, rfl⟩
    refine ⟨item.toCallback id config.shim.deny, List.mem_filterMap.mpr ⟨item, hitem, ?_⟩, rfl, rfl⟩
    rw [StructItem.callback?, hid]
    rfl

end Callbacks

section Rejected

variable {scope : Scope} {config : Config} {api part : Api} {index : Index}
  {inside : String → Prop} [DecidablePred inside] {reportA reportB : PlatformReport}
  {name : String} {id : Int}

def rejections (scope : Scope) (config : Config) (api : Api) (reportA reportB : PlatformReport) :
    List EntityIssue :=
  (chooseCallbacks (scope.payloadStage config api (layoutsOf config api reportA reportB)).made
    scope.index config.shim.deny).rejected

/-- A payload that is made has the name and the number of a declaration. -/
theorem exists_decl_of_mem_payloadStage {layouts : Layouts} {item : StructItem}
    (h : item ∈ (scope.payloadStage config api layouts).made) :
    ∃ decl ∈ config.includedCallbacks api,
      decl.name = item.name ∧ decl.callbackId = item.callbackId := by
  obtain ⟨decl, hdecl, hmade⟩ := exists_isMadeFrom h
  exact ⟨decl, hdecl, hmade.name.symm, hmade.callbackId.symm⟩

/-- Whoever is rejected, and does not claim the number in question, is rejected in the run over
the part too: for the same field, or because the struct that got the number is there too. -/
theorem HasPart.mem_rejectedNames (h : scope.HasPart config api part index inside)
    (hkept : name ∉ rejectedNames
      (scope.outcomes config api (layoutsOf config api reportA reportB)))
    (hclaim : ∀ decl ∈ config.includedCallbacks api, inside decl.name →
      decl.callbackId = some id → decl.name = name)
    (htaken : ∀ second first taken, ⟨second, .callbackIdTaken taken first second⟩
      ∈ scope.rejections config api reportA reportB → taken ≠ id → inside second → inside first) :
    ∀ other ∈ rejectedNames (scope.outcomes config api (layoutsOf config api reportA reportB)),
      inside other → other ∈ rejectedNames ((scope.withIndex index).outcomes config part
        (layoutsOf config part reportA reportB)) := by
  obtain ⟨brought, hextends, -⟩ := h.closed
  have htypes := hextends.toSameTypes
  intro other hother hinside
  obtain ⟨issue, hissue, rfl⟩ := List.mem_map.mp hother
  obtain ⟨item, hitem, claimed, hclaimed, hname, hreason⟩ := exists_of_mem_rejected hissue
  rw [← hname] at hinside ⊢
  rcases hreason with ⟨field, hfield, hbytes⟩ | ⟨first, hpair, hfirst, hbytes, heq⟩
  · obtain ⟨item', hitem', hcore⟩ := exists_mem_of_coresIn h.payloadStage_agrees.2 hitem hinside
    obtain ⟨hname', hclaimed', hfields⟩ := StructItem.core_eq_iff.mp hcore
    rw [← hname']
    exact mem_rejectedNames_of_notFromBytes hitem' (hclaimed'.trans hclaimed)
      (hfields ▸ hfield) (htypes.notFromBytes_iff.mp hbytes)
  · have hne : claimed ≠ id := by
      rintro rfl
      obtain ⟨decl, hdecl, hdeclName, hdeclId⟩ := exists_decl_of_mem_payloadStage hitem
      refine hkept ?_
      rw [← hclaim decl hdecl (hdeclName ▸ hinside) (hdeclId.trans hclaimed), hdeclName, hname]
      exact hother
    have hinside' : inside first.name := by
      refine htaken item.name first.name claimed ?_ hne hinside
      rw [← heq, hname]
      exact hissue
    obtain ⟨pair', hpair', hcores⟩ := exists_sublist_of_coresIn h.payloadStage_agrees.2 hpair (by
      simpa using ⟨hinside', hinside⟩)
    obtain ⟨first', rest', rfl, hfirstCore, hrest⟩ := List.map_eq_cons_iff.mp hcores
    obtain ⟨item', rfl, hitemCore⟩ := List.map_eq_singleton_iff.mp hrest
    obtain ⟨-, hfirst', hfields⟩ := StructItem.core_eq_iff.mp hfirstCore
    obtain ⟨hname', hclaimed', -⟩ := StructItem.core_eq_iff.mp hitemCore
    rw [← hname']
    refine mem_rejectedNames_of_sublist hpair' (hfirst'.trans hfirst) (hclaimed'.trans hclaimed) ?_
    rw [hfields]
    exact fun field hfield hbytes' => hbytes field hfield (htypes.notFromBytes_iff.mpr hbytes')

omit [DecidablePred inside] in
theorem HasPart.nodup_payload_names (h : scope.HasPart config api part index inside) :
    ((config.includedCallbacks api).map (·.name)).Nodup :=
  h.names.sublist ((List.sublist_append_left _ _).map _)

omit [DecidablePred inside] in
theorem HasPart.nodup_part_names (h : scope.HasPart config api part index inside) :
    ((config.includedCallbacks part).map (·.name)).Nodup := by
  obtain ⟨stays, hpayloads, -⟩ := h.payloads
  rw [hpayloads]
  exact h.nodup_payload_names.sublist (List.filter_sublist.map _)

theorem mem_drafts_callbackStructs_iff {layouts : Layouts} {item : StructItem} :
    item ∈ (scope.drafts config api layouts).items.callbackStructs
      ↔ item ∈ (scope.payloadStage config api layouts).made
        ∧ item.name ∉ rejectedNames (scope.outcomes config api layouts) := by
  show item ∈ List.filter _ _ ↔ _
  rw [List.mem_filter, Bool.not_eq_true', ← Bool.not_eq_true, List.contains_iff_mem]
  rfl

/-- The struct with the name of a payload of the module is the one that the payload is made
from. -/
theorem callbackId_of_mem_callbackStructs
    (hnames : ((config.includedCallbacks api).map (·.name)).Nodup) {item made : StructItem}
    (hitem : item ∈ (scope.generate config api reportA reportB).bindings.callbackStructs)
    (hmade : made ∈ (scope.payloadStage config api (layoutsOf config api reportA reportB)).made)
    (hname : item.name = made.name) : item.callbackId = made.callbackId := by
  obtain ⟨draft, hdraft, hdraftName, hdraftId, -⟩ := exists_draft_of_mem_callbackStructs hitem
  have heq : draft = made := List.inj_on_of_nodup_map (nodup_payloadStage_names hnames)
    (mem_drafts_callbackStructs_iff.mp hdraft).1 hmade (hdraftName.trans hname)
  rw [← heq, hdraftId]

/-- A struct of the set that gets the number in the run over the part gets it in the whole run,
unless it is rejected there. -/
theorem HasPart.exists_callback_or_rejected (h : scope.HasPart config api part index inside)
    (hinside : inside name)
    (hclaim : ∀ decl ∈ config.includedCallbacks api, inside decl.name →
      decl.callbackId = some id → decl.name = name)
    (htaken : ∀ second first taken, ⟨second, .callbackIdTaken taken first second⟩
      ∈ scope.rejections config api reportA reportB → taken ≠ id → inside second → inside first)
    (halone : ∃ callback ∈ ((scope.withIndex index).generate config part reportA
        reportB).bindings.callbacks, callback.id = id ∧ callback.payload = name) :
    (∃ callback ∈ (scope.generate config api reportA reportB).bindings.callbacks,
        callback.id = id)
      ∨ ∃ first, ⟨name, .callbackIdTaken id first name⟩
          ∈ scope.rejections config api reportA reportB
        ∧ first ∉ (scope.generate config api reportA reportB).bindings.callbackStructs.map
          (·.name) := by
  obtain ⟨brought, hextends, hclosed⟩ := h.closed
  obtain ⟨final, hfinal, hfinalId, hfinalName⟩ := (exists_callback_iff h.nodup_part_names).mp halone
  obtain ⟨draft, hdraft, hdraftName, hdraftId, hdraftKept⟩ :=
    exists_draft_of_mem_callbackStructs hfinal
  obtain ⟨hmade, haccepted⟩ := mem_drafts_callbackStructs_iff.mp hdraft
  rw [hfinalName] at hdraftName
  obtain ⟨item, hitem, hcore⟩ := exists_mem_of_coresIn h.payloadStage_agrees.2.symm hmade
    (hdraftName ▸ hinside)
  obtain ⟨hitemName, hitemId, hitemFields⟩ := StructItem.core_eq_iff.mp hcore
  have hid : item.callbackId = some id := hitemId.trans (hdraftId.trans hfinalId)
  have hname : item.name = name := hitemName.trans hdraftName
  by_cases hrejected : name ∈ rejectedNames
      (scope.outcomes config api (layoutsOf config api reportA reportB))
  · obtain ⟨issue, hissue, hentity⟩ := List.mem_map.mp hrejected
    obtain ⟨other, hother, claimed, hclaimed, hotherName, hreason⟩ := exists_of_mem_rejected hissue
    have heq : other = item := List.inj_on_of_nodup_map
      (nodup_payloadStage_names h.nodup_payload_names) hother hitem
      (hotherName.trans (hentity.trans hname.symm))
    cases heq
    cases hclaimed.symm.trans hid
    rcases hreason with ⟨field, hfield, hbytes⟩ | ⟨first, hpair, hfirst, -, hissue'⟩
    · refine absurd ?_ haccepted
      exact mem_rejectedNames_of_notFromBytes hmade (hdraftId.trans hfinalId)
        (hitemFields ▸ hfield) (hextends.toSameTypes.notFromBytes_iff.mp hbytes)
    · by_cases hkept : first.name
          ∈ (scope.generate config api reportA reportB).bindings.callbackStructs.map (·.name)
      · obtain ⟨holder, hholder, hholderName⟩ := List.mem_map.mp hkept
        have hholderId := callbackId_of_mem_callbackStructs h.nodup_payload_names hholder
          (hpair.subset List.mem_cons_self) hholderName
        obtain ⟨callback, hcallback, hcallbackId, -⟩ :=
          (exists_callback_iff h.nodup_payload_names).mpr
            ⟨holder, hholder, hholderId.trans hfirst, rfl⟩
        exact .inl ⟨callback, hcallback, hcallbackId⟩
      · refine .inr ⟨first.name, ?_, hkept⟩
        rw [hname] at hissue'
        rw [← hissue', ← hentity]
        exact hissue
  · have hleft := h.mem_leftOut (h.mem_rejectedNames hrejected hclaim htaken)
    have hkept : ∀ other ∈ item.fieldNames, other ∉ scope.leftOut config api reportA reportB := by
      intro other hother hdropped
      have hmentions := hclosed.mentions _ _ (mentions_of_mem_fieldNames (.inl hitem) hother)
        (hname ▸ hinside)
      refine hdraftKept other ?_ (hleft other hdropped hmentions)
      rwa [StructItem.fieldNames, ← hitemFields]
    obtain ⟨payload, hpayload, hpayloadName, hpayloadId⟩ := exists_mem_callbackStructs_of_draft
      (mem_drafts_callbackStructs_iff.mpr ⟨hitem, hname ▸ hrejected⟩) hkept
    obtain ⟨callback, hcallback, hcallbackId, -⟩ :=
      (exists_callback_iff h.nodup_payload_names).mpr
        ⟨payload, hpayload, hpayloadId.trans hid, rfl⟩
    exact .inl ⟨callback, hcallback, hcallbackId⟩

end Rejected

/-- A rival brings its name. -/
theorem not_isRivalOf_of_inside {scope : Scope} {config : Config} {api : Api} {name : String}
    {id : Int} {inside : String → Prop}
    (hclosed : scope.IsClosed config api (api.rivalNames name id) inside) {decl : StructDecl}
    (hdecl : decl ∈ api.callbackStructs) (hinside : inside decl.name) :
    decl.isRivalOf name id = false := by
  rw [Bool.eq_false_iff]
  intro hrival
  exact hclosed.not_brought decl.name hinside (List.mem_flatMap.mpr
    ⟨decl, List.mem_filter.mpr ⟨hdecl, hrival⟩, List.mem_cons_self⟩)

theorem hasPart_withoutRivals {scope : Scope} {config : Config} {api : Api} {name : String}
    {id : Int} {inside : String → Prop}
    (hindex : scope.index = .ofApi api config.extraTypedefs config.opaqueTypes)
    (hnames : ((api.callbackStructs ++ api.structs).map (·.name)).Nodup)
    (hclosed : scope.IsClosed config api (api.rivalNames name id) inside) :
    scope.HasPart config api (api.withoutRivals name id)
      (.ofApi (api.withoutRivals name id) config.extraTypedefs config.opaqueTypes) inside where
  names := hnames.sublist ((List.filter_sublist.append (List.Sublist.refl _)).map _)
  typedefs := rfl
  structs := rfl
  payloads := by
    refine ⟨(!·.isRivalOf name id), ?_, fun decl hdecl hinside => ?_⟩
    · rw [Config.includedCallbacks, Config.includedCallbacks, Api.withoutRivals,
        List.filter_filter, List.filter_filter]
      exact List.filter_congr fun _ _ => Bool.and_comm _ _
    · rw [Bool.not_eq_true']
      exact not_isRivalOf_of_inside hclosed (List.mem_filter.mp hdecl).1 hinside
  closed := ⟨_, hindex ▸ Index.extends_withoutRivals api name id config.extraTypedefs
    config.opaqueTypes, hclosed⟩

/-- What a run rejects it reports. -/
theorem mem_errors_of_mem_rejections {scope : Scope} {config : Config} {api : Api}
    {reportA reportB : PlatformReport} {second first : String} {taken : Int}
    (h : ⟨second, .callbackIdTaken taken first second⟩
      ∈ scope.rejections config api reportA reportB) :
    ⟨second, .callbackIdTaken taken first second⟩
      ∈ (scope.generate config api reportA reportB).report.errors :=
  List.mem_filter.mpr ⟨List.mem_append_left _ (List.mem_append_left _
    (List.mem_append_right _ h)), rfl⟩

theorem isClosed_not_isTied (scope : Scope) (config : Config) (api : Api)
    (errors : List EntityIssue) (brought : List String) (id : Int) :
    scope.IsClosed config api brought
      (¬ scope.IsTied config api errors brought id ·) where
  not_brought _ hother hbrought := hother (.brought hbrought)
  mentions _ _ hmentions hother hthird := hother (.mentions hmentions hthird)

theorem name_eq_of_not_rival {scope : Scope} {config : Config} {api : Api} {name : String}
    {id : Int} {inside : String → Prop}
    (hclosed : scope.IsClosed config api (api.rivalNames name id) inside) {decl : StructDecl}
    (hdecl : decl ∈ config.includedCallbacks api) (hinside : inside decl.name)
    (hid : decl.callbackId = some id) : decl.name = name := by
  by_contra hne
  have hrival : decl.isRivalOf name id = true := by simp [StructDecl.isRivalOf, hid, hne]
  rw [not_isRivalOf_of_inside hclosed (List.mem_filter.mp hdecl).1 hinside] at hrival
  cases hrival

/-- The number that a payload gets without its rivals is the number of a callback, or the payload
is rejected for one that is left out, or it is tied to the rivals. -/
theorem exists_callback_or_isTied {scope : Scope} {config : Config} {api : Api}
    {reportA reportB : PlatformReport} {name : String} {id : Int} {index : Index}
    (hindex : scope.index = .ofApi api config.extraTypedefs config.opaqueTypes)
    (hpart : index = .ofApi (api.withoutRivals name id) config.extraTypedefs config.opaqueTypes)
    (hnames : ((api.callbackStructs ++ api.structs).map (·.name)).Nodup)
    (halone : ∃ callback ∈ ((scope.withIndex index).generate config (api.withoutRivals name id)
      reportA reportB).bindings.callbacks, callback.id = id ∧ callback.payload = name)
    {full : Generated} (hfull : full = scope.generate config api reportA reportB) :
    (∃ callback ∈ full.bindings.callbacks, callback.id = id)
      ∨ (∃ first, ⟨name, .callbackIdTaken id first name⟩ ∈ full.report.errors
          ∧ first ∉ full.bindings.callbackStructs.map (·.name))
      ∨ scope.IsTied config api full.report.errors (api.rivalNames name id) id name := by
  classical
  by_cases htied : scope.IsTied config api full.report.errors (api.rivalNames name id) id name
  · exact .inr (.inr htied)
  · have hclosed := scope.isClosed_not_isTied config api full.report.errors
      (api.rivalNames name id) id
    have htaken : ∀ second first taken, ⟨second, .callbackIdTaken taken first second⟩
        ∈ scope.rejections config api reportA reportB → taken ≠ id →
        ¬ scope.IsTied config api full.report.errors (api.rivalNames name id) id second →
        ¬ scope.IsTied config api full.report.errors (api.rivalNames name id) id first :=
      fun second first taken hissue hne hsecond hfirst =>
        hsecond (.idTaken (hfull ▸ mem_errors_of_mem_rejections hissue) hne hfirst)
    have hparts := hpart ▸ hasPart_withoutRivals hindex hnames hclosed
    rcases hparts.exists_callback_or_rejected htied
      (fun decl => name_eq_of_not_rival hclosed) htaken halone with hkept | ⟨first, hissue, hfirst⟩
    · exact .inl (hfull ▸ hkept)
    · exact .inr (.inl ⟨first, hfull ▸ mem_errors_of_mem_rejections hissue, hfull ▸ hfirst⟩)

end Scope

/-- A number that a payload gets once nobody else claims it is the number of some callback of the
whole module. If it is not, the report blames a payload that the module does not have, or the
payload is tied to the names of its rivals. -/
theorem generate_callbackId_claimed {patterns : PatternLanguage} {config : Config} {api : Api}
    {reportA reportB : PlatformReport} {name : String} {id : Int} {alone : Generated}
    (hnames : ((api.callbackStructs ++ api.structs).map (·.name)).Nodup)
    (halone : config.generate patterns (api.withoutRivals name id) reportA reportB = .ok alone)
    (hemitted : ∃ callback ∈ alone.bindings.callbacks,
      callback.id = id ∧ callback.payload = name) :
    ∃ scope full, Scope.ofConfig patterns config api = .ok scope
      ∧ config.generate patterns api reportA reportB = .ok full
      ∧ ((∃ callback ∈ full.bindings.callbacks, callback.id = id)
        ∨ (∃ first, ⟨name, .callbackIdTaken id first name⟩ ∈ full.report.errors
            ∧ first ∉ full.bindings.callbackStructs.map (·.name))
        ∨ scope.IsTied config api full.report.errors (api.rivalNames name id) id name) := by
  obtain ⟨retypers, hretypers, rfl⟩ := Config.generate_eq_ok_iff.mp halone
  refine ⟨config.scope api retypers, _, ?_, Config.generate_eq_ok_iff.mpr
    ⟨retypers, hretypers, rfl⟩, ?_⟩
  · rw [Scope.ofConfig, hretypers]
    rfl
  · have hscope : config.scope (api.withoutRivals name id) retypers
        = (config.scope api retypers).withIndex
          (.ofApi (api.withoutRivals name id) config.extraTypedefs config.opaqueTypes) := rfl
    rw [hscope] at hemitted
    exact Scope.exists_callback_or_isTied rfl rfl hnames hemitted rfl

/-- Two payloads with one number, the first of which refers to a struct. -/
def claimedApi : Api where
  callbackStructs := [
    { name := "First_t", callbackId := some 7, fields := [⟨"m_pGone", "Gone_t *"⟩] },
    { name := "Second_t", callbackId := some 7, fields := [⟨"m_nCount", "int"⟩] }]
  structs := [{ name := "Gone_t", fields := [⟨"m_nCount", "int"⟩] }]

def claimedReport : PlatformReport :=
  .ofList [("First_t", ⟨8, 8, [⟨"m_pGone", 8, 8, some 0⟩]⟩),
    ("Second_t", ⟨4, 4, [⟨"m_nCount", 4, 4, some 0⟩]⟩)]

def secondReport : PlatformReport :=
  .ofList [("Second_t", ⟨4, 4, [⟨"m_nCount", 4, 4, some 0⟩]⟩)]

/-- The second payload mentions nothing. -/
theorem not_mentions_second {scope : Scope}
    (hscope : Scope.ofConfig Pattern.language unionConfig claimedApi = .ok scope) (other : String) :
    ¬ scope.Mentions unionConfig claimedApi "Second_t" other := by
  have hnames : ∀ decl ∈ unionConfig.structDecls claimedApi, decl.name = "Second_t" →
      ∀ field ∈ decl.fields, (scope.resolveIn [] decl.name (decl.name ++ "." ++ field.name)
        (scope.retypedSpelling field.name field.type) .value).toOption.map (·.names)
          = some [] := by
    cases hscope
    decide +kernel
  generalize hname : "Second_t" = name
  intro hmentions
  cases hmentions with
  | typedef hentry _ _ => exact nomatch hentry
  | @field decl field type _ hdecl hfield htype hother =>
    have hnone := hnames decl hdecl hname.symm field hfield
    rw [htype] at hnone
    have hnil : type.names = [] := Option.some.inj hnone
    rw [hnil] at hother
    exact nomatch hother

/-- A payload without a layout does not take the number from the next one. -/
theorem generate_callbackId_claimed_unreported :
    ∃ alone full,
      ((claimedApi.callbackStructs ++ claimedApi.structs).map (·.name)).Nodup
      ∧ unionConfig.generate Pattern.language (claimedApi.withoutRivals "Second_t" 7) secondReport
        secondReport = .ok alone
      ∧ (∃ callback ∈ alone.bindings.callbacks, callback.id = 7 ∧ callback.payload = "Second_t")
      ∧ unionConfig.generate Pattern.language claimedApi secondReport secondReport = .ok full
      ∧ full.bindings.callbacks.map (fun callback => (callback.id, callback.payload))
        = [(7, "Second_t")] := by
  have hnames : ((claimedApi.callbackStructs ++ claimedApi.structs).map (·.name)).Nodup := by
    decide
  obtain ⟨alone, halone, hemitted⟩ : ∃ alone, unionConfig.generate Pattern.language
      (claimedApi.withoutRivals "Second_t" 7) secondReport secondReport = .ok alone
        ∧ ∃ callback ∈ alone.bindings.callbacks,
          callback.id = 7 ∧ callback.payload = "Second_t" :=
    ⟨_, rfl, by decide +kernel⟩
  obtain ⟨scope, full, hscope, hfull, hkept⟩ :=
    generate_callbackId_claimed hnames halone hemitted
  refine ⟨alone, full, hnames, halone, hemitted, hfull, ?_⟩
  obtain ⟨hpayloads, hblameless⟩ : full.bindings.callbacks.map (·.payload) = ["Second_t"]
      ∧ ∀ issue ∈ full.report.errors, issue.entity ≠ "Second_t" := by
    cases hfull
    decide +kernel
  obtain ⟨callback, hone, hpayload⟩ := List.map_eq_singleton_iff.mp hpayloads
  rcases hkept with ⟨kept, hkept, hid⟩ | ⟨first, hissue, -⟩ | htied
  · rw [hone, List.mem_singleton] at hkept
    rw [hone, List.map_singleton, ← hkept, hid, hkept, hpayload]
  · exact absurd rfl (hblameless _ hissue)
  · cases htied with
    | brought h => exact absurd h (by decide)
    | mentions h _ => exact absurd h (not_mentions_second hscope _)
    | idTaken h _ _ => exact absurd rfl (hblameless _ h)

/-- The number that goes to the first payload is lost with it. -/
theorem generate_callbackId_lost :
    ∃ alone full,
      ((claimedApi.callbackStructs ++ claimedApi.structs).map (·.name)).Nodup
      ∧ unionConfig.generate Pattern.language (claimedApi.withoutRivals "Second_t" 7) claimedReport
        claimedReport = .ok alone
      ∧ (∃ callback ∈ alone.bindings.callbacks, callback.id = 7 ∧ callback.payload = "Second_t")
      ∧ unionConfig.generate Pattern.language claimedApi claimedReport claimedReport = .ok full
      ∧ ¬ ∃ callback ∈ full.bindings.callbacks, callback.id = 7 :=
  ⟨_, _, by decide, rfl, by decide +kernel, rfl, by decide +kernel⟩

end AbiBridge
