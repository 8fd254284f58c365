import AbiBridge.Proofs.Descriptor.Extension
import AbiBridge.Proofs.Generate.OrderIndependence

/-!
# Runs over a descriptor and over a part of it

A set of entities is closed if none of them mentions an entity outside it. If no name of the set
was brought by the payloads that the part lacks, both runs make the same typedefs and structs of
the set, in the same order.
-/

namespace AbiBridge

namespace Scope

/-- The typedef or the struct of the first name mentions the second name in a type that it is
made from. -/
inductive Mentions (scope : Scope) (config : Config) (api : Api) : String → String → Prop where
  | typedef {name raw other : String} {type : CType}
      (hentry : (name, raw) ∈ config.typedefEntries api)
      (htype : scope.resolve [] name raw .value = .ok type) (hother : other ∈ type.names) :
      Mentions scope config api name other
  | field {decl : StructDecl} {field : FieldDecl} {type : CType} {other : String}
      (hdecl : decl ∈ config.structDecls api) (hfield : field ∈ decl.fields)
      (htype : scope.resolveIn [] decl.name (decl.name ++ "." ++ field.name)
        (scope.retypedSpelling field.name field.type) .value = .ok type)
      (hother : other ∈ type.names) : Mentions scope config api decl.name other

/-- The entities of the set mention no others, and none of their names was brought. -/
structure IsClosed (scope : Scope) (config : Config) (api : Api) (brought : List String)
    (inside : String → Prop) : Prop where
  not_brought : ∀ name, inside name → name ∉ brought
  mentions : ∀ name other, scope.Mentions config api name other → inside name → inside other

end Scope

def AgreeOn (inside : String → Prop) (dropped dropped' : List String) : Prop :=
  ∀ name, inside name → (name ∈ dropped ↔ name ∈ dropped')

theorem AgreeOn.refl (inside : String → Prop) (dropped : List String) :
    AgreeOn inside dropped dropped :=
  fun _ _ => Iff.rfl

theorem AgreeOn.cons {inside : String → Prop} {dropped dropped' : List String}
    (h : AgreeOn inside dropped dropped') (first : String) :
    AgreeOn inside (first :: dropped) (first :: dropped') := by
  intro name hname
  rw [List.mem_cons, List.mem_cons, h name hname]

theorem agreeOn_cons_of_not_inside {inside : String → Prop} {first : String}
    (hfirst : ¬ inside first) (dropped : List String) :
    AgreeOn inside (first :: dropped) dropped := by
  intro name hname
  have hne : name ≠ first := fun heq => hfirst (heq ▸ hname)
  rw [List.mem_cons, or_iff_right hne]

theorem AgreeOn.symm {inside : String → Prop} {dropped dropped' : List String}
    (h : AgreeOn inside dropped dropped') : AgreeOn inside dropped' dropped :=
  fun name hname => (h name hname).symm

theorem AgreeOn.trans {inside : String → Prop} {dropped dropped' dropped'' : List String}
    (h : AgreeOn inside dropped dropped') (h' : AgreeOn inside dropped' dropped'') :
    AgreeOn inside dropped dropped'' :=
  fun name hname => (h name hname).trans (h' name hname)

@[simp] theorem toOption_eq_some_iff {ε α : Type} {result : Except ε α} {a : α} :
    result.toOption = some a ↔ result = .ok a := by
  cases result <;> simp [Except.toOption]

theorem toOption_mapM_congr {ε α β : Type} {f g : α → Except ε β} {items : List α}
    (h : ∀ a ∈ items, ∀ b, f a = .ok b ↔ g a = .ok b) :
    (items.mapM f).toOption = (items.mapM g).toOption := by
  refine Option.ext fun made => ?_
  rw [toOption_eq_some_iff, toOption_eq_some_iff]
  exact ⟨fun hmade => mapM_eq_ok_of hmade fun a ha b _ => (h a ha b).mp,
    fun hmade => mapM_eq_ok_of hmade fun a ha b _ => (h a ha b).mpr⟩

/-- What the other struct of a run over a part of the descriptor has in common with a struct. -/
def StructItem.core (item : StructItem) : String × Option Int × List FieldItem :=
  (item.name, item.callbackId, item.fields)

theorem StructItem.core_eq_iff {item item' : StructItem} :
    item.core = item'.core ↔ item.name = item'.name ∧ item.callbackId = item'.callbackId
      ∧ item.fields = item'.fields := by
  rw [core, core, Prod.mk.injEq, Prod.mk.injEq]

/-- The structs of the set, as far as both runs have them. -/
def coresIn (inside : String → Prop) [DecidablePred inside] (items : List StructItem) :
    List (String × Option Int × List FieldItem) :=
  (items.filter fun item => inside item.name).map (·.core)

namespace Scope

section Parts

variable {scope : Scope} {config : Config} {api : Api} {index : Index} {brought : List String}
  {inside : String → Prop} (hextends : scope.index.Extends index brought)
  (hclosed : scope.IsClosed config api brought inside) {dropped dropped' : List String}
include hextends hclosed

/-! ## Reading types -/

omit hclosed in
/-- A name reads the same with the smaller index if it was not brought. -/
theorem checkNames_withIndex_eq_ok_iff {read read' type : CType} {entity : String}
    (hnot : ∀ name, inside name → name ∉ brought)
    (hknows : index.Knows read'.names → scope.index.Knows read.names)
    (hsame : (∀ name ∈ read.names, name ∉ brought) → read' = read)
    (hinside : scope.checkNames [] entity read = .ok read → ∀ name ∈ read.names, inside name)
    (hagree : AgreeOn inside dropped dropped') :
    (scope.withIndex index).checkNames dropped' entity read' = .ok type
      ↔ scope.checkNames dropped entity read = .ok type := by
  have hnames : scope.index.Knows read.names → ∀ name ∈ read.names, inside name := fun hknown =>
    hinside (checkNames_eq_ok_iff.mpr ⟨rfl, hknown, fun _ _ => List.not_mem_nil⟩)
  rw [checkNames_eq_ok_iff, checkNames_eq_ok_iff]
  constructor
  · rintro ⟨rfl, hknown, hkept⟩
    have hread := hnames (hknows hknown)
    have heq := hsame fun name hname => hnot name (hread name hname)
    rw [heq] at hkept ⊢
    exact ⟨rfl, hknows hknown, fun name hname => mt (hagree name (hread name hname)).mp
      (hkept name hname)⟩
  · rintro ⟨rfl, hknown, hkept⟩
    have hread := hnames hknown
    have heq := hsame fun name hname => hnot name (hread name hname)
    rw [heq]
    refine ⟨rfl, fun name hname => ?_, fun name hname => mt (hagree name (hread name hname)).mpr
      (hkept name hname)⟩
    exact ((hextends.contains_iff name).mp (hknown name hname)).resolve_right
      (hnot name (hread name hname))

theorem resolve_withIndex_eq_ok_iff (hagree : AgreeOn inside dropped dropped') {name raw : String}
    (hentry : (name, raw) ∈ config.typedefEntries api) (hinside : inside name) (type : CType) :
    (scope.withIndex index).resolve dropped' name raw .value = .ok type
      ↔ scope.resolve dropped name raw .value = .ok type := by
  have hmentions : ∀ read, scope.resolve [] name raw .value = .ok read →
      ∀ other ∈ read.names, inside other := fun read hread other hother =>
    hclosed.mentions name other (.typedef hentry hread hother) hinside
  rw [resolve, resolve]
  simp only [resolve] at hmentions
  change (scope.resolver.resolve raw .value).mapError _ >>= _ = _ ↔ _
  cases hread : scope.resolver.resolve raw .value with
  | error failure => exact Iff.rfl
  | ok read =>
    rw [hread] at hmentions
    exact checkNames_withIndex_eq_ok_iff hextends hclosed.not_brought
      (fun hknown name hname => hextends.contains (hknown name hname)) (fun _ => rfl)
      (hmentions read) hagree

theorem fieldItem_withIndex_eq_ok_iff (hagree : AgreeOn inside dropped dropped')
    {decl : StructDecl} (hdecl : decl ∈ config.structDecls api) {field : FieldDecl}
    (hfield : field ∈ decl.fields) (hinside : inside decl.name) {item : FieldItem} :
    (scope.withIndex index).fieldItem dropped' decl.name field = .ok item
      ↔ scope.fieldItem dropped decl.name field = .ok item := by
  have hmentions : ∀ read, scope.resolveIn [] decl.name (decl.name ++ "." ++ field.name)
      (scope.retypedSpelling field.name field.type) .value = .ok read →
        ∀ other ∈ read.names, inside other := fun read hread other hother =>
    hclosed.mentions decl.name other (.field hdecl hfield hread hother) hinside
  have hread : ∀ type, (scope.withIndex index).resolveIn dropped' decl.name
      (decl.name ++ "." ++ field.name) (scope.retypedSpelling field.name field.type) .value
        = .ok type
      ↔ scope.resolveIn dropped decl.name (decl.name ++ "." ++ field.name)
          (scope.retypedSpelling field.name field.type) .value = .ok type := by
    intro type
    rw [resolveIn, resolveIn]
    simp only [resolveIn] at hmentions
    change (scope.resolver.resolve _ .value).mapError _ >>= _ = _ ↔ _
    cases hraw : scope.resolver.resolve (scope.retypedSpelling field.name field.type) .value with
    | error failure => exact Iff.rfl
    | ok read =>
      rw [hraw] at hmentions
      exact checkNames_withIndex_eq_ok_iff hextends hclosed.not_brought hextends.knows_qualify
        hextends.qualify_eq (hmentions _) hagree
  rw [fieldItem_eq_ok_iff, fieldItem_eq_ok_iff]
  simp only [fieldType_withIndex hextends.toSameTypes]
  exact exists_congr fun type => and_congr_left fun _ => hread type

/-! ## Typedefs -/

omit hextends hclosed in
/-- An entry that is not in the set is passed over, as far as the set goes. -/
theorem exists_typedefItems_cons (scope : Scope) (dropped : List String) {name : String}
    (hname : ¬ inside name) (raw : String) (entries : List (String × String)) :
    ∃ left, AgreeOn inside left dropped
      ∧ (scope.typedefItems dropped ((name, raw) :: entries)).dropped
        = (scope.typedefItems left entries).dropped
      ∧ ∀ item, inside item.name →
        (item ∈ (scope.typedefItems dropped ((name, raw) :: entries)).made
          ↔ item ∈ (scope.typedefItems left entries).made) := by
  rw [typedefItems]
  split
  · refine ⟨dropped, AgreeOn.refl _ _, rfl, fun item hitem => ?_⟩
    refine List.mem_cons.trans (or_iff_right fun heq => hname ?_)
    rw [heq] at hitem
    exact hitem
  · exact ⟨name :: dropped, agreeOn_cons_of_not_inside hname _, rfl, fun _ _ => Iff.rfl⟩

/-- The typedefs of the set are the same, and of those that were left out too. -/
theorem typedefItems_withIndex {entries : List (String × String)}
    (hentries : entries ⊆ config.typedefEntries api) (hagree : AgreeOn inside dropped dropped') :
    AgreeOn inside (scope.typedefItems dropped entries).dropped
        ((scope.withIndex index).typedefItems dropped' entries).dropped
      ∧ ∀ item, inside item.name → (item ∈ (scope.typedefItems dropped entries).made
        ↔ item ∈ ((scope.withIndex index).typedefItems dropped' entries).made) := by
  induction entries generalizing dropped dropped' with
  | nil => exact ⟨hagree, fun _ _ => Iff.rfl⟩
  | cons entry entries ih =>
    obtain ⟨name, raw⟩ := entry
    obtain ⟨hentry, hrest⟩ := List.cons_subset.mp hentries
    by_cases hinside : inside name
    · have hread := resolve_withIndex_eq_ok_iff hextends hclosed hagree hentry hinside
      rw [typedefItems, typedefItems]
      cases htype : scope.resolve dropped name raw .value with
      | ok type =>
        rw [(hread type).mpr htype, withHandles_withIndex hextends.toSameTypes]
        obtain ⟨hdropped, hmade⟩ := ih hrest hagree
        refine ⟨hdropped, fun item hitem => ?_⟩
        exact List.mem_cons.trans ((or_congr_right (hmade item hitem)).trans List.mem_cons.symm)
      | error issue =>
        cases htype' : (scope.withIndex index).resolve dropped' name raw .value with
        | ok type => cases htype.symm.trans ((hread type).mp htype')
        | error issue' => exact ih hrest (hagree.cons name)
    · obtain ⟨left, hleft, hdropped, hmade⟩ :=
        exists_typedefItems_cons scope dropped hinside raw entries
      obtain ⟨left', hleft', hdropped', hmade'⟩ :=
        exists_typedefItems_cons (scope.withIndex index) dropped' hinside raw entries
      obtain ⟨hfinal, hsame⟩ := ih hrest (hleft.trans (hagree.trans hleft'.symm))
      rw [hdropped, hdropped']
      exact ⟨hfinal, fun item hitem => (hmade item hitem).trans
        ((hsame item hitem).trans (hmade' item hitem).symm)⟩

/-! ## Structs -/

omit hextends hclosed in
theorem toOption_structItem (layouts : Layouts) (dropped : List String) (decl : StructDecl) :
    (scope.structItem layouts dropped decl).toOption.map (·.1.core)
      = (layoutOf layouts decl).toOption.bind fun _ =>
          (decl.fields.mapM (scope.fieldItem dropped decl.name)).toOption.map fun fields =>
            (decl.name, decl.callbackId, fields) := by
  rw [structItem]
  cases layoutOf layouts decl with
  | error issue => rfl
  | ok layout => cases decl.fields.mapM (scope.fieldItem dropped decl.name) <;> rfl

/-- A struct of the set is made in both runs or in none. -/
theorem structItem_withIndex (hagree : AgreeOn inside dropped dropped') {decl : StructDecl}
    (hdecl : decl ∈ config.structDecls api) (hinside : inside decl.name) {layouts layouts' : Layouts}
    (hlayout : layoutOf layouts' decl = layoutOf layouts decl) :
    ((scope.withIndex index).structItem layouts' dropped' decl).toOption.map (·.1.core)
      = (scope.structItem layouts dropped decl).toOption.map (·.1.core) := by
  rw [toOption_structItem, toOption_structItem, hlayout, toOption_mapM_congr fun field hfield item =>
    fieldItem_withIndex_eq_ok_iff hextends hclosed hagree hdecl hfield hinside]

variable [DecidablePred inside]

omit hextends hclosed in
theorem coresIn_cons_of_inside {item : StructItem} (hinside : inside item.name)
    (items : List StructItem) :
    coresIn inside (item :: items) = item.core :: coresIn inside items := by
  rw [coresIn, List.filter_cons_of_pos (by simpa using hinside)]
  rfl

omit hextends hclosed in
theorem coresIn_cons_of_not_inside {item : StructItem} (hinside : ¬ inside item.name)
    (items : List StructItem) : coresIn inside (item :: items) = coresIn inside items := by
  rw [coresIn, List.filter_cons_of_neg (by simpa using hinside)]
  rfl

omit hextends hclosed in
/-- A struct that is not in the set is passed over, as far as the set goes. -/
theorem exists_structItems_cons (scope : Scope) (layouts : Layouts) (dropped : List String)
    {decl : StructDecl} (hdecl : ¬ inside decl.name) (decls : List StructDecl) :
    ∃ left, AgreeOn inside left dropped
      ∧ (scope.structItems layouts dropped (decl :: decls)).dropped
        = (scope.structItems layouts left decls).dropped
      ∧ coresIn inside (scope.structItems layouts dropped (decl :: decls)).made
        = coresIn inside (scope.structItems layouts left decls).made := by
  rw [structItems]
  split
  · next item log hitem =>
    refine ⟨dropped, AgreeOn.refl _ _, rfl, ?_⟩
    exact coresIn_cons_of_not_inside (by rwa [(isLookedUp_structItem hitem).1]) _
  · exact ⟨decl.name :: dropped, agreeOn_cons_of_not_inside hdecl _, rfl, rfl⟩

/-- The structs of the set are the same, and of those that were left out too. Declarations that
the smaller descriptor lacks are not in the set. -/
theorem structItems_withIndex {decls : List StructDecl} (hdecls : decls ⊆ config.structDecls api)
    {stays : StructDecl → Bool} (hstays : ∀ decl ∈ decls, inside decl.name → stays decl = true)
    {layouts layouts' : Layouts} (hlayouts : ∀ decl ∈ decls, inside decl.name →
      layoutOf layouts' decl = layoutOf layouts decl)
    (hagree : AgreeOn inside dropped dropped') :
    AgreeOn inside (scope.structItems layouts dropped decls).dropped
        ((scope.withIndex index).structItems layouts' dropped' (decls.filter stays)).dropped
      ∧ coresIn inside (scope.structItems layouts dropped decls).made
        = coresIn inside ((scope.withIndex index).structItems layouts' dropped'
            (decls.filter stays)).made := by
  induction decls generalizing dropped dropped' with
  | nil => exact ⟨hagree, rfl⟩
  | cons decl decls ih =>
    obtain ⟨hdecl, hrest⟩ := List.cons_subset.mp hdecls
    have ih {left left' : List String} (h : AgreeOn inside left left') :=
      ih hrest (fun decl hdecl => hstays decl (List.mem_cons_of_mem _ hdecl))
        (fun decl hdecl => hlayouts decl (List.mem_cons_of_mem _ hdecl)) h
    by_cases hinside : inside decl.name
    · rw [List.filter_cons_of_pos (hstays decl List.mem_cons_self hinside), structItems, structItems]
      have hsame := structItem_withIndex hextends hclosed hagree hdecl hinside
        (hlayouts decl List.mem_cons_self hinside)
      cases hitem : scope.structItem layouts dropped decl with
      | ok made =>
        rw [hitem] at hsame
        obtain ⟨made', hitem', hcore⟩ := Option.map_eq_some_iff.mp hsame
        rw [toOption_eq_some_iff] at hitem'
        rw [hitem']
        obtain ⟨hdropped, hcores⟩ := ih hagree
        refine ⟨hdropped, ?_⟩
        have hname : inside made.1.name := by rwa [(isLookedUp_structItem hitem).1]
        have hname' : inside made'.1.name := by rwa [(isLookedUp_structItem hitem').1]
        change coresIn inside (made.1 :: _) = coresIn inside (made'.1 :: _)
        rw [coresIn_cons_of_inside hname, coresIn_cons_of_inside hname', hcore, hcores]
      | error issue =>
        rw [hitem] at hsame
        cases hitem' : (scope.withIndex index).structItem layouts' dropped' decl with
        | ok made' =>
          rw [hitem'] at hsame
          cases hsame
        | error issue' => exact ih (hagree.cons decl.name)
    · obtain ⟨left, hleft, hdropped, hmade⟩ :=
        exists_structItems_cons scope layouts dropped hinside decls
      rw [hdropped, hmade]
      by_cases hstay : stays decl = true
      · obtain ⟨left', hleft', hdropped', hmade'⟩ := exists_structItems_cons
          (scope.withIndex index) layouts' dropped' hinside (decls.filter stays)
        rw [List.filter_cons_of_pos hstay, hdropped', hmade']
        exact ih (hleft.trans (hagree.trans hleft'.symm))
      · rw [List.filter_cons_of_neg hstay]
        exact ih (hleft.trans hagree)

end Parts

end Scope

section Cores

variable {inside : String → Prop} [DecidablePred inside] {items items' : List StructItem}
  (h : coresIn inside items = coresIn inside items')
include h

theorem exists_sublist_of_coresIn {part : List StructItem} (hpart : part.Sublist items)
    (hinside : ∀ item ∈ part, inside item.name) :
    ∃ part' : List StructItem, part'.Sublist items' ∧ part'.map (·.core) = part.map (·.core) := by
  have hcores : (part.map (·.core)).Sublist (coresIn inside items') := by
    rw [← h, coresIn, ← List.filter_eq_self.mpr fun item hitem => decide_eq_true (hinside item hitem)]
    exact (hpart.filter _).map _
  obtain ⟨part', hpart', heq⟩ := List.sublist_map_iff.mp hcores
  exact ⟨part', hpart'.trans List.filter_sublist, heq.symm⟩

theorem exists_mem_of_coresIn {item : StructItem} (hitem : item ∈ items)
    (hinside : inside item.name) : ∃ item' ∈ items', item'.core = item.core := by
  obtain ⟨part', hpart', hcores⟩ := exists_sublist_of_coresIn h (List.singleton_sublist.mpr hitem)
    fun other hother => List.mem_singleton.mp hother ▸ hinside
  obtain ⟨item', rfl, hcore⟩ := List.map_eq_singleton_iff.mp hcores
  exact ⟨item', List.singleton_sublist.mp hpart', hcore⟩

end Cores

/-! ## Runs -/

/-- The part of a descriptor lacks some payloads, but none of the set, and the set is closed. -/
structure Scope.HasPart (scope : Scope) (config : Config) (api part : Api) (index : Index)
    (inside : String → Prop) : Prop where
  names : ((config.structDecls api).map (·.name)).Nodup
  typedefs : part.typedefs = api.typedefs
  structs : part.structs = api.structs
  payloads : ∃ stays : StructDecl → Bool,
    config.includedCallbacks part = (config.includedCallbacks api).filter stays
      ∧ ∀ decl ∈ config.includedCallbacks api, inside decl.name → stays decl = true
  closed : ∃ brought, scope.index.Extends index brought
    ∧ scope.IsClosed config api brought inside

namespace Scope

variable {scope : Scope} {config : Config} {api part : Api} {index : Index}
  {inside : String → Prop} {reportA reportB : PlatformReport}

/-- A struct of the drafts mentions what its fields name. -/
theorem mentions_of_mem_fieldNames {item : StructItem} {layouts : Layouts}
    (hitem : item ∈ (scope.payloadStage config api layouts).made
      ∨ item ∈ (scope.structStage config api layouts).made) {other : String}
    (hother : other ∈ item.fieldNames) : scope.Mentions config api item.name other := by
  have hmade : ∃ decl ∈ config.structDecls api, ∃ dropped,
      scope.IsMadeFrom layouts dropped item decl := by
    rcases hitem with hpayload | hstruct
    · obtain ⟨decl, hdecl, hmade⟩ := exists_isMadeFrom hpayload
      exact ⟨decl, List.mem_append_left _ hdecl, _, hmade⟩
    · obtain ⟨decl, hdecl, hmade⟩ := exists_isMadeFrom hstruct
      exact ⟨decl, List.mem_append_right _ hdecl, _, hmade⟩
  obtain ⟨decl, hdecl, dropped, hmade⟩ := hmade
  obtain ⟨field, hfield, hother⟩ := List.mem_flatMap.mp hother
  obtain ⟨fieldDecl, hfieldDecl, hread⟩ := hmade.fields field hfield
  obtain ⟨type, htype, rfl⟩ := fieldItem_eq_ok_iff.mp hread
  rw [hmade.name]
  exact .field hdecl hfieldDecl htype (names_fieldType scope fieldDecl.name type hother)

/-- A struct that is made and not left out has no field that reads what is. -/
theorem not_mem_leftOut_of_mem_fieldNames {item : StructItem}
    (hmade : item ∈ (scope.payloadStage config api (layoutsOf config api reportA reportB)).made
      ∨ item ∈ (scope.structStage config api (layoutsOf config api reportA reportB)).made)
    (hkept : item.name ∉ scope.leftOut config api reportA reportB) :
    ∀ other ∈ item.fieldNames, other ∉ scope.leftOut config api reportA reportB := by
  have hdraft : item ∈ (scope.drafts config api
      (layoutsOf config api reportA reportB)).items.allStructs := by
    refine mem_drafts_allStructs_iff.mpr (hmade.imp_left fun hpayload => ⟨hpayload, ?_⟩)
    exact fun hrejected => hkept (subset_pruneAll_dropped _ _ (List.mem_append_left _ hrejected))
  exact not_mem_dropped_of_mem_allStructs hdraft hkept

namespace HasPart

variable (h : scope.HasPart config api part index inside)
include h

theorem ownTypedefs_eq : config.ownTypedefs part = config.ownTypedefs api := by
  rw [Config.ownTypedefs, Config.ownTypedefs, h.typedefs]

theorem structDecls_sublist : (config.structDecls part).Sublist (config.structDecls api) := by
  obtain ⟨stays, hpayloads, -⟩ := h.payloads
  rw [Config.structDecls, Config.structDecls, hpayloads, h.structs]
  exact List.filter_sublist.append (List.Sublist.refl _)

theorem layoutOf_eq {decl : StructDecl} (hdecl : decl ∈ config.structDecls part) :
    layoutOf (layoutsOf config part reportA reportB) decl
      = layoutOf (layoutsOf config api reportA reportB) decl := by
  rw [layoutOf_layoutsOf (h.names.sublist (h.structDecls_sublist.map _)) reportA reportB hdecl,
    layoutOf_layoutsOf h.names reportA reportB (h.structDecls_sublist.subset hdecl)]

theorem extraStage_agrees :
    AgreeOn inside (scope.extraStage config).dropped
        ((scope.withIndex index).extraStage config).dropped
      ∧ ∀ item, inside item.name → (item ∈ (scope.extraStage config).made
        ↔ item ∈ ((scope.withIndex index).extraStage config).made) := by
  obtain ⟨brought, hextends, hclosed⟩ := h.closed
  exact typedefItems_withIndex hextends hclosed (List.subset_append_left _ _)
    (AgreeOn.refl inside [])

theorem typedefStage_agrees :
    AgreeOn inside (scope.typedefStage config api).dropped
        ((scope.withIndex index).typedefStage config part).dropped
      ∧ ∀ item, inside item.name → (item ∈ (scope.typedefStage config api).made
        ↔ item ∈ ((scope.withIndex index).typedefStage config part).made) := by
  obtain ⟨brought, hextends, hclosed⟩ := h.closed
  rw [typedefStage, typedefStage, h.ownTypedefs_eq]
  exact typedefItems_withIndex hextends hclosed (List.subset_append_right _ _)
    h.extraStage_agrees.1

variable [DecidablePred inside]

theorem payloadStage_agrees :
    AgreeOn inside (scope.payloadStage config api (layoutsOf config api reportA reportB)).dropped
        ((scope.withIndex index).payloadStage config part
          (layoutsOf config part reportA reportB)).dropped
      ∧ coresIn inside (scope.payloadStage config api (layoutsOf config api reportA reportB)).made
        = coresIn inside ((scope.withIndex index).payloadStage config part
            (layoutsOf config part reportA reportB)).made := by
  obtain ⟨brought, hextends, hclosed⟩ := h.closed
  obtain ⟨stays, hpayloads, hstays⟩ := h.payloads
  have hlayouts : ∀ decl ∈ config.includedCallbacks api, inside decl.name →
      layoutOf (layoutsOf config part reportA reportB) decl
        = layoutOf (layoutsOf config api reportA reportB) decl := by
    intro decl hdecl hinside
    refine h.layoutOf_eq (List.mem_append_left _ ?_)
    rw [hpayloads]
    exact List.mem_filter.mpr ⟨hdecl, hstays decl hdecl hinside⟩
  rw [payloadStage, payloadStage, hpayloads]
  exact structItems_withIndex hextends hclosed (List.subset_append_left _ _) hstays hlayouts
    h.typedefStage_agrees.1

theorem structStage_agrees :
    AgreeOn inside (scope.structStage config api (layoutsOf config api reportA reportB)).dropped
        ((scope.withIndex index).structStage config part
          (layoutsOf config part reportA reportB)).dropped
      ∧ coresIn inside (scope.structStage config api (layoutsOf config api reportA reportB)).made
        = coresIn inside ((scope.withIndex index).structStage config part
            (layoutsOf config part reportA reportB)).made := by
  obtain ⟨brought, hextends, hclosed⟩ := h.closed
  have hall : api.structs.filter (fun _ => true) = part.structs := by
    rw [h.structs, List.filter_true]
  have hlayouts : ∀ decl ∈ api.structs, inside decl.name →
      layoutOf (layoutsOf config part reportA reportB) decl
        = layoutOf (layoutsOf config api reportA reportB) decl :=
    fun decl hdecl _ => h.layoutOf_eq (List.mem_append_right _ (h.structs ▸ hdecl))
  rw [structStage, structStage, ← hall]
  exact structItems_withIndex hextends hclosed (List.subset_append_right _ _)
    (fun _ _ _ => rfl) hlayouts h.payloadStage_agrees.1

/-- A struct of the set that is made is made in the run over the part too. -/
theorem exists_made {item : StructItem}
    (hmade : item ∈ (scope.payloadStage config api (layoutsOf config api reportA reportB)).made
      ∨ item ∈ (scope.structStage config api (layoutsOf config api reportA reportB)).made)
    (hinside : inside item.name) :
    ∃ item' : StructItem,
      (item' ∈ ((scope.withIndex index).payloadStage config part
          (layoutsOf config part reportA reportB)).made
        ∨ item' ∈ ((scope.withIndex index).structStage config part
          (layoutsOf config part reportA reportB)).made) ∧ item'.core = item.core := by
  rcases hmade with hpayload | hstruct
  · obtain ⟨item', hitem', hcore⟩ :=
      exists_mem_of_coresIn h.payloadStage_agrees.2 hpayload hinside
    exact ⟨item', .inl hitem', hcore⟩
  · obtain ⟨item', hitem', hcore⟩ :=
      exists_mem_of_coresIn h.structStage_agrees.2 hstruct hinside
    exact ⟨item', .inr hitem', hcore⟩

/-- If all of the set that are rejected are rejected in the run over the part too, all of the set
that are left out are left out there too. -/
theorem mem_leftOut
    (hrejected : ∀ name ∈ rejectedNames
        (scope.outcomes config api (layoutsOf config api reportA reportB)), inside name →
      name ∈ rejectedNames ((scope.withIndex index).outcomes config part
        (layoutsOf config part reportA reportB))) :
    ∀ name ∈ scope.leftOut config api reportA reportB, inside name →
      name ∈ (scope.withIndex index).leftOut config part reportA reportB := by
  obtain ⟨brought, -, hclosed⟩ := h.closed
  refine forall_mem_prune_dropped ?_ ?_ ?_
  · intro name hname hinside
    refine subset_pruneAll_dropped _ _ ?_
    rcases List.mem_append.mp hname with hname | hname
    · exact List.mem_append_left _ (hrejected name hname hinside)
    · exact structStage_dropped_subset ((h.structStage_agrees.1 name hinside).mp hname)
  · intro item hitem other hother hleft hinside
    have hmentions : scope.Mentions config api item.name other := by
      obtain ⟨raw, type, hentry, htype, heq⟩ := exists_entry_of_mem_drafts hitem
      exact .typedef hentry htype (heq ▸ hother)
    have hitem' : item ∈ ((scope.withIndex index).drafts config part
        (layoutsOf config part reportA reportB)).items.allTypedefs := by
      rcases List.mem_append.mp hitem with hextra | hown
      · exact List.mem_append_left _ ((h.extraStage_agrees.2 item hinside).mp hextra)
      · exact List.mem_append_right _ ((h.typedefStage_agrees.2 item hinside).mp hown)
    by_contra hkept
    exact not_mem_dropped_of_mem_allTypedefs hitem' hkept other hother
      (hleft (hclosed.mentions _ _ hmentions hinside))
  · intro item hitem other hother hleft hinside
    have hmade := (mem_drafts_allStructs_iff.mp hitem).imp_left And.left
    have hinside' := hclosed.mentions _ _ (mentions_of_mem_fieldNames hmade hother) hinside
    obtain ⟨item', hmade', hcore⟩ := h.exists_made hmade hinside
    obtain ⟨hname, -, hfields⟩ := StructItem.core_eq_iff.mp hcore
    have hother' : other ∈ item'.fieldNames := by
      rwa [StructItem.fieldNames, hfields]
    by_contra hkept
    rw [← hname] at hkept
    exact not_mem_leftOut_of_mem_fieldNames hmade' hkept other hother' (hleft hinside')

end HasPart

end Scope

end AbiBridge
