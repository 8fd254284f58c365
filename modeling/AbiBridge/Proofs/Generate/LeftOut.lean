import AbiBridge.Proofs.Generate.Closed
import AbiBridge.Proofs.Layout.Table
import Mathlib.Data.List.Nodup

/-!
# The entities that a run leaves out

An entity is left out if it is broken or refers to one that is left out. This says nothing
about the order in which the entities are looked at.
-/

namespace AbiBridge

def Config.structDecls (config : Config) (api : Api) : List StructDecl :=
  config.includedCallbacks api ++ api.structs

/-- The typedefs and structs of a run have different names, and its payloads different numbers. -/
structure Config.Distinct (config : Config) (api : Api) : Prop where
  names : ((config.typedefEntries api).map (·.1) ++ (config.structDecls api).map (·.name)).Nodup
  ids : ((config.includedCallbacks api).filterMap (·.callbackId)).Nodup

namespace Config.Distinct

variable {config : Config} {api : Api} (hdistinct : config.Distinct api)
include hdistinct

theorem typedef_eq {name raw raw' : String} (h : (name, raw) ∈ config.typedefEntries api)
    (h' : (name, raw') ∈ config.typedefEntries api) : raw = raw' := by
  have hnames := (List.nodup_append.mp hdistinct.names).1
  have hsame : (name, raw) = (name, raw') := List.inj_on_of_nodup_map hnames h h' rfl
  exact congrArg Prod.snd hsame

theorem struct_eq {decl decl' : StructDecl} (h : decl ∈ config.structDecls api)
    (h' : decl' ∈ config.structDecls api) (hname : decl.name = decl'.name) : decl = decl' :=
  List.inj_on_of_nodup_map (List.nodup_append.mp hdistinct.names).2.1 h h' hname

theorem typedef_ne_struct {name raw : String} {decl : StructDecl}
    (h : (name, raw) ∈ config.typedefEntries api) (h' : decl ∈ config.structDecls api) :
    name ≠ decl.name :=
  (List.nodup_append.mp hdistinct.names).2.2 name (List.mem_map_of_mem h) decl.name
    (List.mem_map_of_mem h')

theorem payload_ne_struct {decl decl' : StructDecl} (h : decl ∈ config.includedCallbacks api)
    (h' : decl' ∈ api.structs) : decl.name ≠ decl'.name := by
  have hnames := (List.nodup_append.mp hdistinct.names).2.1
  rw [Config.structDecls, List.map_append] at hnames
  exact (List.nodup_append.mp hnames).2.2 _ (List.mem_map_of_mem h) _ (List.mem_map_of_mem h')

theorem nodup_struct_names : ((config.structDecls api).map (·.name)).Nodup :=
  (List.nodup_append.mp hdistinct.names).2.1

theorem nodup_payload_names : ((config.includedCallbacks api).map (·.name)).Nodup := by
  have hnames := hdistinct.nodup_struct_names
  rw [Config.structDecls, List.map_append] at hnames
  exact (List.nodup_append.mp hnames).1

end Config.Distinct

namespace Scope

section Narrowing

variable {scope : Scope} {dropped : List String} {owner entity raw : String}
  {position : Position} {type : CType}

theorem checkNames_eq_ok_iff_nil {checked : CType} :
    scope.checkNames dropped entity type = .ok checked
      ↔ scope.checkNames [] entity type = .ok checked ∧ ∀ name ∈ checked.names, name ∉ dropped := by
  rw [checkNames_eq_ok_iff, checkNames_eq_ok_iff]
  constructor
  · rintro ⟨rfl, hknown, hkept⟩
    exact ⟨⟨rfl, hknown, fun name _ => List.not_mem_nil⟩, hkept⟩
  · rintro ⟨⟨rfl, hknown, -⟩, hkept⟩
    exact ⟨rfl, hknown, hkept⟩

/-- With more left out a type still reads the same, or it names something that is left out. -/
theorem resolve_eq_ok_iff :
    scope.resolve dropped entity raw position = .ok type
      ↔ scope.resolve [] entity raw position = .ok type ∧ ∀ name ∈ type.names, name ∉ dropped := by
  rw [resolve, resolve]
  cases scope.resolver.resolve raw position with
  | error failure =>
    constructor
    · intro h
      cases h
    · rintro ⟨h, -⟩
      cases h
  | ok read => exact checkNames_eq_ok_iff_nil

theorem resolveIn_eq_ok_iff :
    scope.resolveIn dropped owner entity raw position = .ok type
      ↔ scope.resolveIn [] owner entity raw position = .ok type
        ∧ ∀ name ∈ type.names, name ∉ dropped := by
  rw [resolveIn, resolveIn]
  cases scope.resolver.resolve raw position with
  | error failure =>
    constructor
    · intro h
      cases h
    · rintro ⟨h, -⟩
      cases h
  | ok read => exact checkNames_eq_ok_iff_nil

theorem fieldItem_eq_ok_iff {decl : FieldDecl} {item : FieldItem} :
    scope.fieldItem dropped owner decl = .ok item
      ↔ ∃ type, scope.resolveIn dropped owner (owner ++ "." ++ decl.name)
            (scope.retypedSpelling decl.name decl.type) .value = .ok type
          ∧ item = { name := decl.name, type := scope.fieldType decl.name type } := by
  rw [fieldItem]
  cases scope.resolveIn dropped owner (owner ++ "." ++ decl.name)
      (scope.retypedSpelling decl.name decl.type) .value with
  | error issue =>
    constructor
    · intro h
      cases h
    · rintro ⟨type, h, -⟩
      cases h
  | ok type =>
    constructor
    · intro h
      cases h
      exact ⟨type, rfl, rfl⟩
    · rintro ⟨_, h, rfl⟩
      cases h
      rfl

/-- The byte that makes a field a boolean is reached through typedefs only. -/
theorem isByteSized_eq_true (h : scope.isByteSized type = true) :
    ∃ p, scope.index.underlying? scope.resolver type = some (.primitive p) := by
  rw [isByteSized] at h
  cases htarget : scope.index.underlying? scope.resolver type with
  | none =>
    rw [htarget] at h
    cases h
  | some target =>
    rw [htarget] at h
    cases target with
    | primitive p => exact ⟨p, rfl⟩
    | _ => cases h

end Narrowing

section LeftOut

variable (scope : Scope) (config : Config) (api : Api) (pair : PlatformPair)

/-- The entity cannot be made, whatever else is left out. -/
inductive Broken : String → Prop where
  | typedef {name raw : String} (hentry : (name, raw) ∈ config.typedefEntries api)
      (htype : ∀ type, scope.resolve [] name raw .value ≠ .ok type) : Broken name
  | layout {decl : StructDecl} (hdecl : decl ∈ config.structDecls api)
      (hlayout : ∀ layout, pair.structLayout decl ≠ .ok layout) : Broken decl.name
  | field {decl : StructDecl} {field : FieldDecl} (hdecl : decl ∈ config.structDecls api)
      (hfield : field ∈ decl.fields)
      (hitem : ∀ item, scope.fieldItem [] decl.name field ≠ .ok item) : Broken decl.name
  | payload {decl : StructDecl} {field : FieldDecl} {item : FieldItem}
      (hdecl : decl ∈ config.includedCallbacks api) (hid : decl.callbackId ≠ none)
      (hfield : field ∈ decl.fields) (hitem : scope.fieldItem [] decl.name field = .ok item)
      (hbytes : cannotBeBytes scope.index item.type = true) : Broken decl.name

inductive Refers : String → String → Prop where
  | typedef {name raw other : String} {type : CType}
      (hentry : (name, raw) ∈ config.typedefEntries api)
      (htype : scope.resolve [] name raw .value = .ok type) (hother : other ∈ type.names) :
      Refers name other
  | field {decl : StructDecl} {field : FieldDecl} {item : FieldItem} {other : String}
      (hdecl : decl ∈ config.structDecls api) (hfield : field ∈ decl.fields)
      (hitem : scope.fieldItem [] decl.name field = .ok item) (hother : other ∈ item.type.names) :
      Refers decl.name other

/-- The entity is broken, or refers to one that is left out. -/
inductive LeftOut : String → Prop where
  | broken {name : String} (h : scope.Broken config api pair name) : LeftOut name
  | refers {name other : String} (h : scope.Refers config api name other)
      (hother : LeftOut other) : LeftOut name

/-- The struct could be made if nothing else were left out. -/
structure Makeable (decl : StructDecl) : Prop where
  layout : ∃ layout, pair.structLayout decl = .ok layout
  fields : ∀ field ∈ decl.fields, ∃ item, scope.fieldItem [] decl.name field = .ok item
  payload : decl ∈ config.includedCallbacks api → decl.callbackId ≠ none →
    ∀ field ∈ decl.fields, ∀ item, scope.fieldItem [] decl.name field = .ok item →
      cannotBeBytes scope.index item.type = false

end LeftOut

section Distinct

variable {scope : Scope} {config : Config} {api : Api} {pair : PlatformPair}
  (hdistinct : config.Distinct api)
include hdistinct

theorem not_leftOut_typedef_iff {name raw : String}
    (hentry : (name, raw) ∈ config.typedefEntries api) :
    ¬ scope.LeftOut config api pair name
      ↔ ∃ type, scope.resolve [] name raw .value = .ok type
          ∧ ∀ other ∈ type.names, ¬ scope.LeftOut config api pair other := by
  constructor
  · intro hkept
    cases htype : scope.resolve [] name raw .value with
    | error issue =>
      have hbroken : scope.Broken config api pair name :=
        .typedef hentry fun type heq => nomatch htype.symm.trans heq
      exact absurd (.broken hbroken) hkept
    | ok type =>
      exact ⟨type, rfl, fun other hother hleft =>
        hkept (.refers (.typedef hentry htype hother) hleft)⟩
  · rintro ⟨type, htype, hothers⟩ hleft
    cases hleft with
    | broken h =>
      cases h with
      | typedef hentry' hnone =>
        cases hdistinct.typedef_eq hentry hentry'
        exact hnone type htype
      | layout hdecl => exact hdistinct.typedef_ne_struct hentry hdecl rfl
      | field hdecl => exact hdistinct.typedef_ne_struct hentry hdecl rfl
      | payload hdecl =>
        exact hdistinct.typedef_ne_struct hentry (List.mem_append_left _ hdecl) rfl
    | refers h hleft =>
      cases h with
      | typedef hentry' htype' hother =>
        cases hdistinct.typedef_eq hentry hentry'
        cases htype.symm.trans htype'
        exact hothers _ hother hleft
      | field hdecl => exact hdistinct.typedef_ne_struct hentry hdecl rfl

theorem not_leftOut_struct_iff {decl : StructDecl} (hdecl : decl ∈ config.structDecls api) :
    ¬ scope.LeftOut config api pair decl.name
      ↔ scope.Makeable config api pair decl
        ∧ ∀ field ∈ decl.fields, ∀ item, scope.fieldItem [] decl.name field = .ok item →
          ∀ other ∈ item.type.names, ¬ scope.LeftOut config api pair other := by
  constructor
  · intro hkept
    have hwhole : ¬ scope.Broken config api pair decl.name := fun h => hkept (.broken h)
    refine ⟨⟨?_, ?_, ?_⟩, ?_⟩
    · cases hlayout : pair.structLayout decl with
      | ok layout => exact ⟨layout, rfl⟩
      | error issue =>
        exact absurd (.layout hdecl fun layout heq => nomatch hlayout.symm.trans heq) hwhole
    · intro field hfield
      cases hitem : scope.fieldItem [] decl.name field with
      | ok item => exact ⟨item, rfl⟩
      | error issue =>
        exact absurd (.field hdecl hfield fun item heq => nomatch hitem.symm.trans heq) hwhole
    · intro hpayload hid field hfield item hitem
      rw [← Bool.not_eq_true]
      exact fun hbytes => hwhole (.payload hpayload hid hfield hitem hbytes)
    · intro field hfield item hitem other hother hleft
      exact hkept (.refers (.field hdecl hfield hitem hother) hleft)
  · rintro ⟨hmakeable, hothers⟩ hleft
    generalize hname : decl.name = name at hleft
    cases hleft with
    | broken h =>
      cases h with
      | typedef hentry => exact hdistinct.typedef_ne_struct hentry hdecl hname.symm
      | layout hdecl' hnone =>
        obtain ⟨layout, hlayout⟩ := hmakeable.layout
        cases hdistinct.struct_eq hdecl hdecl' hname
        exact hnone layout hlayout
      | field hdecl' hfield hnone =>
        cases hdistinct.struct_eq hdecl hdecl' hname
        obtain ⟨item, hitem⟩ := hmakeable.fields _ hfield
        exact hnone item hitem
      | payload hdecl' hid hfield hitem hbytes =>
        cases hdistinct.struct_eq hdecl (List.mem_append_left _ hdecl') hname
        have hfine := hmakeable.payload hdecl' hid _ hfield _ hitem
        rw [hbytes] at hfine
        cases hfine
    | refers h hleft =>
      cases h with
      | typedef hentry => exact hdistinct.typedef_ne_struct hentry hdecl hname.symm
      | field hdecl' hfield hitem hother =>
        cases hdistinct.struct_eq hdecl hdecl' hname
        exact hothers _ hfield _ hitem _ hother hleft

variable (hindex : scope.index = .ofApi api config.extraTypedefs config.opaqueTypes)
include hindex

omit hdistinct in
theorem mem_typedefEntries_of_target? {name raw : String}
    (h : scope.index.target? name = some raw) :
    scope.index.contains name = true ∧ (name, raw) ∈ config.typedefEntries api := by
  rw [hindex] at h ⊢
  have hentry := Config.mem_typedefEntries_of_target? h
  refine ⟨?_, hentry⟩
  rw [Index.contains_ofApi]
  rcases List.mem_append.mp hentry with hextra | hown
  · exact .inr (.inl (List.mem_map_of_mem hextra))
  · obtain ⟨decl, hdecl, heq⟩ := List.mem_map.mp hown
    cases heq
    exact .inr (.inr (.inl (List.mem_map_of_mem (List.mem_filter.mp hdecl).1)))

omit hdistinct in
/-- The names at the start of a walk are known if those at its end are. -/
theorem knows_of_walk {links : Nat} {type target : CType}
    (hwalk : scope.index.Walk scope.resolver links type target)
    (hknown : scope.index.Knows target.names) : scope.index.Knows type.names := by
  cases hwalk with
  | here => exact hknown
  | link htarget _ _ =>
    intro n hn
    rw [CType.names, List.mem_singleton] at hn
    rw [hn]
    exact (mem_typedefEntries_of_target? hindex htarget).1

/-- If the type at the end of a walk names nothing that is left out, neither is any typedef on the
way left out. -/
theorem not_leftOut_of_walk {links : Nat} {type target : CType}
    (hwalk : scope.index.Walk scope.resolver links type target)
    (hknown : scope.index.Knows target.names)
    (hkept : ∀ name ∈ target.names, ¬ scope.LeftOut config api pair name) :
    ∀ name ∈ type.names, ¬ scope.LeftOut config api pair name := by
  induction hwalk with
  | here => exact hkept
  | @link _ name raw next _ htarget hread hrest ih =>
    obtain ⟨-, hentry⟩ := mem_typedefEntries_of_target? hindex htarget
    have hnames : scope.index.Knows next.names := knows_of_walk hindex hrest hknown
    have htype : scope.resolve [] name raw .value = .ok next := by
      rw [resolve, hread]
      exact checkNames_eq_ok_iff.mpr ⟨rfl, hnames, fun _ _ => List.not_mem_nil⟩
    intro n hn
    rw [CType.names, List.mem_singleton] at hn
    rw [hn]
    exact (not_leftOut_typedef_iff hdistinct hentry).mpr ⟨next, htype, ih hknown hkept⟩

/-- A field that names nothing that is left out is made, whatever part of it is left out by
then: if a byte has become a boolean, no typedef on the way to it is left out. -/
theorem fieldItem_of_not_leftOut {owner : String} {decl : FieldDecl} {item : FieldItem}
    {dropped : List String} (hitem : scope.fieldItem [] owner decl = .ok item)
    (hdropped : ∀ name ∈ dropped, scope.LeftOut config api pair name)
    (hkept : ∀ name ∈ item.type.names, ¬ scope.LeftOut config api pair name) :
    scope.fieldItem dropped owner decl = .ok item := by
  obtain ⟨type, htype, rfl⟩ := fieldItem_eq_ok_iff.mp hitem
  refine fieldItem_eq_ok_iff.mpr ⟨type, resolveIn_eq_ok_iff.mpr ⟨htype, ?_⟩, rfl⟩
  have hnames : ∀ name ∈ type.names, ¬ scope.LeftOut config api pair name := by
    rw [fieldType] at hkept
    split at hkept
    · next hboolean =>
      obtain ⟨p, hbyte⟩ := isByteSized_eq_true (Bool.and_eq_true_iff.mp hboolean).2
      obtain ⟨-, links, -, hwalk⟩ := Index.underlying?_eq_some_iff.mp hbyte
      exact not_leftOut_of_walk hdistinct hindex hwalk (by simp [Index.Knows, CType.names])
        (by simp [CType.names])
    · exact hkept
  exact fun name hname hdrop => hnames name hname (hdropped name hdrop)

omit hindex in
theorem leftOut_of_mem_typedefItems_dropped {entries : List (String × String)}
    (hentries : entries ⊆ config.typedefEntries api) {dropped : List String}
    (hdropped : ∀ name ∈ dropped, scope.LeftOut config api pair name) :
    ∀ name ∈ (scope.typedefItems dropped entries).dropped, scope.LeftOut config api pair name := by
  induction entries generalizing dropped with
  | nil => exact hdropped
  | cons entry entries ih =>
    obtain ⟨first, raw⟩ := entry
    obtain ⟨hentry, hrest⟩ := List.cons_subset.mp hentries
    rw [typedefItems]
    split
    · exact ih hrest hdropped
    · next issue hissue =>
      have hfirst : scope.LeftOut config api pair first := by
        by_contra hkept
        obtain ⟨type, htype, hnames⟩ := (not_leftOut_typedef_iff hdistinct hentry).mp hkept
        have hmade := resolve_eq_ok_iff.mpr
          ⟨htype, fun name hname hdrop => hnames name hname (hdropped name hdrop)⟩
        cases hissue.symm.trans hmade
      refine ih hrest fun name hname => ?_
      rcases List.mem_cons.mp hname with rfl | hname
      · exact hfirst
      · exact hdropped name hname

variable {layouts : Layouts}
  (hlayouts : ∀ decl ∈ config.structDecls api, layoutOf layouts decl = pair.structLayout decl)
include hlayouts

theorem exists_structItem_eq_ok {decl : StructDecl} (hdecl : decl ∈ config.structDecls api)
    (hkept : ¬ scope.LeftOut config api pair decl.name) {dropped : List String}
    (hdropped : ∀ name ∈ dropped, scope.LeftOut config api pair name) :
    ∃ made, scope.structItem layouts dropped decl = .ok made := by
  obtain ⟨hmakeable, hnames⟩ := (not_leftOut_struct_iff hdistinct hdecl).mp hkept
  obtain ⟨layout, hlayout⟩ := hmakeable.layout
  have hfields : ∀ field ∈ decl.fields,
      ∃ item, scope.fieldItem dropped decl.name field = .ok item := by
    intro field hfield
    obtain ⟨item, hitem⟩ := hmakeable.fields field hfield
    exact ⟨item, fieldItem_of_not_leftOut hdistinct hindex hitem hdropped
      (hnames field hfield item hitem)⟩
  obtain ⟨fields, hmade⟩ := exists_mapM_eq_ok hfields
  rw [structItem, hlayouts decl hdecl, hlayout, hmade]
  exact ⟨_, rfl⟩

theorem leftOut_of_mem_structItems_dropped {decls : List StructDecl}
    (hdecls : decls ⊆ config.structDecls api) {dropped : List String}
    (hdropped : ∀ name ∈ dropped, scope.LeftOut config api pair name) :
    ∀ name ∈ (scope.structItems layouts dropped decls).dropped,
      scope.LeftOut config api pair name := by
  induction decls generalizing dropped with
  | nil => exact hdropped
  | cons decl decls ih =>
    obtain ⟨hdecl, hrest⟩ := List.cons_subset.mp hdecls
    rw [structItems]
    split
    · exact ih hrest hdropped
    · next issue hissue =>
      have hfirst : scope.LeftOut config api pair decl.name := by
        by_contra hkept
        obtain ⟨made, hmade⟩ :=
          exists_structItem_eq_ok hdistinct hindex hlayouts hdecl hkept hdropped
        cases hissue.symm.trans hmade
      refine ih hrest fun name hname => ?_
      rcases List.mem_cons.mp hname with rfl | hname
      · exact hfirst
      · exact hdropped name hname

end Distinct

end Scope

end AbiBridge
