import AbiBridge.Generate.Output
import AbiBridge.Proofs.Generate.Closed
import AbiBridge.Proofs.Module.Lines
import AbiBridge.Proofs.Name

/-!
# Names of definitions

Under which identifier a module defines an entity, and under which it refers to it.
-/

namespace AbiBridge

def opensDefinition (line : String) : Bool :=
  begins "pub struct " line || begins "pub type " line

/-- The line defines a type of the given identifier. -/
inductive Defines : String → String → Prop
  | record (identifier : String) : Defines ("pub struct " ++ identifier ++ " \x7b") identifier
  | wrapper (identifier : String) : Defines ("pub struct " ++ identifier ++ "(pub i32);") identifier
  | synonym (identifier type : String) :
    Defines ("pub type " ++ identifier ++ " = " ++ type ++ ";") identifier

/-- The lines have one definition, which is of the given identifier. -/
def IsDefinedAs (lines : List String) (identifier : String) : Prop :=
  ∃ line, lines.filter opensDefinition = [line] ∧ Defines line identifier

theorem isDefinedAs_iff {lines : List String} {line identifier : String}
    (h : lines.filter opensDefinition = [line]) :
    IsDefinedAs lines identifier ↔ Defines line identifier := by
  simp [IsDefinedAs, h]

/-- A line that ends in another character or differs at the start is another line. -/
theorem ne_of_ends {a b : String}
    (h : a.toList.reverse.head? ≠ b.toList.reverse.head? ∨ a.toList[4]? ≠ b.toList[4]?) :
    a ≠ b := by
  rintro rfl
  simp at h

@[simp] theorem defines_record_iff {name identifier : String} :
    Defines ("pub struct " ++ name ++ " \x7b") identifier ↔ name = identifier := by
  refine ⟨?_, fun h => h ▸ .record name⟩
  generalize hline : "pub struct " ++ name ++ " \x7b" = line
  intro h
  cases h with
  | record => simpa using hline
  | wrapper => exact absurd hline (ne_of_ends (by simp))
  | synonym => exact absurd hline (ne_of_ends (by simp))

@[simp] theorem defines_wrapper_iff {name identifier : String} :
    Defines ("pub struct " ++ name ++ "(pub i32);") identifier ↔ name = identifier := by
  refine ⟨?_, fun h => h ▸ .wrapper name⟩
  generalize hline : "pub struct " ++ name ++ "(pub i32);" = line
  intro h
  cases h with
  | record => exact absurd hline (ne_of_ends (by simp))
  | wrapper => simpa using hline
  | synonym => exact absurd hline (ne_of_ends (by simp))

@[simp] theorem opensDefinition_append_of_differ {text : String}
    (hstruct : differ "pub struct " text = true) (htype : differ "pub type " text = true)
    (rest : String) : opensDefinition (text ++ rest) = false := by
  simp [opensDefinition, hstruct, htype]

theorem opensDefinition_of_begins {opening line : String} (h : begins opening line = true)
    (hstruct : differ "pub struct " opening = true) (htype : differ "pub type " opening = true) :
    opensDefinition line = false := by
  rw [opensDefinition, begins_eq_false_of_begins h hstruct, begins_eq_false_of_begins h htype,
    Bool.false_or]

@[simp] theorem opensDefinition_struct (rest : String) :
    opensDefinition ("pub struct " ++ rest) = true := by
  rw [opensDefinition, begins_append, Bool.true_or]

@[simp]
theorem opensDefinition_type (rest : String) : opensDefinition ("pub type " ++ rest) = true := by
  rw [opensDefinition, begins_append, Bool.or_true]

theorem filter_opensDefinition_eq_nil {lines : List String}
    (h : ∀ line ∈ lines, opensDefinition line = false) : lines.filter opensDefinition = [] :=
  List.filter_eq_nil_iff.mpr fun line hline => by simp [h line hline]

theorem filter_braced {head : String} {body : List String}
    (hbody : body.filter opensDefinition = []) :
    (braced head body).filter opensDefinition
      = if opensDefinition (head ++ " \x7b") then [head ++ " \x7b"] else [] := by
  have hclosing : ["\x7d"].filter opensDefinition = [] := by simp [opensDefinition, begins]
  rw [braced, List.filter_append, hclosing, List.append_nil, List.filter_cons, hbody]

@[simp] theorem filter_typedef_line (item : TypedefItem) :
    [item.line].filter opensDefinition = [item.line] := by
  delta TypedefItem.line
  simp [String.append_assoc]

@[simp] theorem filter_opaqueLines (name : String) : (opaqueLines name).filter opensDefinition
    = ["pub struct " ++ flatName name ++ " \x7b"] := by
  have hfirst : ["", "#[repr(C)]"].filter opensDefinition = [] := by simp [opensDefinition, begins]
  have hbody : ["    _opaque: [u8; 0],"].filter opensDefinition = [] := by
    simp [opensDefinition, begins]
  rw [opaqueLines, List.filter_append, hfirst, List.nil_append, filter_braced hbody]
  simp [String.append_assoc]

theorem filter_flatMap_eq_nil {α : Type} {items : List α} {f : α → List String}
    (h : ∀ item ∈ items, (f item).filter opensDefinition = []) :
    (items.flatMap f).filter opensDefinition = [] := by
  rw [List.filter_flatMap, List.flatMap_eq_nil_iff]
  exact h

theorem filter_map_eq_nil {α : Type} {items : List α} {line : α → String}
    (h : ∀ item, opensDefinition (line item) = false) :
    (items.map line).filter opensDefinition = [] := by
  rw [List.map_eq_flatMap]
  exact filter_flatMap_eq_nil fun item _ => by simp [h]

@[simp] theorem filter_wrapperLines (method : Method) (receiver : Receiver) :
    (method.wrapperLines receiver).filter opensDefinition = [] := by
  unfold Method.wrapperLines
  split
  · rfl
  · have hclosing : ["    \x7d"].filter opensDefinition = [] := by simp [opensDefinition, begins]
    rw [List.filter_cons_of_neg (by simp [opensDefinition, begins]), List.filter_cons_of_neg,
      List.filter_cons_of_neg, hclosing]
    · simp (disch := simp [differ]) [String.append_assoc]
    · simp (disch := simp [differ]) [String.append_assoc]

@[simp] theorem opensDefinition_enumerator_line (enumerator : Enumerator) :
    opensDefinition enumerator.line = false := by
  delta Enumerator.line
  simp only [String.append_assoc]
  exact opensDefinition_append_of_differ (by simp [differ]) (by simp [differ]) _

@[simp] theorem filter_enumItem_lines (item : EnumItem) :
    item.lines.filter opensDefinition = ["pub struct " ++ item.name ++ "(pub i32);"] := by
  have hvalues : (item.values.map Enumerator.line).filter opensDefinition = [] :=
    filter_map_eq_nil opensDefinition_enumerator_line
  have himpl : (if item.values.isEmpty then []
      else "" :: braced ("impl " ++ item.name) (item.values.map Enumerator.line)).filter
        opensDefinition = [] := by
    split
    · rfl
    · rw [List.filter_cons_of_neg (by simp [opensDefinition, begins]), filter_braced hvalues]
      simp (disch := simp [differ]) [String.append_assoc]
  rw [EnumItem.lines, List.filter_append, himpl, List.append_nil,
    List.filter_cons_of_neg (by simp [opensDefinition, begins]),
    List.filter_cons_of_neg (by simp [opensDefinition, begins])]
  simp [String.append_assoc]

namespace StructItem

variable (item : StructItem) (target : ModuleTarget)

@[simp] theorem filter_fieldLines_definition (field : FieldItem) :
    (item.fieldLines target field).filter opensDefinition = [] := by
  have hattribute : (item.fieldAttribute target field).filter opensDefinition = [] :=
    filter_opensDefinition_eq_nil fun line hline =>
      opensDefinition_of_begins (begins_fieldAttribute hline) (by simp [differ])
        (by simp [differ])
  rw [fieldLines, List.filter_append, hattribute]
  simp (disch := simp [differ]) [String.append_assoc]

@[simp]
theorem filter_declarationLines_definition : (item.declarationLines target).filter opensDefinition
    = ["pub struct " ++ item.name ++ " \x7b"] := by
  have hattributes : (item.attributes target).filter opensDefinition = [] :=
    filter_opensDefinition_eq_nil fun line hline =>
      opensDefinition_of_begins (begins_attributes hline) (by simp [differ]) (by simp [differ])
  have hfields := filter_flatMap_eq_nil fun field (_ : field ∈ item.fields) =>
    item.filter_fieldLines_definition target field
  have hfiller : (if item.layout.filler then ["    pub _padding: u8,"] else []).filter
      opensDefinition = [] := by
    cases item.layout.filler <;> simp [opensDefinition, begins]
  rw [declarationLines, List.filter_append, hattributes, List.nil_append, filter_braced]
  · simp [String.append_assoc]
  · rw [List.filter_append, hfields, hfiller, List.nil_append]

@[simp] theorem filter_checkLines : (item.checkLines target).filter opensDefinition = [] := by
  have hoffsets : (item.layout.fields.filterMap (item.offsetCheck? target)).filter opensDefinition
      = [] := by
    refine filter_opensDefinition_eq_nil fun line hline => ?_
    obtain ⟨field, -, hcheck⟩ := List.mem_filterMap.mp hline
    unfold offsetCheck? at hcheck
    split at hcheck
    · cases hcheck
      simp (disch := simp [differ]) [String.append_assoc]
    · cases hcheck
  rw [checkLines, List.filter_cons_of_neg, hoffsets]
  simp (disch := simp [differ]) [String.append_assoc]

@[simp] theorem filter_defaultLines : item.defaultLines.filter opensDefinition = [] := by
  have hfields : (item.fields.map fun field =>
      "            " ++ identifierFor field.name ++ ": " ++ field.default.text ++ ",").filter
        opensDefinition = [] :=
    filter_map_eq_nil fun _ => by
      simp (disch := simp [differ]) [String.append_assoc]
  have hfiller : (if item.layout.filler then ["            _padding: 0,"] else []).filter
      opensDefinition = [] := by
    cases item.layout.filler <;> simp [opensDefinition, begins]
  have hopening : ["    fn default() -> Self \x7b", "        Self \x7b"].filter opensDefinition
      = [] := by simp [opensDefinition, begins]
  have hclosing : ["        \x7d", "    \x7d"].filter opensDefinition = [] := by
    simp [opensDefinition, begins]
  rw [defaultLines, filter_braced]
  · simp (disch := simp [differ]) [String.append_assoc]
  · rw [List.filter_append, List.filter_append, List.filter_append, hopening, hfields, hfiller,
      hclosing]
    rfl

@[simp] theorem filter_implLines : item.implLines.filter opensDefinition = [] := by
  have hconsts : (item.consts.map (ConstItem.line "    ")).filter opensDefinition = [] :=
    filter_map_eq_nil fun _ => by
      simp (disch := simp [differ]) [ConstItem.line, String.append_assoc]
  have hwrappers := filter_flatMap_eq_nil fun method (_ : method ∈ item.methods) =>
    filter_wrapperLines method .struct
  unfold implLines
  split
  · rfl
  · rw [List.filter_cons_of_neg (by simp [opensDefinition, begins]), filter_braced]
    · simp (disch := simp [differ]) [String.append_assoc]
    · rw [List.filter_append, hconsts, hwrappers, List.nil_append]

@[simp] theorem filter_lines : (item.lines target).filter opensDefinition
    = ["pub struct " ++ item.name ++ " \x7b"] := by
  have hblank : [""].filter opensDefinition = [] := by simp [opensDefinition, begins]
  simp only [lines, List.filter_append, filter_declarationLines_definition, filter_checkLines,
    filter_defaultLines, filter_implLines, hblank, List.append_nil]

end StructItem

@[simp] theorem filter_interfaceItem_lines (item : InterfaceItem) :
    item.lines.filter opensDefinition = ["pub struct " ++ item.name ++ " \x7b"] := by
  have hwrappers := filter_flatMap_eq_nil fun method (_ : method ∈ item.methods) =>
    filter_wrapperLines method .interface
  have hnull : ["    pub fn is_null(&self) -> bool \x7b", "        self.ptr.is_null()",
      "    \x7d"].filter opensDefinition = [] := by simp [opensDefinition, begins]
  have himpl : (braced ("impl " ++ item.name)
      (["    pub fn is_null(&self) -> bool \x7b", "        self.ptr.is_null()", "    \x7d"]
        ++ item.methods.flatMap (Method.wrapperLines · .interface))).filter opensDefinition
          = [] := by
    rw [filter_braced]
    · simp (disch := simp [differ]) [String.append_assoc]
    · rw [List.filter_append, hnull, hwrappers, List.nil_append]
  have haccessors := filter_flatMap_eq_nil (f := item.accessorLines) fun accessor
      (_ : accessor ∈ item.accessors) => by
    have hbody : ["    unsafe \x7b " ++ accessor.flatName ++ "() \x7d"].filter opensDefinition
        = [] := by
      simp (disch := simp [differ]) [String.append_assoc]
    rw [InterfaceItem.accessorLines, List.filter_cons_of_neg (by simp [opensDefinition, begins]),
      filter_braced hbody]
    simp (disch := simp [differ]) [String.append_assoc]
  have hfirst : ["#[repr(transparent)]", "#[derive(Clone, Copy, Debug, ::vbind::Extern)]"].filter
      opensDefinition = [] := by simp [opensDefinition, begins]
  have hblank : [""].filter opensDefinition = [] := by simp [opensDefinition, begins]
  simp only [InterfaceItem.lines, List.filter_append, hfirst, himpl, haccessors, hblank,
    List.append_nil, List.nil_append]
  rw [filter_braced (by simp [opensDefinition, begins])]
  simp [String.append_assoc]

@[simp]
theorem CType.rustText_named (name : String) : (CType.named name).rustText = flatName name :=
  rfl

theorem TypedefItem.isDefinedAs_line (item : TypedefItem) :
    IsDefinedAs [item.line] (CType.named item.name).rustText :=
  (isDefinedAs_iff (filter_typedef_line item)).mpr (.synonym _ _)

theorem isDefinedAs_opaqueLines (name : String) :
    IsDefinedAs (opaqueLines name) (CType.named name).rustText :=
  (isDefinedAs_iff (filter_opaqueLines name)).mpr (.record _)

@[simp] theorem StructItem.isDefinedAs_lines_iff {item : StructItem} {target : ModuleTarget}
    {identifier : String} :
    IsDefinedAs (item.lines target) identifier ↔ item.name = identifier := by
  rw [isDefinedAs_iff (item.filter_lines target), defines_record_iff]

@[simp] theorem InterfaceItem.isDefinedAs_lines_iff {item : InterfaceItem} {identifier : String} :
    IsDefinedAs item.lines identifier ↔ item.name = identifier := by
  rw [isDefinedAs_iff (filter_interfaceItem_lines item), defines_record_iff]

@[simp] theorem EnumItem.isDefinedAs_lines_iff {item : EnumItem} {identifier : String} :
    IsDefinedAs item.lines identifier ↔ item.name = identifier := by
  rw [isDefinedAs_iff (filter_enumItem_lines item), defines_wrapper_iff]

@[simp] theorem eq_rustText_named_iff {name : String} :
    name = (CType.named name).rustText ↔ ¬ Qualified name := by
  rw [CType.rustText_named, eq_comm, flatName_eq_self_iff]

/-- The qualified name of an enum has no `::` but the one after its owner. -/
def QualifiedOnce (owner : Option String) (decl : EnumDecl) : Prop :=
  match owner with
  | none => ¬ Qualified decl.name
  | some owner => ¬ Qualified (owner ++ ":") ∧ ¬ Qualified decl.name

/-- Both names of a nested enum are spelled alike. -/
theorem enumItemName_eq_rustText_iff {owner : Option String} {decl : EnumDecl} {name : String}
    (h : name ∈ enumNames owner decl) :
    enumItemName owner decl = (CType.named name).rustText ↔ QualifiedOnce owner decl := by
  cases owner with
  | none =>
    rw [enumNames, List.mem_singleton] at h
    rw [h]
    exact eq_rustText_named_iff
  | some owner =>
    have hname : (CType.named name).rustText = flatName (qualifiedName owner decl.name) := by
      rw [CType.rustText_named]
      rcases List.mem_cons.mp h with rfl | h
      · rfl
      · rw [List.mem_singleton.mp h, flatName_flatName]
    rw [hname, eq_comm, enumItemName, flatName_qualifiedName_eq_iff, QualifiedOnce]

/-- Typedefs and opaque types are defined under the identifiers by which types refer to them.
Structs, interfaces and enums are exactly if their names have no `::`, and nested enums exactly
if their qualified names have no other than the one after the owner. -/
theorem generate_isDefinedAs_iff_unqualified {patterns : PatternLanguage} {config : Config} {api : Api}
    {reportA reportB : PlatformReport} {generated : Generated}
    (h : config.generate patterns api reportA reportB = .ok generated) :
    (∀ item ∈ generated.bindings.extraTypedefs ++ generated.bindings.typedefs,
      [item.line] <:+: generated.bindings.lines config.target
        ∧ IsDefinedAs [item.line] (CType.named item.name).rustText)
    ∧ (∀ name ∈ generated.bindings.opaqueTypes,
      opaqueLines name <:+: generated.bindings.lines config.target
        ∧ IsDefinedAs (opaqueLines name) (CType.named name).rustText)
    ∧ (∀ item ∈ generated.bindings.allStructs,
      item.lines config.target <:+: generated.bindings.lines config.target
        ∧ (IsDefinedAs (item.lines config.target) (CType.named item.name).rustText
          ↔ ¬ Qualified item.name))
    ∧ (∀ item ∈ generated.bindings.interfaces,
      item.lines <:+: generated.bindings.lines config.target
        ∧ (IsDefinedAs item.lines (CType.named item.name).rustText ↔ ¬ Qualified item.name))
    ∧ ∀ owner decl, (owner, decl) ∈ api.allEnums → ∃ item ∈ generated.bindings.enums,
      item.lines <:+: generated.bindings.lines config.target
        ∧ ∀ name ∈ enumNames owner decl,
          (IsDefinedAs item.lines (CType.named name).rustText ↔ QualifiedOnce owner decl) := by
  obtain ⟨scope, -, rfl⟩ := Config.exists_scope_of_generate h
  refine ⟨fun item hitem => ⟨?_, item.isDefinedAs_line⟩,
    fun name hname => ⟨Bindings.infix_lines_of_mem_opaqueTypes hname, isDefinedAs_opaqueLines name⟩,
    fun item hitem => ⟨Bindings.infix_lines_of_mem_allStructs hitem, ?_⟩,
    fun item hitem => ⟨Bindings.infix_lines_of_mem_interfaces hitem, ?_⟩,
    fun owner decl hdecl => ?_⟩
  · exact (List.singleton_infix_iff _ _).mpr (Bindings.line_mem_lines_of_mem_typedefs hitem)
  · rw [StructItem.isDefinedAs_lines_iff, eq_rustText_named_iff]
  · rw [InterfaceItem.isDefinedAs_lines_iff, eq_rustText_named_iff]
  · obtain ⟨item, hitem, hname⟩ := List.any_eq_true.mp (any_enumItems_of_mem_allEnums hdecl)
    refine ⟨item, hitem, Bindings.infix_lines_of_mem_enums hitem, fun name hmem => ?_⟩
    rw [EnumItem.isDefinedAs_lines_iff, beq_iff_eq.mp hname, enumItemName_eq_rustText_iff hmem]

/-- A struct and a typedef with qualified names, and a struct that refers to both and to an enum
of the first. -/
def qualifiedApi : Api where
  structs :=
    [{ name := "Outer_t::Inner_t", fields := [⟨"m_n", "int"⟩], enums := [{ name := "EKind" }] },
     { name := "Holder_t"
       fields := [⟨"m_pInner", "Outer_t::Inner_t *"⟩, ⟨"m_eKind", "Outer_t::Inner_t::EKind"⟩,
         ⟨"m_nSize", "Outer_t::Size_t"⟩] }]
  typedefs := [⟨"Outer_t::Size_t", "int"⟩]

def qualifiedReport : PlatformReport :=
  .ofList [("Outer_t::Inner_t", ⟨4, 4, [⟨"m_n", 4, 4, some 0⟩]⟩),
    ("Holder_t", ⟨16, 8, [⟨"m_pInner", 8, 8, some 0⟩, ⟨"m_eKind", 4, 4, some 8⟩,
      ⟨"m_nSize", 4, 4, some 12⟩]⟩)]

def qualifiedConfig : Config where
  retypings := []

def qualifiedScope : Scope where
  index := .ofApi qualifiedApi .empty []
  resolver := .ofOverrides .empty
  retypers := []
  boolMarker := "m_b"
  skippedConstants := []

def qualifiedBindings : Bindings :=
  (qualifiedScope.generate qualifiedConfig qualifiedApi qualifiedReport qualifiedReport).bindings

theorem qualifiedBindings_names :
    qualifiedBindings.typedefs.map (·.name) = ["Outer_t::Size_t"]
      ∧ qualifiedBindings.structs.map (·.name) = ["Outer_t::Inner_t", "Holder_t"]
      ∧ qualifiedBindings.enums.map (·.name) = ["Outer_t::Inner_t_EKind"] := by
  decide +kernel

theorem exists_qualified_struct {name : String} (h : name ∈ ["Outer_t::Inner_t", "Holder_t"]) :
    ∃ item ∈ qualifiedBindings.structs, item.name = name := by
  rw [← qualifiedBindings_names.2.1] at h
  exact List.mem_map.mp h

theorem generate_isDefinedAs_iff_unqualified_typedef :
    ∃ generated,
      qualifiedConfig.generate Pattern.language qualifiedApi qualifiedReport qualifiedReport
          = .ok generated
      ∧ (∃ item ∈ generated.bindings.typedefs, IsDefinedAs [item.line] "Outer_t_Size_t")
      ∧ (∃ item ∈ generated.bindings.structs,
        IsDefinedAs (item.lines qualifiedConfig.target) "Holder_t")
      ∧ ∃ item ∈ generated.bindings.structs,
        ¬ IsDefinedAs (item.lines qualifiedConfig.target) "Outer_t_Inner_t" := by
  have hgenerate : qualifiedConfig.generate Pattern.language qualifiedApi qualifiedReport
        qualifiedReport
      = .ok (qualifiedScope.generate qualifiedConfig qualifiedApi qualifiedReport
        qualifiedReport) := rfl
  obtain ⟨htypedefs, -, hstructs, -, -⟩ := generate_isDefinedAs_iff_unqualified hgenerate
  have hsize : "Outer_t::Size_t" ∈ qualifiedBindings.typedefs.map (·.name) := by
    rw [qualifiedBindings_names.1]
    exact List.mem_singleton_self _
  obtain ⟨typedef, htypedef, hsize⟩ := List.mem_map.mp hsize
  obtain ⟨holder, hholder, hplain⟩ :=
    exists_qualified_struct (List.mem_of_mem_tail List.mem_cons_self)
  obtain ⟨inner, hinner, hqualified⟩ := exists_qualified_struct List.mem_cons_self
  have hdefined := (htypedefs typedef (List.mem_append_right _ htypedef)).2
  have hholder' := (hstructs holder (List.mem_append_right _ hholder)).2
  have hinner' := (hstructs inner (List.mem_append_right _ hinner)).2
  rw [hsize] at hdefined
  rw [hplain] at hholder'
  rw [hqualified] at hinner'
  exact ⟨_, hgenerate, ⟨typedef, htypedef, hdefined⟩,
    ⟨holder, hholder, hholder'.mpr (by decide)⟩,
    ⟨inner, hinner, fun h => hinner'.mp h (by decide)⟩⟩

/-- The module refers to the struct and to its enum by identifiers that it does not define. -/
theorem generate_qualified_undefined :
    ∃ generated,
      qualifiedConfig.generate Pattern.language qualifiedApi qualifiedReport qualifiedReport
          = .ok generated
      ∧ (∃ item ∈ generated.bindings.structs, item.name = "Outer_t::Inner_t"
        ∧ ¬ IsDefinedAs (item.lines qualifiedConfig.target) "Outer_t_Inner_t")
      ∧ (∃ item ∈ generated.bindings.enums, item.name = "Outer_t::Inner_t_EKind"
        ∧ ¬ IsDefinedAs item.lines "Outer_t_Inner_t_EKind")
      ∧ ["    pub m_pInner: *mut Outer_t_Inner_t,", "    pub m_eKind: Outer_t_Inner_t_EKind,"]
        ⊆ generated.bindings.lines qualifiedConfig.target := by
  have hgenerate : qualifiedConfig.generate Pattern.language qualifiedApi qualifiedReport
        qualifiedReport
      = .ok (qualifiedScope.generate qualifiedConfig qualifiedApi qualifiedReport
        qualifiedReport) := rfl
  have hkind : "Outer_t::Inner_t_EKind" ∈ qualifiedBindings.enums.map (·.name) := by
    rw [qualifiedBindings_names.2.2]
    exact List.mem_singleton_self _
  obtain ⟨kind, hkind, hkindName⟩ := List.mem_map.mp hkind
  obtain ⟨inner, hinner, hname⟩ := exists_qualified_struct List.mem_cons_self
  refine ⟨_, hgenerate, ⟨inner, hinner, hname, ?_⟩, ⟨kind, hkind, hkindName, ?_⟩, by decide +kernel⟩
  · rw [StructItem.isDefinedAs_lines_iff, hname]
    decide
  · rw [EnumItem.isDefinedAs_lines_iff, hkindName]
    decide

end AbiBridge
