import AbiBridge.Generate.Output
import AbiBridge.Proofs.Generate.CallbackUnion
import AbiBridge.Proofs.Module.Lines
import Mathlib.Data.List.Forall2

/-!
# Numbers of fields

The declaration of a payload and the shim number the fields of the payload each on its own:
the declaration by the order of its fields, the shim by the fields of the callback. Both have
the same order, but a filler is a field of the declaration only.
-/

namespace AbiBridge

def DeclaresField (line name : String) : Prop :=
  ∃ type, line = "    pub " ++ identifierFor name ++ ": " ++ type ++ ","

/-- The lines declare fields of the given names, in this order and no others. -/
def DeclaresFields (lines names : List String) : Prop :=
  List.Forall₂ DeclaresField (lines.filter (begins "    pub ")) names

namespace StructItem

variable (item : StructItem) (target : ModuleTarget)

@[simp] theorem filter_attributes : (item.attributes target).filter (begins "    pub ") = [] := by
  refine List.filter_eq_nil_iff.mpr fun line hline => ?_
  rw [begins_eq_false_of_begins (begins_attributes hline) (by simp [differ])]
  exact Bool.false_ne_true

@[simp] theorem filter_fieldAttribute (field : FieldItem) :
    (item.fieldAttribute target field).filter (begins "    pub ") = [] := by
  refine List.filter_eq_nil_iff.mpr fun line hline => ?_
  rw [begins_eq_false_of_begins (begins_fieldAttribute hline) (by simp [differ])]
  exact Bool.false_ne_true

@[simp] theorem filter_fieldLines (field : FieldItem) :
    (item.fieldLines target field).filter (begins "    pub ")
      = ["    pub " ++ declaration field.name field.type ++ ","] := by
  rw [fieldLines, List.filter_append, filter_fieldAttribute, String.append_assoc]
  simp

theorem filter_declarationLines : (item.declarationLines target).filter (begins "    pub ")
    = item.fields.map (fun field => "    pub " ++ declaration field.name field.type ++ ",")
      ++ if item.layout.filler then ["    pub _padding: u8,"] else [] := by
  have hopening : begins "    pub " ("pub struct " ++ item.name ++ " \x7b") = false := by
    rw [String.append_assoc]
    exact begins_append_of_differ (by simp [differ]) _
  have hclosing : ["\x7d"].filter (begins "    pub ") = [] := by simp [begins]
  have hfiller : (if item.layout.filler then ["    pub _padding: u8,"] else []).filter
      (begins "    pub ") = if item.layout.filler then ["    pub _padding: u8,"] else [] := by
    cases item.layout.filler <;> simp [begins]
  rw [declarationLines, List.filter_append, filter_attributes, List.nil_append, braced,
    List.cons_append, List.filter_cons_of_neg (by simpa using hopening), List.filter_append,
    List.filter_append, hclosing, hfiller, List.append_nil, List.filter_flatMap]
  simp only [filter_fieldLines, List.map_eq_flatMap]

theorem declaresFields_declarationLines :
    DeclaresFields (item.declarationLines target) item.declaredNames := by
  rw [DeclaresFields, filter_declarationLines, declaredNames]
  refine List.rel_append ?_ ?_
  · rw [List.forall₂_map_left_iff, List.forall₂_map_right_iff, List.forall₂_same]
    rintro field -
    refine ⟨field.type.rustText, ?_⟩
    simp only [declaration, String.append_assoc]
  · cases item.layout.filler with
    | false => exact .nil
    | true => exact .cons ⟨"u8", by decide⟩ .nil

end StructItem

namespace Shim

/-- The line answers a question about the field of the given number by the given expression. -/
def AnswersField (line : String) (index : Nat) (answer : String) : Prop :=
  ∃ comment ∈ ["", "// "], line
    = "    " ++ comment ++ "    if (field == " ++ toString index ++ ") return (int32_t)" ++ answer
      ++ ";"

def asksField (line : String) : Bool :=
  ["", "// "].any fun comment => begins ("    " ++ comment ++ "    if (field == ") line

/-- The lines answer for fields of the given names, the number of each being its position. -/
def AnswersFields (lines : List String) (answer : String → String) (names : List String) : Prop :=
  List.Forall₂ (fun line field => AnswersField line field.2 (answer field.1))
    (lines.filter asksField) names.zipIdx

theorem asksField_caseLine_of_differ (callback : Callback) {text : String}
    (hfield : differ "    if (field == " text = true) (hcomment : differ "// " text = true)
    (rest : String) : asksField (caseLine callback (text ++ rest)) = false := by
  have hplain := begins_append_of_differ hfield rest
  have hcommented := begins_append_left_eq_false (begins_append_of_differ hcomment rest)
    "    if (field == "
  have hmark : begins "    if (field == " ("// " ++ (text ++ rest)) = false :=
    begins_append_of_differ (by simp [differ]) _
  cases hshim : callback.inShim <;>
    simp [asksField, caseLine, hshim, String.append_assoc, hplain, hcommented, hmark,
      -String.reduceAppend]

theorem asksField_caseLine (callback : Callback) {text : String}
    (hfield : differ "    if (field == " text = true) (hcomment : differ "// " text = true) :
    asksField (caseLine callback text) = false := by
  simpa using asksField_caseLine_of_differ callback hfield hcomment ""

@[simp] theorem asksField_fieldLine (callback : Callback) (index : Nat) (answer : String) :
    asksField (fieldLine callback index answer) = true := by
  cases hshim : callback.inShim <;>
    simp [asksField, fieldLine, caseLine, hshim, String.append_assoc, -String.reduceAppend]

theorem answersField_fieldLine (callback : Callback) (index : Nat) (answer : String) :
    AnswersField (fieldLine callback index answer) index answer := by
  refine ⟨if callback.inShim then "" else "// ", ?_, ?_⟩
  · cases callback.inShim <;> simp
  · simp only [fieldLine, caseLine, String.append_assoc]

/-- A case with the lines for all fields between lines of other kinds. -/
theorem answersFields_of_eq {callback : Callback} {lines before after : List String}
    {answer : String → String}
    (h : lines = before ++ callback.fields.zipIdx.map (fun (field, index) =>
      fieldLine callback index (answer field)) ++ after)
    (hbefore : before.filter asksField = []) (hafter : after.filter asksField = []) :
    AnswersFields lines answer callback.fields := by
  rw [AnswersFields, h, List.filter_append, List.filter_append, hbefore, hafter, List.nil_append,
    List.append_nil, List.filter_eq_self.mpr, List.forall₂_map_left_iff, List.forall₂_same]
  · rintro ⟨field, index⟩ -
    exact answersField_fieldLine _ _ _
  · intro line hline
    obtain ⟨⟨field, index⟩, -, rfl⟩ := List.mem_map.mp hline
    exact asksField_fieldLine _ _ _

theorem answersFields_fieldSizeCase (callback : Callback) :
    AnswersFields (fieldSizeCase callback)
      (fun field => "sizeof(" ++ callback.payload ++ "::" ++ field ++ ")") callback.fields := by
  refine answersFields_of_eq rfl ?_ ?_
  · simp (disch := simp [differ]) [label, String.append_assoc, asksField_caseLine_of_differ]
  · simp (disch := simp [differ]) [asksField_caseLine]

theorem answersFields_fieldAlignCase (callback : Callback) :
    AnswersFields (fieldAlignCase callback) (fun field => "alignof(p->" ++ field ++ ")")
      callback.fields := by
  rw [fieldAlignCase, List.append_assoc]
  refine answersFields_of_eq (List.append_assoc _ _ _).symm ?_ ?_
  · simp (disch := simp [differ]) [label, String.append_assoc, asksField_caseLine]
  · simp (disch := simp [differ]) [asksField_caseLine]

end Shim

section Choice

variable {index : Index} {deny : List String} {taken : List (Int × String)}

/-- A struct that carries a number and is not rejected becomes a callback. -/
theorem toCallback_mem_decideFrom {items : List StructItem} {item : StructItem}
    (hitem : item ∈ items) {id : Int} (hid : item.callbackId = some id)
    (hkept : item.name ∉ rejectedNames (decideFrom index deny taken items)) :
    item.toCallback id deny ∈ (decideFrom index deny taken items).filterMap (·.callback?) := by
  induction items generalizing taken with
  | nil => cases hitem
  | cons first items ih =>
    rw [decideFrom] at hkept ⊢
    rcases List.mem_cons.mp hitem with rfl | hitem
    · simp only [hid] at hkept ⊢
      split at hkept
      · exact absurd List.mem_cons_self hkept
      · split at hkept
        · exact absurd List.mem_cons_self hkept
        · exact List.mem_cons_self
    · split at hkept
      · exact ih hitem hkept
      · split at hkept
        · exact ih hitem fun hmem => hkept (List.mem_cons_of_mem _ hmem)
        · split at hkept
          · exact ih hitem fun hmem => hkept (List.mem_cons_of_mem _ hmem)
          · exact List.mem_cons_of_mem _ (ih hitem hkept)

end Choice

namespace Scope

variable (scope : Scope) (config : Config) {api : Api} (reportA reportB : PlatformReport)

/-- The callback of a payload of a module is one of its callbacks. -/
theorem toCallback_mem_generate {item : StructItem} {id : Int}
    (hitem : item ∈ (scope.generate config api reportA reportB).bindings.callbackStructs)
    (hid : item.callbackId = some id) :
    item.toCallback id config.shim.deny
      ∈ (scope.generate config api reportA reportB).bindings.callbacks := by
  obtain ⟨survivor, hsurvivor, hfinish⟩ := List.mem_map.mp hitem
  have hname : survivor.name = item.name := by
    rw [← hfinish]
    rfl
  rw [generate_callbackStructs] at hitem
  obtain ⟨left, hleft, rfl⟩ := List.mem_map.mp hitem
  obtain ⟨made, hmade, rfl⟩ := List.mem_map.mp hleft
  obtain ⟨hstage, hkept⟩ := List.mem_filter.mp (List.mem_filter.mp hmade).1
  rw [Bool.not_eq_true', List.contains_eq_mem, decide_eq_false_iff_not] at hkept
  have hcallback : (scope.finishStruct (made.retainMethods (scope.leftOut config api reportA
      reportB))).toCallback id config.shim.deny = made.toCallback id config.shim.deny := by
    have hsame := callback?_finishStruct scope config.shim.deny
      (made.retainMethods (scope.leftOut config api reportA reportB))
    rw [callback?_retainMethods] at hsame
    simpa [StructItem.callback?, hid, show made.callbackId = some id from hid] using hsame
  rw [hcallback]
  refine List.mem_filter.mpr ⟨toCallback_mem_decideFrom hstage hid hkept, ?_⟩
  exact List.any_eq_true.mpr ⟨survivor, hsurvivor, beq_iff_eq.mpr hname⟩

end Scope

/-- The module declares the fields of a payload, the filler included, and both lookups of the
shim answer for the fields of its callback. -/
structure Generated.NumbersFields (generated : Generated) (config : Config) (item : StructItem)
    (callback : Callback) : Prop where
  declaration : item.declarationLines config.target <:+: generated.bindings.lines config.target
  declared : DeclaresFields (item.declarationLines config.target) item.declaredNames
  sizes : Shim.fieldSizeCase callback
    <:+: Shim.lines config.shimTarget generated.bindings.callbacks
  sized : Shim.AnswersFields (Shim.fieldSizeCase callback)
    (fun field => "sizeof(" ++ item.name ++ "::" ++ field ++ ")") callback.fields
  aligns : Shim.fieldAlignCase callback
    <:+: Shim.lines config.shimTarget generated.bindings.callbacks
  aligned : Shim.AnswersFields (Shim.fieldAlignCase callback)
    (fun field => "alignof(p->" ++ field ++ ")") callback.fields

theorem Generated.numbersFields {generated : Generated} {item : StructItem} {id : Int}
    (config : Config) (hitem : item ∈ generated.bindings.callbackStructs)
    (hcallback : item.toCallback id config.shim.deny ∈ generated.bindings.callbacks) :
    generated.NumbersFields config item (item.toCallback id config.shim.deny) where
  declaration := by
    refine List.IsInfix.trans ?_ (Bindings.infix_lines_of_mem_callbackStructs hitem)
    simp only [StructItem.lines, List.append_assoc]
    exact List.infix_append_left
  declared := item.declaresFields_declarationLines _
  sizes := Shim.fieldSizeCase_infix_lines _ hcallback
  sized := Shim.answersFields_fieldSizeCase _
  aligns := Shim.fieldAlignCase_infix_lines _ hcallback
  aligned := Shim.answersFields_fieldAlignCase _

/-- Each payload that carries a number has one callback. The declaration and both lookups of the
shim number its fields in the same order, and the shim has a case for each field of the
declaration if and only if the payload has no filler. -/
theorem generate_field_numbers {patterns : PatternLanguage} {config : Config} {api : Api}
    {reportA reportB : PlatformReport} {generated : Generated}
    (h : config.generate patterns api reportA reportB = .ok generated) :
    ∀ item ∈ generated.bindings.callbackStructs, ∀ id, item.callbackId = some id →
      ∃ callback ∈ generated.bindings.callbacks, callback.id = id ∧ callback.payload = item.name
        ∧ (∀ other ∈ generated.bindings.callbacks, other.id = id → other = callback)
        ∧ generated.NumbersFields config item callback
        ∧ item.declaredNames
          = callback.fields ++ (if item.layout.filler then ["_padding"] else [])
        ∧ (item.declaredNames = callback.fields ↔ item.layout.filler = false) := by
  obtain ⟨scope, -, rfl⟩ := Config.exists_scope_of_generate h
  intro item hitem id hid
  have hmem := scope.toCallback_mem_generate config reportA reportB hitem hid
  have hids := scope.nodup_callbacks_ids config reportA reportB api
  have hnames : item.declaredNames = (item.toCallback id config.shim.deny).fields
      ++ (if item.layout.filler then ["_padding"] else []) := rfl
  refine ⟨item.toCallback id config.shim.deny, hmem, rfl, rfl, ?_,
    Generated.numbersFields config hitem hmem, hnames, ?_⟩
  · intro other hother heq
    exact List.inj_on_of_nodup_map hids hother hmem heq
  · rw [hnames]
    cases item.layout.filler <;> simp

/-- A payload with a field whose name is a keyword, and a payload without fields. -/
def numberedApi : Api where
  callbackStructs :=
    [{ name := "Key_t", callbackId := some 8, fields := [⟨"type", "int"⟩, ⟨"m_nKey", "char"⟩] },
     { name := "Empty_t", callbackId := some 7 }]

def numberedReport : PlatformReport :=
  .ofList
    [("Key_t", ⟨8, 4, [⟨"type", 4, 4, some 0⟩, ⟨"m_nKey", 1, 1, some 4⟩]⟩), ("Empty_t", ⟨1, 1, []⟩)]

def numberedConfig : Config where
  retypings := []

def numberedScope : Scope where
  index := .ofApi numberedApi .empty []
  resolver := .ofOverrides .empty
  retypers := []
  boolMarker := "m_b"
  skippedConstants := []

theorem generate_field_numbers_keyword :
    ∃ generated, numberedConfig.generate Pattern.language numberedApi numberedReport numberedReport
        = .ok generated
      ∧ ∃ item ∈ generated.bindings.callbackStructs, item.callbackId = some 8
        ∧ ∃ callback ∈ generated.bindings.callbacks, callback.id = 8
          ∧ generated.NumbersFields numberedConfig item callback
          ∧ item.declaredNames = ["type", "m_nKey"] ∧ callback.fields = ["type", "m_nKey"] := by
  have hgenerate : numberedConfig.generate Pattern.language numberedApi numberedReport
        numberedReport
      = .ok (numberedScope.generate numberedConfig numberedApi numberedReport numberedReport) := rfl
  have hitem : ∃ item ∈ (numberedScope.generate numberedConfig numberedApi numberedReport
      numberedReport).bindings.callbackStructs, item.callbackId = some 8
        ∧ item.declaredNames = ["type", "m_nKey"] ∧ item.layout.filler = false := by decide +kernel
  obtain ⟨item, hitem, hid, hnames, hfiller⟩ := hitem
  obtain ⟨callback, hcallback, hnumber, -, -, hfields, -, hsame⟩ :=
    generate_field_numbers hgenerate item hitem 8 hid
  exact ⟨_, hgenerate, item, hitem, hid, callback, hcallback, hnumber, hfields, hnames,
    (hsame.mpr hfiller).symm.trans hnames⟩

/-- The filler of a payload is a field of its declaration that the shim does not know. -/
theorem generate_filler_unnumbered :
    ∃ generated, numberedConfig.generate Pattern.language numberedApi numberedReport numberedReport
        = .ok generated
      ∧ ∃ item ∈ generated.bindings.callbackStructs, ∃ callback ∈ generated.bindings.callbacks,
        item.name = callback.payload ∧ item.callbackId = some callback.id
        ∧ (item.declarationLines numberedConfig.target).filter (begins "    pub ")
          = ["    pub _padding: u8,"]
        ∧ callback.fields = []
        ∧ (Shim.fieldSizeCase callback).filter Shim.asksField = []
        ∧ (Shim.fieldAlignCase callback).filter Shim.asksField = [] := by
  refine ⟨_, rfl, ?_⟩
  decide +kernel

end AbiBridge
