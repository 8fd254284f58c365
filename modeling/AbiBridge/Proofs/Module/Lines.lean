import AbiBridge.Callback.Shim
import AbiBridge.Module.Render
import Mathlib.Data.List.Basic

/-!
# Lines of a text

How a line begins, and which blocks of lines a module and a shim contain.
-/

namespace AbiBridge

def begins (opening line : String) : Bool :=
  opening.toList.isPrefixOf line.toList

/-- The texts differ at a position that both have. -/
def differ (a b : String) : Bool :=
  (a.toList.zip b.toList).any fun (x, y) => x != y

theorem begins_append_of_begins {opening text : String} (h : begins opening text = true)
    (rest : String) : begins opening (text ++ rest) = true := by
  rw [begins, List.isPrefixOf_iff_prefix] at h ⊢
  rw [String.toList_append]
  exact h.trans (List.prefix_append _ _)

@[simp] theorem begins_append (opening rest : String) : begins opening (opening ++ rest) = true :=
  begins_append_of_begins (by simp [begins]) rest

@[simp] theorem begins_append_append (opening first rest : String) :
    begins (first ++ opening) (first ++ rest) = begins opening rest := by
  rw [Bool.eq_iff_iff]
  simp [begins]

theorem begins_append_left_eq_false {first line : String} (h : begins first line = false)
    (opening : String) : begins (first ++ opening) line = false := by
  rw [begins, String.toList_append, Bool.eq_false_iff, ne_eq, List.isPrefixOf_iff_prefix]
  rw [begins, Bool.eq_false_iff, ne_eq, List.isPrefixOf_iff_prefix] at h
  exact fun hprefix => h ((List.prefix_append _ _).trans hprefix)

theorem not_prefix_append_of_differ {as bs : List Char}
    (h : ∃ pair ∈ as.zip bs, pair.1 ≠ pair.2) (rest : List Char) : ¬ as <+: bs ++ rest := by
  induction as generalizing bs with
  | nil => simp at h
  | cons a as ih =>
    cases bs with
    | nil => simp at h
    | cons b bs =>
      rw [List.cons_append, List.cons_prefix_cons]
      rintro ⟨rfl, hprefix⟩
      obtain ⟨pair, hpair, hne⟩ := h
      rcases List.mem_cons.mp hpair with rfl | hpair
      · exact hne rfl
      · exact ih ⟨pair, hpair, hne⟩ hprefix

@[simp] theorem begins_append_of_differ {opening text : String} (h : differ opening text = true)
    (rest : String) : begins opening (text ++ rest) = false := by
  rw [differ, List.any_eq_true] at h
  obtain ⟨pair, hpair, hne⟩ := h
  rw [begins, String.toList_append, Bool.eq_false_iff, ne_eq, List.isPrefixOf_iff_prefix]
  exact not_prefix_append_of_differ ⟨pair, hpair, by simpa using hne⟩ _

/-- A line begins with one of two texts that differ. -/
theorem begins_eq_false_of_begins {opening other line : String} (h : begins other line = true)
    (hdiffer : differ opening other = true) : begins opening line = false := by
  rw [begins, List.isPrefixOf_iff_prefix] at h
  obtain ⟨rest, hrest⟩ := h
  have hline : line = other ++ String.ofList rest := by simp [← String.toList_inj, hrest]
  rw [hline]
  exact begins_append_of_differ hdiffer _

theorem ModuleTarget.begins_packing {target : ModuleTarget} {align : PlatformNumber} {line : String}
    (h : line ∈ target.packing align) : begins "#[" line = true := by
  cases align with
  | literal n =>
    rw [packing, List.mem_singleton] at h
    rw [h, String.append_assoc]
    exact begins_append _ _
  | _ =>
    simp only [packing, List.mem_cons, List.not_mem_nil, or_false] at h
    rcases h with rfl | rfl <;>
      simp (disch := simp [begins]) only [String.append_assoc, begins_append_of_begins]

namespace StructItem

variable {item : StructItem} {target : ModuleTarget} {line : String}

theorem begins_attributes (h : line ∈ item.attributes target) : begins "#[" line = true := by
  rcases List.mem_append.mp h with h | h
  · exact ModuleTarget.begins_packing h
  · cases hid : item.callbackId with
    | none =>
      rw [hid, List.mem_singleton] at h
      rw [h]
      simp [begins]
    | some id =>
      simp only [hid, List.mem_cons, List.not_mem_nil, or_false] at h
      rcases h with rfl | rfl
      · simp [begins]
      · simp (disch := simp [begins]) only [String.append_assoc, begins_append_of_begins]

theorem begins_fieldAttribute {field : FieldItem} (h : line ∈ item.fieldAttribute target field) :
    begins "    #[" line = true := by
  unfold fieldAttribute at h
  split at h
  · split at h
    · rw [List.mem_singleton] at h
      simp (disch := simp [begins]) only [h, String.append_assoc, begins_append_of_begins]
    · cases h
  · rw [List.mem_singleton] at h
    simp (disch := simp [begins]) only [h, String.append_assoc, begins_append_of_begins]

end StructItem

theorem infix_intercalate {α : Type} {block : List α} {blocks : List (List α)}
    (h : block ∈ blocks) (separator : List α) : block <:+: separator.intercalate blocks := by
  refine List.infix_of_mem_flatten ?_
  induction blocks with
  | nil => cases h
  | cons first blocks ih =>
    cases blocks with
    | nil => simpa using h
    | cons second blocks =>
      rw [List.intersperse_cons_cons]
      rcases List.mem_cons.mp h with rfl | h
      · exact List.mem_cons_self
      · exact List.mem_cons_of_mem _ (List.mem_cons_of_mem _ (ih h))

namespace Bindings

theorem infix_blockSection {block : List String} {blocks : List (List String)}
    (h : block ∈ blocks) (title : String) : block <:+: blockSection title blocks := by
  rw [blockSection, if_neg (by cases h <;> simp)]
  exact (infix_intercalate h [""]).trans (List.suffix_append _ _).isInfix

theorem mem_lineSection {line : String} {body : List String} (h : line ∈ body) (title : String) :
    line ∈ lineSection title body := by
  rw [lineSection, if_neg (by cases h <;> simp)]
  exact List.mem_append_right _ h

def sections (bindings : Bindings) (target : ModuleTarget) : List (List String) :=
  [header, bindings.preludeSection target,
   lineSection "typedefs" (bindings.typedefs.map TypedefItem.line),
   blockSection "enums" (bindings.enums.map EnumItem.lines),
   lineSection "constants" (bindings.consts.map (ConstItem.line "")),
   blockSection "callback structs" (bindings.callbackStructs.map (StructItem.lines · target)),
   blockSection "structs" (bindings.structs.map (StructItem.lines · target)),
   blockSection "interfaces" (bindings.interfaces.map InterfaceItem.lines),
   bindings.flatSection target, bindings.callbackSection, bindings.shimSection target]

variable {bindings : Bindings} {target : ModuleTarget}

@[simp] theorem flatten_sections : (bindings.sections target).flatten = bindings.lines target := by
  simp [sections, lines]

theorem infix_lines_of_section {block body : List String} (h : block <:+: body)
    (hsection : body ∈ bindings.sections target) : block <:+: bindings.lines target := by
  rw [← flatten_sections]
  exact h.trans (List.infix_of_mem_flatten hsection)

theorem infix_lines_of_mem_callbackStructs {item : StructItem}
    (h : item ∈ bindings.callbackStructs) : item.lines target <:+: bindings.lines target := by
  have hblock := List.mem_map_of_mem (f := (StructItem.lines · target)) h
  refine infix_lines_of_section (infix_blockSection hblock "callback structs") ?_
  simp [sections]

theorem infix_lines_of_mem_structs {item : StructItem} (h : item ∈ bindings.structs) :
    item.lines target <:+: bindings.lines target := by
  have hblock := List.mem_map_of_mem (f := (StructItem.lines · target)) h
  refine infix_lines_of_section (infix_blockSection hblock "structs") ?_
  simp [sections]

theorem infix_lines_of_mem_allStructs {item : StructItem} (h : item ∈ bindings.allStructs) :
    item.lines target <:+: bindings.lines target :=
  (List.mem_append.mp h).elim infix_lines_of_mem_callbackStructs infix_lines_of_mem_structs

theorem infix_lines_of_mem_enums {item : EnumItem} (h : item ∈ bindings.enums) :
    item.lines <:+: bindings.lines target := by
  have hblock := List.mem_map_of_mem (f := EnumItem.lines) h
  refine infix_lines_of_section (infix_blockSection hblock "enums") ?_
  simp [sections]

theorem infix_lines_of_mem_interfaces {item : InterfaceItem} (h : item ∈ bindings.interfaces) :
    item.lines <:+: bindings.lines target := by
  have hblock := List.mem_map_of_mem (f := InterfaceItem.lines) h
  refine infix_lines_of_section (infix_blockSection hblock "interfaces") ?_
  simp [sections]

theorem infix_lines_of_mem_opaqueTypes {name : String} (h : name ∈ bindings.opaqueTypes) :
    opaqueLines name <:+: bindings.lines target := by
  have hblock := List.infix_of_mem_flatten (List.mem_map_of_mem (f := opaqueLines) h)
  have hprelude : opaqueLines name <:+: bindings.preludeSection target :=
    (hblock.trans List.infix_append_right).trans List.infix_append_right
  exact infix_lines_of_section hprelude (by simp [sections])

theorem line_mem_lines_of_mem_typedefs {item : TypedefItem}
    (h : item ∈ bindings.extraTypedefs ++ bindings.typedefs) :
    item.line ∈ bindings.lines target := by
  rw [← flatten_sections, List.mem_flatten]
  rcases List.mem_append.mp h with h | h
  · refine ⟨bindings.preludeSection target, by simp [sections], ?_⟩
    have hline := List.mem_map_of_mem (f := TypedefItem.line) h
    simp [preludeSection, titled, hline]
  · exact ⟨_, by simp [sections], mem_lineSection (List.mem_map_of_mem h) "typedefs"⟩

end Bindings

namespace Shim

theorem infix_lookup {block : List String} {blocks : List (List String)} (h : block ∈ blocks)
    (signature : String) : block <:+: lookup signature blocks.flatten :=
  (List.infix_of_mem_flatten h).trans
    ⟨[signature ++ " \x7b", "    switch (id) \x7b"],
      ["    default: return 0;", "    \x7d", "\x7d"], rfl⟩

variable {callbacks : List Callback} {callback : Callback}

theorem fieldAlignCase_infix_lines (options : ShimTarget) (h : callback ∈ callbacks) :
    fieldAlignCase callback <:+: lines options callbacks := by
  have hlookup := infix_lookup (List.mem_map_of_mem (f := fieldAlignCase) h)
    ("int32_t " ++ options.marker ++ "_callback_field_align(int32_t id, int32_t field)")
  exact (hlookup.trans List.infix_append_right).trans List.infix_append_left

theorem fieldSizeCase_infix_lines (options : ShimTarget) (h : callback ∈ callbacks) :
    fieldSizeCase callback <:+: lines options callbacks := by
  have hlookup := infix_lookup (List.mem_map_of_mem (f := fieldSizeCase) h)
    ("int32_t " ++ options.marker ++ "_callback_field_size(int32_t id, int32_t field)")
  exact (((hlookup.trans List.infix_append_right).trans List.infix_append_left).trans
    List.infix_append_left).trans List.infix_append_left

end Shim

end AbiBridge
