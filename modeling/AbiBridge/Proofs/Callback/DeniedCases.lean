import AbiBridge.Proofs.Module.Lines
import AbiBridge.Proofs.Text.Block
import Mathlib.Data.List.Forall2

/-!
# Denied callbacks

The cases of a denied callback are comments. Without these lines a shim is the shim of the
callbacks that it may mention: each of its lookups has one case for each of them, and its braces
are balanced unless the type of the root object is itself written as such a comment.
-/

namespace AbiBridge

/-! ## Settings and names that are copied -/

/-- The settings have no braces and no line breaks. -/
structure ShimTarget.IsPlain (options : ShimTarget) : Prop where
  includes : ∀ file ∈ options.includes, IsPlainText file
  marker : IsPlainText options.marker
  rootAccessor : ∀ accessor ∈ options.rootAccessor, IsPlainText accessor
  rootInterface : ∀ interface ∈ options.rootInterface, IsPlainText interface

/-- The payload and its fields are named by identifiers of C. -/
structure Callback.HasIdentifiers (callback : Callback) : Prop where
  payload : IsIdentifier callback.payload
  fields : ∀ field ∈ callback.fields, IsIdentifier field

namespace Shim

/-! ## Cases -/

def isComment (line : String) : Bool :=
  begins "    // " line

/-- The lines of a text that are not commented out. -/
def remaining (text : String) : List String :=
  (Text.lines text).filter (!isComment ·)

/-- The line of a case stands behind its label or closes the case. -/
def isInner (code : String) : Bool :=
  begins "    " code || code == "\x7d"

theorem isInner_append {text : String} (h : begins "    " text = true) (rest : String) :
    isInner (text ++ rest) = true := by
  rw [isInner, begins_append_of_begins h, Bool.true_or]

/-- The lines are a case of the callback: one with its label, and those behind it. -/
def IsCase (callback : Callback) (lines : List String) : Prop :=
  ∃ (answer : String) (codes : List String), lines
      = caseLine callback (label callback ++ answer) :: codes.map (caseLine callback)
    ∧ ∀ code ∈ codes, isInner code = true

theorem isCase_payloadCase (operator : String) (callback : Callback) :
    IsCase callback (payloadCase operator callback) :=
  ⟨" return (int32_t)" ++ operator ++ "(" ++ callback.payload ++ ");", [],
    by simp [payloadCase, String.append_assoc], nofun⟩

theorem isCase_fieldSizeCase (callback : Callback) :
    IsCase callback (fieldSizeCase callback) := by
  refine ⟨"", callback.fields.zipIdx.map (fun field => "    if (field == "
    ++ (toString field.2 ++ ") return (int32_t)" ++ ("sizeof(" ++ callback.payload ++ "::"
      ++ field.1 ++ ");"))) ++ ["    return 0;"], ?_, ?_⟩
  · simp [fieldSizeCase, fieldLine, String.append_assoc]
  · intro code hcode
    rcases List.mem_append.mp hcode with hcode | hcode
    · obtain ⟨⟨field, index⟩, -, rfl⟩ := List.mem_map.mp hcode
      exact isInner_append (by decide) _
    · rw [List.mem_singleton.mp hcode]
      decide

theorem isCase_fieldAlignCase (callback : Callback) :
    IsCase callback (fieldAlignCase callback) := by
  refine ⟨" \x7b", ["    const " ++ (callback.payload ++ " *p = nullptr;"), "    (void)p;"]
    ++ callback.fields.zipIdx.map (fun field => "    if (field == "
      ++ (toString field.2 ++ ") return (int32_t)" ++ ("alignof(p->" ++ field.1 ++ ");")))
    ++ ["    return 0;", "\x7d"], ?_, ?_⟩
  · simp [fieldAlignCase, fieldLine, String.append_assoc]
  · intro code hcode
    simp only [List.mem_append, List.mem_map, List.mem_cons, List.not_mem_nil, or_false] at hcode
    rcases hcode with ((rfl | rfl) | ⟨⟨field, index⟩, -, rfl⟩) | rfl | rfl
    · exact isInner_append (by decide) _
    · decide
    · exact isInner_append (by decide) _
    · decide
    · decide

theorem caseLine_of_inShim {callback : Callback} (h : callback.inShim = true) (code : String) :
    caseLine callback code = "    " ++ code := by
  simp [caseLine, h]

theorem isComment_caseLine {callback : Callback} {code : String}
    (h : begins "// " code = false) :
    isComment (caseLine callback code) = !callback.inShim := by
  cases hshim : callback.inShim with
  | true =>
    have hopening : "    // " = "    " ++ "// " := by decide
    rw [isComment, caseLine_of_inShim hshim, hopening, begins_append_append, h]
    rfl
  | false =>
    have hline : caseLine callback code = "    // " ++ code := by
      simp [caseLine, hshim]
    rw [isComment, hline, begins_append]
    rfl

theorem begins_comment_label (callback : Callback) (answer : String) :
    begins "// " (label callback ++ answer) = false := by
  rw [label, String.append_assoc, String.append_assoc]
  exact begins_append_of_differ (by decide) _

theorem begins_eq_false_of_isInner {opening code : String} (h : isInner code = true)
    (hblank : differ opening "    " = true) (hbrace : differ opening "\x7d" = true) :
    begins opening code = false := by
  rw [isInner, Bool.or_eq_true] at h
  rcases h with h | h
  · exact begins_eq_false_of_begins h hblank
  · rw [beq_iff_eq.mp h]
    simpa using begins_append_of_differ hbrace ""

/-- All lines of a case are comments, or none is. -/
theorem IsCase.filter_comment {callback : Callback} {lines : List String}
    (h : IsCase callback lines) :
    lines.filter (!isComment ·) = if callback.inShim then lines else [] := by
  obtain ⟨answer, codes, rfl, hcodes⟩ := h
  have hall : ∀ line ∈ caseLine callback (label callback ++ answer)
      :: codes.map (caseLine callback),
      isComment line = !callback.inShim := by
    intro line hline
    rcases List.mem_cons.mp hline with rfl | hline
    · exact isComment_caseLine (begins_comment_label callback answer)
    · obtain ⟨code, hcode, rfl⟩ := List.mem_map.mp hline
      have hinner := hcodes code hcode
      exact isComment_caseLine (begins_eq_false_of_isInner hinner (by decide) (by decide))
  cases hshim : callback.inShim with
  | true =>
    refine List.filter_eq_self.mpr fun line hline => ?_
    rw [hall line hline, hshim]
    rfl
  | false =>
    refine List.filter_eq_nil_iff.mpr fun line hline => ?_
    rw [hall line hline, hshim]
    simp

theorem filter_cases {cases : Callback → List String}
    (h : ∀ callback, IsCase callback (cases callback)) (callbacks : List Callback) :
    (callbacks.flatMap cases).filter (!isComment ·)
      = (callbacks.filter (·.inShim)).flatMap cases := by
  induction callbacks with
  | nil => rfl
  | cons callback callbacks ih =>
    rw [List.flatMap_cons, List.filter_append, ih, (h callback).filter_comment]
    cases hshim : callback.inShim <;> simp [hshim]

/-- Of the lines of a case that the shim may mention only the first one opens a case. -/
theorem IsCase.filter_label {callback : Callback} {lines : List String}
    (h : IsCase callback lines) (hshim : callback.inShim = true) :
    ∃ line, lines.filter (begins "    case ") = [line]
      ∧ begins ("    " ++ label callback) line = true := by
  obtain ⟨answer, codes, rfl, hcodes⟩ := h
  have hopening : "    case " = "    " ++ "case " := by decide
  have hhead : begins "    case " ("    " ++ (label callback ++ answer)) = true := by
    rw [hopening, begins_append_append, label, String.append_assoc, String.append_assoc]
    exact begins_append _ _
  have hrest : (codes.map (caseLine callback)).filter (begins "    case ") = [] := by
    refine List.filter_eq_nil_iff.mpr fun line hline => ?_
    obtain ⟨code, hcode, rfl⟩ := List.mem_map.mp hline
    rw [caseLine_of_inShim hshim, hopening, begins_append_append,
      begins_eq_false_of_isInner (hcodes code hcode) (by decide) (by decide)]
    exact Bool.false_ne_true
  refine ⟨caseLine callback (label callback ++ answer), ?_, ?_⟩
  · rw [List.filter_cons_of_pos (by rw [caseLine_of_inShim hshim]; exact hhead), hrest]
  · rw [caseLine_of_inShim hshim, ← String.append_assoc]
    exact begins_append _ _

/-! ## Parts of a shim -/

/-- What the names of the lookups end in, with their parameters, and the cases of a callback. -/
def lookupParts : List (String × (Callback → List String)) :=
  [("_callback_size(int32_t id)", payloadCase "sizeof"),
   ("_callback_align(int32_t id)", payloadCase "alignof"),
   ("_callback_field_size(int32_t id, int32_t field)", fieldSizeCase),
   ("_callback_field_align(int32_t id, int32_t field)", fieldAlignCase)]

def signature (options : ShimTarget) (name : String) : String :=
  "int32_t " ++ options.marker ++ name

def openingLines (options : ShimTarget) : List String :=
  ["// Generated by vbind-gen. Do not edit.", ""]
    ++ options.includes.map (fun file => "#include \"" ++ file ++ "\"")
    ++ ["#include <cstddef>", "#include <cstdint>", "", "extern \"C\" \x7b"]

/-- The shim has a function that returns the root object. -/
def hasAccessor (options : ShimTarget) : Bool :=
  options.rootAccessor.any (!·.isEmpty)

def rootSignature (options : ShimTarget) : String :=
  options.rootInterface.getD "void" ++ " *" ++ options.marker ++ "_root_client()"

def rootBlock (options : ShimTarget) : List String :=
  if hasAccessor options then
    ["", rootSignature options ++ " \x7b", "    return " ++ options.rootAccessor.getD "" ++ "();",
     "\x7d"]
  else []

def lookupBlock (options : ShimTarget) (callbacks : List Callback)
    (part : String × (Callback → List String)) : List String :=
  "" :: lookup (signature options part.1) (callbacks.flatMap part.2)

theorem lines_eq (options : ShimTarget) (callbacks : List Callback) :
    lines options callbacks = openingLines options
      ++ (rootBlock options
      ++ (lookupParts.flatMap (lookupBlock options callbacks) ++ ["\x7d"])) := by
  have hroot : "" :: rootLines options = rootBlock options ++ [""] := by
    rw [rootLines, rootBlock, hasAccessor, rootSignature]
    cases options.rootAccessor with
    | none => rfl
    | some accessor => cases hempty : accessor.isEmpty <;> simp [hempty, String.append_assoc]
  have hfollowed : ∀ rest, "" :: (rootLines options ++ rest) = rootBlock options ++ "" :: rest := by
    intro rest
    rw [← List.cons_append, hroot, List.append_assoc]
    rfl
  simp [lines, openingLines, lookupParts, lookupBlock, signature, hfollowed]

theorem isCase_of_mem_lookupParts {part : String × (Callback → List String)}
    (h : part ∈ lookupParts) (callback : Callback) : IsCase callback (part.2 callback) := by
  simp only [lookupParts, List.mem_cons, List.not_mem_nil, or_false] at h
  rcases h with rfl | rfl | rfl | rfl
  · exact isCase_payloadCase _ _
  · exact isCase_payloadCase _ _
  · exact isCase_fieldSizeCase _
  · exact isCase_fieldAlignCase _

/-! ## Removing the comments -/

@[simp] theorem filter_openingLines (options : ShimTarget) :
    (openingLines options).filter (!isComment ·) = openingLines options := by
  refine List.filter_eq_self.mpr fun line hline => ?_
  simp only [openingLines, List.mem_append, List.mem_map, List.mem_cons, List.not_mem_nil,
    or_false] at hline
  rcases hline with ((rfl | rfl) | ⟨file, -, rfl⟩) | rfl | rfl | rfl | rfl
  · decide
  · decide
  · rw [isComment, String.append_assoc, begins_append_of_differ (by decide)]
    rfl
  all_goals decide

@[simp] theorem isComment_signature (options : ShimTarget) (name : String) :
    isComment (signature options name ++ " \x7b") = false := by
  rw [isComment, signature, String.append_assoc, String.append_assoc]
  exact begins_append_of_differ (by decide) _

theorem filter_lookupBlock {part : String × (Callback → List String)} (hpart : part ∈ lookupParts)
    (options : ShimTarget) (callbacks : List Callback) :
    (lookupBlock options callbacks part).filter (!isComment ·)
      = lookupBlock options (callbacks.filter (·.inShim)) part := by
  have hcases := filter_cases (isCase_of_mem_lookupParts hpart) callbacks
  have hsignature := isComment_signature options part.1
  have hclosing : ["    default: return 0;", "    \x7d", "\x7d"].filter (!isComment ·)
      = ["    default: return 0;", "    \x7d", "\x7d"] := by decide
  have hempty : isComment "" = false := by decide
  have hswitch : isComment "    switch (id) \x7b" = false := by decide
  simp only [lookupBlock, lookup, List.cons_append, List.nil_append]
  rw [List.filter_cons_of_pos (by simp [hempty]), List.filter_cons_of_pos (by simp [hsignature]),
    List.filter_cons_of_pos (by simp [hswitch]), List.filter_append, hcases, hclosing]

def remainingLines (options : ShimTarget) (callbacks : List Callback) : List String :=
  openingLines options ++ ((rootBlock options).filter (!isComment ·)
    ++ (lookupParts.flatMap (lookupBlock options (callbacks.filter (·.inShim))) ++ ["\x7d"]))

theorem filter_lines (options : ShimTarget) (callbacks : List Callback) :
    (lines options callbacks).filter (!isComment ·) = remainingLines options callbacks := by
  have hparts : (lookupParts.flatMap (lookupBlock options callbacks)).filter (!isComment ·)
      = lookupParts.flatMap (lookupBlock options (callbacks.filter (·.inShim))) := by
    rw [List.filter_flatMap]
    exact List.flatMap_congr fun part hpart => filter_lookupBlock hpart options callbacks
  have hclosing : ["\x7d"].filter (!isComment ·) = ["\x7d"] := by decide
  rw [lines_eq, List.filter_append, List.filter_append, List.filter_append, hparts, hclosing,
    filter_openingLines, remainingLines]

/-! ## Texts of the parts -/

theorem isPlainText_caseLine {callback : Callback} {code : String} (h : IsPlainText code) :
    IsPlainText (caseLine callback code) := by
  have hcomment : IsPlainText (if callback.inShim then "" else "// ") := by
    cases callback.inShim <;> decide
  exact isPlainText_append.mpr ⟨isPlainText_append.mpr ⟨by decide, hcomment⟩, h⟩

theorem isPlainText_label (callback : Callback) : IsPlainText (label callback) :=
  isPlainText_append.mpr ⟨isPlainText_append.mpr ⟨by decide, isPlainText_toString _⟩, by decide⟩

theorem isPlainText_fieldLine {callback : Callback} {answer : String} (h : IsPlainText answer)
    (index : Nat) : IsPlainText (fieldLine callback index answer) := by
  refine isPlainText_caseLine ?_
  simp only [isPlainText_append]
  exact ⟨⟨⟨⟨by decide, isPlainText_toString_nat index⟩, by decide⟩, h⟩, by decide⟩

section Cases

variable {callback : Callback} (h : callback.HasIdentifiers)
include h

theorem isBlock_payloadCase {operator : String} (hoperator : IsPlainText operator) :
    IsBlock 0 0 (payloadCase operator callback) := by
  refine .plain (fun line hline => ?_) 0
  rw [List.mem_singleton.mp hline]
  refine isPlainText_caseLine ?_
  simp only [isPlainText_append]
  exact ⟨⟨⟨⟨⟨isPlainText_label callback, by decide⟩, hoperator⟩, by decide⟩, h.payload.isPlainText⟩,
    by decide⟩

theorem isBlock_fieldSizeCase : IsBlock 0 0 (fieldSizeCase callback) := by
  refine .plain (fun line hline => ?_) 0
  simp only [fieldSizeCase, List.mem_append, List.mem_map, List.mem_cons, List.not_mem_nil,
    or_false] at hline
  rcases hline with (rfl | ⟨⟨field, index⟩, hfield, rfl⟩) | rfl
  · exact isPlainText_caseLine (isPlainText_label callback)
  · have hname := h.fields field (List.fst_mem_of_mem_zipIdx hfield)
    refine isPlainText_fieldLine ?_ index
    simp only [isPlainText_append]
    exact ⟨⟨⟨⟨by decide, h.payload.isPlainText⟩, by decide⟩, hname.isPlainText⟩, by decide⟩
  · exact isPlainText_caseLine (by decide)

theorem isBlock_fieldAlignCase : IsBlock 0 0 (fieldAlignCase callback) := by
  have hopening : IsBlock 0 1 [caseLine callback (label callback ++ " \x7b")] := by
    rw [caseLine, ← String.append_assoc]
    exact .opened (isPlainText_caseLine (isPlainText_label callback)) 0
  have hinner : IsBlock 1 1 (
      [caseLine callback ("    const " ++ callback.payload ++ " *p = nullptr;"),
      caseLine callback "    (void)p;"]
      ++ (callback.fields.zipIdx.map (fun field =>
        fieldLine callback field.2 ("alignof(p->" ++ field.1 ++ ")"))
      ++ [caseLine callback "    return 0;"])) := by
    refine .plain (fun line hline => ?_) 1
    simp only [List.mem_append, List.mem_map, List.mem_cons, List.not_mem_nil, or_false] at hline
    rcases hline with (rfl | rfl) | ⟨⟨field, index⟩, hfield, rfl⟩ | rfl
    · refine isPlainText_caseLine ?_
      simp only [isPlainText_append]
      exact ⟨⟨by decide, h.payload.isPlainText⟩, by decide⟩
    · exact isPlainText_caseLine (by decide)
    · have hname := h.fields field (List.fst_mem_of_mem_zipIdx hfield)
      refine isPlainText_fieldLine ?_ index
      simp only [isPlainText_append]
      exact ⟨⟨by decide, hname.isPlainText⟩, by decide⟩
    · exact isPlainText_caseLine (by decide)
  have hclosing : IsBlock 1 0 [caseLine callback "\x7d"] := by
    rw [caseLine]
    cases callback.inShim <;> exact ⟨fun _ => rfl, by decide⟩
  have hlines := hopening.append (hinner.append hclosing)
  simpa [fieldAlignCase] using hlines

end Cases

theorem isBlock_of_mem_lookupParts {part : String × (Callback → List String)}
    (hpart : part ∈ lookupParts) {callback : Callback} (h : callback.HasIdentifiers) :
    IsBlock 0 0 (part.2 callback) := by
  simp only [lookupParts, List.mem_cons, List.not_mem_nil, or_false] at hpart
  rcases hpart with rfl | rfl | rfl | rfl
  · exact isBlock_payloadCase h (by decide)
  · exact isBlock_payloadCase h (by decide)
  · exact isBlock_fieldSizeCase h
  · exact isBlock_fieldAlignCase h

theorem isPlainText_of_mem_lookupParts {part : String × (Callback → List String)}
    (hpart : part ∈ lookupParts) : IsPlainText part.1 := by
  simp only [lookupParts, List.mem_cons, List.not_mem_nil, or_false] at hpart
  rcases hpart with rfl | rfl | rfl | rfl <;> decide

section Options

variable {options : ShimTarget} (h : options.IsPlain)
include h

theorem isBlock_openingLines : IsBlock 0 1 (openingLines options) := by
  have hincludes : IsBlock 0 0 (["// Generated by vbind-gen. Do not edit.", ""]
      ++ options.includes.map (fun file => "#include \"" ++ file ++ "\"")) := by
    refine .plain (fun line hline => ?_) 0
    simp only [List.mem_append, List.mem_map, List.mem_cons, List.not_mem_nil, or_false] at hline
    rcases hline with (rfl | rfl) | ⟨file, hfile, rfl⟩
    · decide
    · decide
    · simp only [isPlainText_append]
      exact ⟨⟨by decide, h.includes file hfile⟩, by decide⟩
  have hopening : IsBlock 0 1 ["#include <cstddef>", "#include <cstdint>", "",
      "extern \"C\" \x7b"] := ⟨fun _ => rfl, by decide⟩
  exact hincludes.append hopening

theorem isPlainText_rootSignature : IsPlainText (rootSignature options) := by
  have hinterface : IsPlainText (options.rootInterface.getD "void") := by
    cases hroot : options.rootInterface with
    | none => decide
    | some interface => exact h.rootInterface interface hroot
  simp only [rootSignature, isPlainText_append]
  exact ⟨⟨⟨hinterface, by decide⟩, h.marker⟩, by decide⟩

/-- The function that returns the root object, without the line that opens it. -/
theorem isBlock_rootBody : IsBlock 1 0
    ["    return " ++ options.rootAccessor.getD "" ++ "();", "\x7d"] := by
  have haccessor : IsPlainText (options.rootAccessor.getD "") := by
    cases hroot : options.rootAccessor with
    | none => decide
    | some accessor => exact h.rootAccessor accessor hroot
  have hreturn : ∀ line ∈ ["    return " ++ options.rootAccessor.getD "" ++ "();"],
      IsPlainText line := by
    intro line hline
    rw [List.mem_singleton.mp hline]
    simp only [isPlainText_append]
    exact ⟨⟨by decide, haccessor⟩, by decide⟩
  exact (IsBlock.plain hreturn 1).append (.closed 0)

theorem isBlock_rootBlock : IsBlock 0 0 (rootBlock options) := by
  rw [rootBlock]
  split
  · have hempty : IsBlock 0 0 [""] := ⟨fun _ => rfl, by decide⟩
    have hlines := hempty.append
      ((IsBlock.opened (isPlainText_rootSignature h) 0).append (isBlock_rootBody h))
    exact hlines
  · exact ⟨fun _ => rfl, nofun⟩

theorem isBlock_lookupBlock {callbacks : List Callback}
    (hcallbacks : ∀ callback ∈ callbacks, callback.HasIdentifiers)
    {part : String × (Callback → List String)} (hpart : part ∈ lookupParts) :
    IsBlock 0 0 (lookupBlock options callbacks part) := by
  have hsignature : IsPlainText (signature options part.1) := by
    simp only [signature, isPlainText_append]
    exact ⟨⟨by decide, h.marker⟩, isPlainText_of_mem_lookupParts hpart⟩
  have hempty : IsBlock 0 0 [""] := ⟨fun _ => rfl, by decide⟩
  have hswitch : IsBlock 1 2 ["    switch (id) \x7b"] := ⟨fun _ => rfl, by decide⟩
  have hcases : IsBlock 2 2 (callbacks.flatMap part.2) := .flatMap fun callback hcallback =>
    (isBlock_of_mem_lookupParts hpart (hcallbacks callback hcallback)).around 2
  have hclosing : IsBlock 2 0 ["    default: return 0;", "    \x7d", "\x7d"] :=
    ⟨fun _ => rfl, by decide⟩
  have hlines := hempty.append ((IsBlock.opened hsignature 0).append (hswitch.append
    (hcases.append hclosing)))
  simpa [lookupBlock, lookup] using hlines

theorem isBlock_lookups {callbacks : List Callback}
    (hcallbacks : ∀ callback ∈ callbacks, callback.HasIdentifiers) :
    IsBlock 0 0 (lookupParts.flatMap (lookupBlock options callbacks)) :=
  .flatMap fun _ hpart => isBlock_lookupBlock h hcallbacks hpart

theorem isBlock_lines {callbacks : List Callback}
    (hcallbacks : ∀ callback ∈ callbacks, callback.HasIdentifiers) :
    IsBlock 0 0 (lines options callbacks) := by
  rw [lines_eq]
  exact (isBlock_openingLines h).append (((isBlock_rootBlock h).around 1).append
    (((isBlock_lookups h hcallbacks).around 1).append (.closed 0)))

theorem remaining_render {callbacks : List Callback}
    (hcallbacks : ∀ callback ∈ callbacks, callback.HasIdentifiers) :
    remaining (render options callbacks) = remainingLines options callbacks ++ [""] := by
  have hlast : [""].filter (!isComment ·) = [""] := by decide
  rw [remaining, render, Text.lines_unlines (isBlock_lines h hcallbacks).newline_not_mem,
    List.filter_append, hlast, filter_lines]

end Options

/-! ## Cases of a lookup -/

/-- The lines between the signature of a lookup and its default case. There is no answer if no
line opens a function with this signature. -/
def lookupBody? (signature : String) (lines : List String) : Option (List String) :=
  match lines.dropWhile (· != signature ++ " \x7b") with
  | [] => none
  | _ :: rest => some (rest.takeWhile (· != "    default: return 0;"))

theorem lookupBody?_append {signature : String} {before body : List String}
    (hbefore : signature ++ " \x7b" ∉ before) (hbody : "    default: return 0;" ∉ body)
    (rest : List String) :
    lookupBody? signature (before ++ (signature ++ " \x7b") :: (body
      ++ "    default: return 0;" :: rest)) = some body := by
  have hskip : ∀ line ∈ before, (line != signature ++ " \x7b") = true := fun line hline =>
    bne_iff_ne.mpr fun heq => hbefore (heq ▸ hline)
  have htake : ∀ line ∈ body, (line != "    default: return 0;") = true := fun line hline =>
    bne_iff_ne.mpr fun heq => hbody (heq ▸ hline)
  rw [lookupBody?, List.dropWhile_append_of_pos hskip,
    List.dropWhile_cons_of_neg (by simp)]
  simp only
  rw [List.takeWhile_append_of_pos htake, List.takeWhile_cons_of_neg (by simp), List.append_nil]

theorem ne_signature {line : String} (h : begins "int32_t " line = false) (options : ShimTarget)
    (name : String) : line ≠ signature options name ++ " \x7b" := by
  rintro rfl
  rw [signature, String.append_assoc, String.append_assoc, begins_append] at h
  exact Bool.noConfusion h

/-- The lines of the lookups before a lookup differ from the line that opens it. -/
theorem exists_lookupParts_eq {part : String × (Callback → List String)} (h : part ∈ lookupParts) :
    ∃ before after, lookupParts = before ++ part :: after
      ∧ ∀ other ∈ before, other ∈ lookupParts ∧ other.1 ≠ part.1 := by
  have hnames : (lookupParts.map (·.1)).Nodup := by decide
  obtain ⟨before, after, hparts⟩ := List.append_of_mem h
  refine ⟨before, after, hparts, fun other hother => ⟨?_, ?_⟩⟩
  · rw [hparts]
    exact List.mem_append_left _ hother
  · rw [hparts, List.map_append, List.map_cons, List.nodup_append] at hnames
    exact hnames.2.2 _ (List.mem_map_of_mem hother) _ List.mem_cons_self

theorem IsCase.begins_of_mem {callback : Callback} {lines : List String}
    (h : IsCase callback lines) {line : String} (hline : line ∈ lines) :
    begins "    " line = true := by
  obtain ⟨answer, codes, rfl, -⟩ := h
  have hcase : ∀ code, begins "    " (caseLine callback code) = true := by
    intro code
    rw [caseLine, String.append_assoc]
    exact begins_append _ _
  rcases List.mem_cons.mp hline with rfl | hline
  · exact hcase _
  · obtain ⟨code, -, rfl⟩ := List.mem_map.mp hline
    exact hcase code

theorem IsCase.default_not_mem {callback : Callback} {lines : List String}
    (h : IsCase callback lines) (hshim : callback.inShim = true) :
    "    default: return 0;" ∉ lines := by
  obtain ⟨answer, codes, rfl, hcodes⟩ := h
  have hne : ∀ code, begins "default" code = false →
      "    default: return 0;" ≠ caseLine callback code := by
    intro code hcode heq
    have hbegins : begins ("    " ++ "default") (caseLine callback code) = true := by
      rw [← heq]
      decide
    rw [caseLine_of_inShim hshim, begins_append_append, hcode] at hbegins
    exact Bool.noConfusion hbegins
  rw [List.mem_cons, List.mem_map, not_or]
  constructor
  · refine hne _ ?_
    rw [label, String.append_assoc, String.append_assoc]
    exact begins_append_of_differ (by decide) _
  · rintro ⟨code, hcode, heq⟩
    exact hne code (begins_eq_false_of_isInner (hcodes code hcode) (by decide) (by decide)) heq.symm

theorem signature_inj {options : ShimTarget} {a b : String}
    (h : signature options a ++ " \x7b" = signature options b ++ " \x7b") : a = b := by
  rw [← String.toList_inj] at h ⊢
  simpa [signature] using h

theorem rootSignature_ne (options : ShimTarget) {part : String × (Callback → List String)}
    (hpart : part ∈ lookupParts) :
    rootSignature options ++ " \x7b" ≠ signature options part.1 ++ " \x7b" := by
  intro h
  have hend : "d)".toList <:+ part.1.toList :=
    (by decide : ∀ part ∈ lookupParts, "d)".toList <:+ part.1.toList) part hpart
  obtain ⟨stem, hstem⟩ := hend
  rw [← String.toList_inj] at h
  simp only [rootSignature, signature, String.toList_append, ← hstem] at h
  have hroot : "_root_client()".toList = "_root_client".toList ++ "()".toList := by decide
  rw [List.append_cancel_right_eq, hroot, ← List.append_assoc, ← List.append_assoc] at h
  exact absurd (List.append_inj_right' h rfl) (by decide)

theorem signature_not_mem_lookupBlock {options : ShimTarget} (callbacks : List Callback)
    {other : String × (Callback → List String)} (hother : other ∈ lookupParts) {name : String}
    (hne : other.1 ≠ name) :
    signature options name ++ " \x7b" ∉ lookupBlock options callbacks other := by
  intro hmem
  simp only [lookupBlock, lookup, List.cons_append, List.nil_append, List.mem_cons,
    List.mem_append, List.mem_flatMap, List.not_mem_nil, or_false] at hmem
  rcases hmem with h | h | h | ⟨callback, -, h⟩ | h | h | h
  · exact ne_signature (by decide) options name h.symm
  · exact hne (signature_inj h.symm)
  · exact ne_signature (by decide) options name h.symm
  · have hbegins := (isCase_of_mem_lookupParts hother callback).begins_of_mem h
    exact ne_signature (begins_eq_false_of_begins hbegins (by decide)) options name rfl
  all_goals exact ne_signature (by decide) options name h.symm

theorem signature_not_mem_openingLines (options : ShimTarget) (name : String) :
    signature options name ++ " \x7b" ∉ openingLines options := by
  intro hmem
  simp only [openingLines, List.mem_append, List.mem_map, List.mem_cons, List.not_mem_nil,
    or_false] at hmem
  rcases hmem with ((h | h) | ⟨file, -, h⟩) | h | h | h | h
  · exact ne_signature (by decide) options name h.symm
  · exact ne_signature (by decide) options name h.symm
  · refine ne_signature ?_ options name h
    rw [String.append_assoc]
    exact begins_append_of_differ (by decide) _
  all_goals exact ne_signature (by decide) options name h.symm

theorem signature_not_mem_rootBlock (options : ShimTarget)
    {part : String × (Callback → List String)} (hpart : part ∈ lookupParts) :
    signature options part.1 ++ " \x7b" ∉ rootBlock options := by
  intro hmem
  rw [rootBlock] at hmem
  split at hmem
  · simp only [List.mem_cons, List.not_mem_nil, or_false] at hmem
    rcases hmem with h | h | h | h
    · exact ne_signature (by decide) options _ h.symm
    · exact rootSignature_ne options hpart h.symm
    · refine ne_signature ?_ options _ h.symm
      rw [String.append_assoc]
      exact begins_append_of_differ (by decide) _
    · exact ne_signature (by decide) options _ h.symm
  · exact List.not_mem_nil hmem

/-- The cases of a lookup without comments are those of the callbacks that the shim may
mention. -/
theorem lookupBody?_remainingLines (options : ShimTarget) (callbacks : List Callback)
    {part : String × (Callback → List String)} (hpart : part ∈ lookupParts) (rest : List String) :
    lookupBody? (signature options part.1) (remainingLines options callbacks ++ rest)
      = some ("    switch (id) \x7b" :: (callbacks.filter (·.inShim)).flatMap part.2) := by
  obtain ⟨before, after, hparts, hbefore⟩ := exists_lookupParts_eq hpart
  -- the line that opens the lookup is the first of its kind, and its default case ends it
  have hnew : signature options part.1 ++ " \x7b" ∉ openingLines options
      ++ ((rootBlock options).filter (!isComment ·)
      ++ (before.flatMap (lookupBlock options (callbacks.filter (·.inShim))) ++ [""])) := by
    simp only [List.mem_append, List.mem_flatMap, not_or, not_exists, not_and]
    refine ⟨signature_not_mem_openingLines options _, fun hmem => ?_, fun other hother => ?_, ?_⟩
    · exact signature_not_mem_rootBlock options hpart (List.mem_of_mem_filter hmem)
    · obtain ⟨hmem, hne⟩ := hbefore other hother
      exact signature_not_mem_lookupBlock _ hmem hne
    · exact fun hmem => ne_signature (by decide) options _ (List.mem_singleton.mp hmem).symm
  have hcases : "    default: return 0;"
      ∉ "    switch (id) \x7b" :: (callbacks.filter (·.inShim)).flatMap part.2 := by
    rw [List.mem_cons, List.mem_flatMap, not_or]
    refine ⟨by decide, ?_⟩
    rintro ⟨callback, hcallback, hmem⟩
    have hshim := (List.mem_filter.mp hcallback).2
    exact (isCase_of_mem_lookupParts hpart callback).default_not_mem hshim hmem
  have hlines := lookupBody?_append hnew hcases ("    \x7d" :: "\x7d"
    :: (after.flatMap (lookupBlock options (callbacks.filter (·.inShim))) ++ ["\x7d"] ++ rest))
  rw [← hlines, remainingLines, hparts]
  simp [lookupBlock, lookup]

theorem forall₂_filter_cases {cases : Callback → List String}
    (h : ∀ callback, IsCase callback (cases callback)) {callbacks : List Callback}
    (hshim : ∀ callback ∈ callbacks, callback.inShim = true) :
    List.Forall₂ (fun line callback => begins ("    " ++ label callback) line = true)
      ((callbacks.flatMap cases).filter (begins "    case ")) callbacks := by
  induction callbacks with
  | nil => exact .nil
  | cons callback callbacks ih =>
    obtain ⟨line, hline, hlabel⟩ := (h callback).filter_label (hshim callback List.mem_cons_self)
    rw [List.flatMap_cons, List.filter_append, hline]
    exact .cons hlabel (ih fun other hother => hshim other (List.mem_cons_of_mem _ hother))

/-! ## Braces of the remaining lines -/

/-- The line that opens the function for the root object is written as a case that is commented
out. -/
def opensAsComment (options : ShimTarget) : Bool :=
  hasAccessor options && isComment (rootSignature options ++ " \x7b")

theorem filter_rootBlock (options : ShimTarget) :
    (rootBlock options).filter (!isComment ·) = if opensAsComment options then
      ["", "    return " ++ options.rootAccessor.getD "" ++ "();", "\x7d"]
    else rootBlock options := by
  have hreturn : isComment ("    return " ++ options.rootAccessor.getD "" ++ "();") = false := by
    rw [isComment, String.append_assoc]
    exact begins_append_of_differ (by decide) _
  have hempty : isComment "" = false := by decide
  have hclosing : isComment "\x7d" = false := by decide
  rw [rootBlock, opensAsComment]
  cases haccessor : hasAccessor options with
  | false => rfl
  | true =>
    cases hsignature : isComment (rootSignature options ++ " \x7b") <;>
      simp [hempty, hclosing, hreturn, hsignature]

theorem isBalanced_remaining_iff {options : ShimTarget} (h : options.IsPlain)
    {callbacks : List Callback} (hcallbacks : ∀ callback ∈ callbacks, callback.HasIdentifiers) :
    IsBalanced (remaining (render options callbacks)) ↔ opensAsComment options = false := by
  have henabled : ∀ callback ∈ callbacks.filter (·.inShim), callback.HasIdentifiers :=
    fun callback hcallback => hcallbacks callback (List.mem_of_mem_filter hcallback)
  have hlookups := isBlock_lookups h henabled
  have hempty : IsBlock 0 0 [""] := ⟨fun _ => rfl, by decide⟩
  rw [remaining_render h hcallbacks, remainingLines, filter_rootBlock]
  cases hcomment : opensAsComment options with
  | false =>
    have hlines := (isBlock_openingLines h).append (((isBlock_rootBlock h).around 1).append
      ((hlookups.around 1).append (.closed 0)))
    exact iff_of_true (hlines.append hempty).isBalanced rfl
  | true =>
    -- the block for external functions is closed too early: its own brace has nothing to close
    have hlines := (isBlock_openingLines h).append
      (((hempty.around 1).append (isBlock_rootBody h)).append hlookups)
    refine iff_of_false (fun hbalanced => hlines.not_isBalanced [""] ?_) Bool.noConfusion
    simpa using hbalanced

/-! ## The lookups for the callbacks that the shim may mention -/

def lookupNames : List String :=
  lookupParts.map (·.1)

/-- Removing the comments of a shim removes the denied callbacks: what remains is what remains
of a shim without them, and each of its lookups has one case for each of the others, in their
order. The braces that remain are balanced unless the function for the root object loses the
line that opens it. -/
theorem remaining_denied {options : ShimTarget} (h : options.IsPlain) {callbacks : List Callback}
    (hcallbacks : ∀ callback ∈ callbacks, callback.HasIdentifiers) :
    remaining (render options callbacks)
        = remaining (render options (callbacks.filter (·.inShim)))
      ∧ (∀ name ∈ lookupNames, ∃ body,
        lookupBody? (signature options name) (remaining (render options callbacks)) = some body
        ∧ List.Forall₂ (fun line callback => begins ("    " ++ label callback) line = true)
          (body.filter (begins "    case ")) (callbacks.filter (·.inShim)))
      ∧ (IsBalanced (remaining (render options callbacks)) ↔ opensAsComment options = false) := by
  refine ⟨?_, ?_, isBalanced_remaining_iff h hcallbacks⟩
  · have henabled : ∀ callback ∈ callbacks.filter (·.inShim), callback.HasIdentifiers :=
      fun callback hcallback => hcallbacks callback (List.mem_of_mem_filter hcallback)
    rw [remaining_render h hcallbacks, remaining_render h henabled, remainingLines,
      remainingLines, List.filter_filter]
    simp
  · intro name hname
    obtain ⟨part, hpart, rfl⟩ := List.mem_map.mp hname
    have hbody : lookupBody? (signature options part.1) (remaining (render options callbacks))
        = some ("    switch (id) \x7b" :: (callbacks.filter (·.inShim)).flatMap part.2) := by
      rw [remaining_render h hcallbacks]
      exact lookupBody?_remainingLines options callbacks hpart [""]
    refine ⟨_, hbody, ?_⟩
    rw [List.filter_cons_of_neg (by decide)]
    exact forall₂_filter_cases (isCase_of_mem_lookupParts hpart)
      fun callback hcallback => (List.mem_filter.mp hcallback).2

/-- The payload of one callback has two fields, the other callback is denied. -/
theorem remaining_denied_single :
    let options : ShimTarget := ⟨["sdk.h"], "vbind", some "Client", some "Root"⟩
    let allowed : Callback := ⟨7, "Key_t", "Key", ["m_nCount", "m_bLast"], true⟩
    let denied : Callback := ⟨8, "Gone_t", "Gone", ["m_nCount"], false⟩
    options.IsPlain ∧ (∀ callback ∈ [denied, allowed], callback.HasIdentifiers)
      ∧ remaining (render options [denied, allowed]) = remaining (render options [allowed])
      ∧ IsBalanced (remaining (render options [denied, allowed])) := by
  intro options allowed denied
  have hoptions : options.IsPlain := ⟨by decide, by decide, by decide, by decide⟩
  have hcallbacks : ∀ callback ∈ [denied, allowed], callback.HasIdentifiers := by
    intro callback hcallback
    rcases List.mem_pair.mp hcallback with rfl | rfl
    · exact ⟨by decide, by decide⟩
    · exact ⟨by decide, by decide⟩
  obtain ⟨hremaining, -, hbalanced⟩ := remaining_denied hoptions hcallbacks
  exact ⟨hoptions, hcallbacks, hremaining, hbalanced.mpr (by decide)⟩

/-- A type that is written as a comment takes the line that opens the function for the root
object with it. -/
theorem remaining_unbalanced :
    ¬ ∀ (options : ShimTarget) (callbacks : List Callback), options.IsPlain →
      (∀ callback ∈ callbacks, callback.HasIdentifiers) →
      IsBalanced (remaining (render options callbacks)) := by
  intro h
  let options : ShimTarget := ⟨[], "vbind", some "Client", some "    // Root"⟩
  have hoptions : options.IsPlain := ⟨by decide, by decide, by decide, by decide⟩
  have hnone : ∀ callback ∈ ([] : List Callback), callback.HasIdentifiers := nofun
  have hopens := (isBalanced_remaining_iff hoptions hnone).mp (h options [] hoptions hnone)
  exact absurd hopens (by decide)

end Shim

end AbiBridge
