import AbiBridge.Proofs.Dictionary
import AbiBridge.Proofs.Layout.Alignment
import Mathlib.Data.List.Forall2
import Mathlib.Data.List.ProdSigma

/-!
# What the reports say and what a layout says

A struct has a layout if both platforms report it. Then every field has an entry, and the
sizes, the offsets and the diagnostics are exactly those of the two reports.
-/

namespace AbiBridge

namespace PlatformNumber

variable {a b packA packB : Nat}

@[simp] theorem split_exact : (exact a b).split packA packB = (a, b) := by
  rw [exact]
  split
  · next hsame => rw [hsame]; rfl
  · rfl

theorem exact_ne_packSize : exact a b ≠ packSize := by
  rw [exact]
  split <;> nofun

@[simp] theorem atLeast_exact (least : Nat) :
    (exact a b).atLeast least = exact (max a least) (max b least) := by
  rw [exact]
  split
  · next hsame => rw [hsame, exact, if_pos rfl]; rfl
  · rfl

end PlatformNumber

@[simp] theorem ReportedStruct.isSome_field?_iff {fact : ReportedStruct} {name : String} :
    (fact.field? name).isSome = true ↔ ∃ field ∈ fact.fields, field.field = name := by
  rw [ReportedStruct.field?, List.find?_isSome]
  simp only [beq_iff_eq]

/-- The entry says about the field what the two reports do. -/
structure FieldLayout.IsReconciled (entry : FieldLayout) (field : FieldDecl)
    (onA onB : ReportedStruct) : Prop where
  name_eq : entry.name = field.name
  isSome_align_iff : entry.align.isSome = true
    ↔ (∃ fact ∈ onA.fields, fact.field = field.name) ∧ ∃ fact ∈ onB.fields, fact.field = field.name
  offset_iff : ∀ packA packB a b, entry.offset.map (·.split packA packB) = some (a, b)
    ↔ (onA.field? field.name).bind (·.offset) = some a
      ∧ (onB.field? field.name).bind (·.offset) = some b
  offset_ne : entry.offset ≠ some .packSize

/-- The layout says about the struct what the two reports do. -/
structure StructLayout.IsReconciled (layout : StructLayout) (pair : PlatformPair)
    (decl : StructDecl) (onA onB : ReportedStruct) : Prop where
  name_eq : layout.name = decl.name
  fields : List.Forall₂ (fun field entry => FieldLayout.IsReconciled entry field onA onB)
    decl.fields layout.fields
  /-- One for every field and platform without a fact, by fields and then by platforms. -/
  diagnostics_eq : layout.diagnostics
    = (decl.fields ×ˢ [(pair.a, onA), (pair.b, onB)]).filterMap fun (field, platform, on) =>
        if (on.field? field.name).isNone then
          some (.unreportedField decl.name field.name platform.name)
        else none
  split_size : ∀ packA packB, layout.size.split packA packB
    = if decl.fields = [] then (max onA.size 1, max onB.size 1) else (onA.size, onB.size)
  size_ne : layout.size ≠ .packSize
  filler_iff : layout.filler = true ↔ decl.fields = []

namespace PlatformPair

variable {pair : PlatformPair} {decl : StructDecl} {onA onB : ReportedStruct}

theorem isReconciled_fieldLayout (field : FieldDecl) :
    (pair.fieldLayout field.name (onA.field? field.name) (onB.field? field.name)).IsReconciled
      field onA onB := by
  cases hA : onA.field? field.name with
  | none =>
    constructor
    · rfl
    · rw [← ReportedStruct.isSome_field?_iff, hA]
      exact iff_of_false nofun fun h => nomatch h.1
    · rw [hA]
      exact fun _ _ _ _ => iff_of_false nofun fun h => nomatch h.1
    · nofun
  | some factA =>
    cases hB : onB.field? field.name with
    | none =>
      constructor
      · rfl
      · rw [← ReportedStruct.isSome_field?_iff, ← ReportedStruct.isSome_field?_iff, hB]
        exact iff_of_false nofun fun h => nomatch h.2
      · rw [hB]
        exact fun _ _ _ _ => iff_of_false nofun fun h => nomatch h.2
      · nofun
    | some factB =>
      constructor
      · rfl
      · rw [← ReportedStruct.isSome_field?_iff, ← ReportedStruct.isSome_field?_iff, hA, hB]
        exact iff_of_true rfl ⟨rfl, rfl⟩
      · intro packA packB a b
        rw [hA, hB, fieldLayout, Option.bind_some, Option.bind_some]
        cases factA.offset <;> cases factB.offset <;> simp
      · rw [fieldLayout]
        cases factA.offset <;> cases factB.offset <;> simp [PlatformNumber.exact_ne_packSize]

theorem diagnostics_layoutOf : (pair.layoutOf decl onA onB).diagnostics
    = (decl.fields ×ˢ [(pair.a, onA), (pair.b, onB)]).filterMap fun (field, platform, on) =>
        if (on.field? field.name).isNone then
          some (.unreportedField decl.name field.name platform.name)
        else none := by
  rw [layoutOf]
  dsimp only
  induction decl.fields with
  | nil => rfl
  | cons field fields ih =>
    rw [List.flatMap_cons, ih, List.product_cons, List.filterMap_append, missingFacts]
    congr 1
    cases hA : onA.field? field.name <;> cases hB : onB.field? field.name <;> simp [hA, hB]

theorem isReconciled_layoutOf : (pair.layoutOf decl onA onB).IsReconciled pair decl onA onB where
  name_eq := rfl
  fields := List.forall₂_map_right_iff.mpr
    (List.forall₂_same.mpr fun field _ => isReconciled_fieldLayout field)
  diagnostics_eq := diagnostics_layoutOf
  split_size packA packB := by
    rw [layoutOf]
    cases decl.fields with
    | nil => simp
    | cons field fields => simp
  size_ne := by
    rw [layoutOf]
    cases decl.fields with
    | nil => simp [PlatformNumber.exact_ne_packSize]
    | cons field fields => simp [PlatformNumber.exact_ne_packSize]
  filler_iff := List.isEmpty_iff

/-- A struct has no layout exactly if a report lacks it. -/
theorem structLayout_eq_error_iff {issue : Issue} : pair.structLayout decl = .error issue
    ↔ (decl.name ∉ pair.reportA.names ∧ issue = .unreportedStruct decl.name pair.a.name)
      ∨ (decl.name ∈ pair.reportA.names ∧ decl.name ∉ pair.reportB.names
        ∧ issue = .unreportedStruct decl.name pair.b.name) := by
  simp only [← Dictionary.contains_iff_mem_names, ← Dictionary.isSome_get?_iff]
  rw [structLayout]
  cases pair.reportA.get? decl.name with
  | none => simp [eq_comm (a := issue)]
  | some onA => cases pair.reportB.get? decl.name <;> simp [eq_comm (a := issue)]

end PlatformPair

/-- The layout of a struct is that of its two reports. -/
theorem structLayout_isReconciled (pair : PlatformPair) (decl : StructDecl) :
    (∀ issue, pair.structLayout decl = .error issue
      ↔ (decl.name ∉ pair.reportA.names ∧ issue = .unreportedStruct decl.name pair.a.name)
        ∨ (decl.name ∈ pair.reportA.names ∧ decl.name ∉ pair.reportB.names
          ∧ issue = .unreportedStruct decl.name pair.b.name))
      ∧ ∀ onA onB, pair.reportA.get? decl.name = some onA → pair.reportB.get? decl.name = some onB →
        ∃ layout, pair.structLayout decl = .ok layout ∧ layout.IsReconciled pair decl onA onB := by
  constructor
  · exact fun issue => PlatformPair.structLayout_eq_error_iff
  · intro onA onB hA hB
    refine ⟨pair.layoutOf decl onA onB, ?_, PlatformPair.isReconciled_layoutOf⟩
    rw [PlatformPair.structLayout, hA, hB]

/-- A struct whose second field is reported on the first platform only. -/
def gapDecl : StructDecl where
  name := "Gap_t"
  fields := [⟨"m_a", "int"⟩, ⟨"m_b", "int"⟩]

def gapPair : PlatformPair where
  a := ⟨"windows", some "windows", 8⟩
  b := ⟨"unix", none, 4⟩
  reportA := .ofList [("Gap_t", ⟨8, 4, [⟨"m_b", 4, 4, some 4⟩, ⟨"m_a", 4, 4, some 0⟩]⟩)]
  reportB := .ofList [("Gap_t", ⟨12, 4, [⟨"m_a", 4, 4, some 8⟩]⟩)]

theorem structLayout_isReconciled_gap :
    gapPair.reportA.get? "Gap_t" = some ⟨8, 4, [⟨"m_b", 4, 4, some 4⟩, ⟨"m_a", 4, 4, some 0⟩]⟩
      ∧ gapPair.reportB.get? "Gap_t" = some ⟨12, 4, [⟨"m_a", 4, 4, some 8⟩]⟩
      ∧ ∃ layout, gapPair.structLayout gapDecl = .ok layout
        ∧ layout.diagnostics = [.unreportedField "Gap_t" "m_b" "unix"]
        ∧ layout.size.split 8 4 = (8, 12) := by
  obtain ⟨layout, hlayout, hreconciled⟩ := (structLayout_isReconciled gapPair gapDecl).2 _ _ rfl rfl
  exact ⟨rfl, rfl, layout, hlayout, hreconciled.diagnostics_eq, hreconciled.split_size 8 4⟩

end AbiBridge
