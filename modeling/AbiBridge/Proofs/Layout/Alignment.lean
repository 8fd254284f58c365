import AbiBridge.Config.Validate
import AbiBridge.Generate.Output
import AbiBridge.Pattern.Read
import AbiBridge.Proofs.Module.Evaluation

/-!
# Reconciled alignments

What the alignment of a struct or a field is worth on each of the two platforms, compared
with what their reports state.
-/

namespace AbiBridge

/-- The alignment on a platform whose report states `own`, where the other report states
`other`: the report's own, unless the other is larger and the packing of its platform. -/
def alignOn (own other pack otherPack : Nat) : Nat :=
  if own < other ∧ other = otherPack then pack else own

namespace PlatformNumber

@[simp] theorem split_alignment (a b packA packB : Nat) :
    (alignment a b packA packB).split packA packB
      = (alignOn a b packA packB, alignOn b a packB packA) := by
  rw [alignment]
  split
  · next heq =>
    rw [heq, alignOn, if_neg (by omega), alignOn, if_neg (by omega)]
    rfl
  · split
    · next hne hpack =>
      rcases hpack with ⟨hlt, hpackA⟩ | ⟨hlt, hpackB⟩
      · rw [alignOn, if_neg (by omega), alignOn, if_pos ⟨hlt, hpackA⟩, ← hpackA]
        rfl
      · rw [alignOn, if_pos ⟨hlt, hpackB⟩, alignOn, if_neg (by omega), ← hpackB]
        rfl
    · next hne hpack =>
      rw [not_or] at hpack
      rw [alignOn, if_neg hpack.2, alignOn, if_neg hpack.1]
      rfl

/-- Every use of the value in a module gives the same numbers on the two platforms. -/
structure MeansIn (value : PlatformNumber) (bindings : Bindings) (target : ModuleTarget)
    (onA onB : Nat) : Prop where
  split_eq : value.split target.packA target.packB = (onA, onB)
  expression_eq : ∀ side, expressionValue? target.condition side (bindings.preludeSection target)
    (target.valueText value) = some (side.pick (onA, onB))
  attributes_eq : ∀ side, (target.packing value).findSome? (attributeAlign? target.condition side)
    = some (side.pick (onA, onB))

theorem meansIn_alignment (bindings : Bindings) (target : ModuleTarget) (a b : Nat) :
    (alignment a b target.packA target.packB).MeansIn bindings target
      (alignOn a b target.packA target.packB) (alignOn b a target.packB target.packA) where
  split_eq := split_alignment a b target.packA target.packB
  expression_eq side := by
    rw [expressionValue?_valueText, split_alignment]
  attributes_eq side := by
    rw [findSome?_packing, split_alignment]

end PlatformNumber

namespace PlatformPair

variable {pair : PlatformPair} {decl : StructDecl}

theorem exists_reports_of_structLayout {layout : StructLayout}
    (h : pair.structLayout decl = .ok layout) :
    ∃ onA onB, pair.reportA.get? decl.name = some onA ∧ pair.reportB.get? decl.name = some onB
      ∧ layout = pair.layoutOf decl onA onB := by
  rw [structLayout] at h
  split at h
  · cases h
  · cases h
  · next onA onB hA hB =>
    cases h
    exact ⟨onA, onB, hA, hB, rfl⟩

/-- The layout of a field depends on its name alone. -/
theorem field?_layoutOf {field : FieldDecl} (hfield : field ∈ decl.fields)
    (onA onB : ReportedStruct) :
    (pair.layoutOf decl onA onB).field? field.name
      = some (pair.fieldLayout field.name (onA.field? field.name) (onB.field? field.name)) := by
  have hname : ∀ name onA onB, (pair.fieldLayout name onA onB).name = name := by
    intro name onA onB
    cases onA <;> cases onB <;> rfl
  rw [StructLayout.field?, layoutOf]
  generalize decl.fields = fields at hfield ⊢
  induction fields with
  | nil => cases hfield
  | cons head fields ih =>
    rw [List.map_cons, List.find?_cons, hname]
    by_cases heq : head.name = field.name
    · simp [heq]
    · rw [beq_eq_false_iff_ne.mpr heq]
      rcases List.mem_cons.mp hfield with rfl | hfield
      · exact absurd rfl heq
      · exact ih hfield

end PlatformPair

/-- On each platform the alignments of a struct and of its fields are those that its report
states, save that an alignment below that of the other platform, where this is the packing of
that platform, becomes the packing of its own. -/
theorem structLayout_alignments {config : Config} {reportA reportB : PlatformReport}
    {decl : StructDecl} {layout : StructLayout}
    (h : (config.platforms reportA reportB).structLayout decl = .ok layout)
    (bindings : Bindings) :
    ∃ onA onB, reportA.get? decl.name = some onA ∧ reportB.get? decl.name = some onB
      ∧ layout.align.MeansIn bindings config.target
        (alignOn onA.align onB.align config.platformA.packSize config.platformB.packSize)
        (alignOn onB.align onA.align config.platformB.packSize config.platformA.packSize)
      ∧ ∀ field ∈ decl.fields, ∀ factA factB, onA.field? field.name = some factA →
        onB.field? field.name = some factB →
          ∃ value, (layout.field? field.name).bind (·.align) = some value
            ∧ value.MeansIn bindings config.target
              (alignOn factA.align factB.align config.platformA.packSize
                config.platformB.packSize)
              (alignOn factB.align factA.align config.platformB.packSize
                config.platformA.packSize) := by
  obtain ⟨onA, onB, hA, hB, rfl⟩ := PlatformPair.exists_reports_of_structLayout h
  refine ⟨onA, onB, hA, hB, PlatformNumber.meansIn_alignment bindings config.target _ _, ?_⟩
  intro field hfield factA factB hfactA hfactB
  rw [PlatformPair.field?_layoutOf hfield, hfactA, hfactB]
  exact ⟨_, rfl, PlatformNumber.meansIn_alignment bindings config.target _ _⟩

def packedDecl : StructDecl where
  name := "Foo_t"
  fields := [⟨"m_id", "int"⟩, ⟨"m_time", "uint64_t"⟩]

def packedFactA : ReportedStruct :=
  ⟨16, 8, [⟨"m_id", 4, 4, some 0⟩, ⟨"m_time", 8, 8, some 8⟩]⟩

def packedFactB : ReportedStruct :=
  ⟨12, 4, [⟨"m_id", 4, 4, some 0⟩, ⟨"m_time", 8, 4, some 4⟩]⟩

def packedReportA : PlatformReport := .ofList [("Foo_t", packedFactA)]

def packedReportB : PlatformReport := .ofList [("Foo_t", packedFactB)]

def emptyBindings : Bindings :=
  ⟨[], [], [], [], [], [], [], [], []⟩

theorem structLayout_alignments_packed :
    ∃ layout, (Config.platforms {} packedReportA packedReportB).structLayout packedDecl = .ok layout
      ∧ layout.align.MeansIn emptyBindings (Config.target {}) 8 4
      ∧ ∃ value, (layout.field? "m_time").bind (·.align) = some value
        ∧ value.MeansIn emptyBindings (Config.target {}) 8 4 := by
  have h : (Config.platforms {} packedReportA packedReportB).structLayout packedDecl = .ok _ := rfl
  obtain ⟨onA, onB, hA, hB, hstruct, hfields⟩ := structLayout_alignments h emptyBindings
  obtain rfl : onA = packedFactA := Option.some.inj (hA.symm.trans rfl)
  obtain rfl : onB = packedFactB := Option.some.inj (hB.symm.trans rfl)
  exact ⟨_, h, hstruct, hfields ⟨"m_time", "uint64_t"⟩ (by decide) _ _ rfl rfl⟩

/-- A valid configuration whose platforms pack to 8 and to 4. -/
def unevenConfig : Config where
  retypings := []

/-- An alignment below both the packing of its platform and the other alignment is not kept. -/
theorem structLayout_align_raised :
    ∃ layout, unevenConfig.fault? Pattern.language = none
      ∧ (unevenConfig.platforms (.ofList [("Uneven_t", ⟨8, 8, []⟩)])
          (.ofList [("Uneven_t", ⟨8, 2, []⟩)])).structLayout { name := "Uneven_t" } = .ok layout
      ∧ layout.align.split unevenConfig.target.packA unevenConfig.target.packB = (8, 4)
      ∧ layout.align.split unevenConfig.target.packA unevenConfig.target.packB ≠ (8, 2) := by
  refine ⟨_, ?_, rfl, ?_, ?_⟩
  · decide
  · decide
  · decide

end AbiBridge
