import AbiBridge.Layout.Struct
import AbiBridge.Proofs.Dictionary

/-!
# The table of layouts

Under a name the table has what the reports say about the first struct of that name. A
struct that lacks a report cannot be made; a field that lacks one can.
-/

namespace AbiBridge

variable {pair : PlatformPair} {decls : List StructDecl}

@[simp] theorem Layouts.get?_add (table : Layouts) (decl : StructDecl) (name : String) :
    (Layouts.add pair table decl).get? name
      = (table.get? name).or (if name = decl.name then some (pair.structLayout decl) else none) := by
  rw [Layouts.add]
  split
  · next htaken =>
    by_cases hname : name = decl.name
    · have hfound := Dictionary.isSome_get?_iff.mpr htaken
      rw [hname, Option.or_of_isSome hfound]
    · rw [if_neg hname, Option.or_none]
  · next hfree =>
    rw [Dictionary.get?_insert]
    by_cases hname : name = decl.name
    · have hnone : table.get? name = none := by
        rw [hname, ← Option.not_isSome_iff_eq_none, Dictionary.isSome_get?_iff]
        exact hfree
      rw [if_pos hname, if_pos hname, hnone, Option.none_or]
    · rw [if_neg hname, if_neg hname, Option.or_none]

theorem Layouts.get?_foldl_add (table : Layouts) (name : String) :
    (decls.foldl (Layouts.add pair) table).get? name
      = (table.get? name).or ((decls.find? (·.name == name)).map pair.structLayout) := by
  induction decls generalizing table with
  | nil => rw [List.foldl_nil, List.find?_nil, Option.map_none, Option.or_none]
  | cons decl decls ih =>
    rw [List.foldl_cons, ih, Layouts.get?_add, Option.or_assoc, List.find?_cons]
    by_cases hname : name = decl.name
    · simp [hname]
    · have hother : (decl.name == name) = false := beq_eq_false_iff_ne.mpr (Ne.symm hname)
      simp [hname, hother]

@[simp] theorem Layouts.get?_ofStructs (name : String) :
    (Layouts.ofStructs pair decls).get? name
      = (decls.find? (·.name == name)).map pair.structLayout :=
  Layouts.get?_foldl_add .empty name

theorem PlatformPair.isFatal_of_structLayout {decl : StructDecl} {issue : Issue}
    (h : pair.structLayout decl = .error issue) : issue.isFatal = true := by
  rw [PlatformPair.structLayout] at h
  split at h <;> cases h <;> rfl

theorem PlatformPair.isFatal_diagnostics {decl : StructDecl} {layout : StructLayout}
    (h : pair.structLayout decl = .ok layout) :
    ∀ issue ∈ layout.diagnostics, issue.isFatal = false := by
  rw [PlatformPair.structLayout] at h
  split at h <;> cases h
  next onA onB _ _ =>
  intro issue hissue
  obtain ⟨field, -, hmissing⟩ := List.mem_flatMap.mp hissue
  rw [PlatformPair.missingFacts] at hmissing
  rcases List.mem_append.mp hmissing with hmissing | hmissing <;>
  · split at hmissing
    · rw [List.mem_singleton.mp hmissing]
      rfl
    · cases hmissing

end AbiBridge
