import AbiBridge.Descriptor.Index
import Mathlib.Data.List.Infix

/-!
# Names

Which names are identifiers, and which are their own flat form. A flat name is; so is a name
without `::`.
-/

namespace AbiBridge

def IsIdentifier (name : String) : Prop :=
  Text.isPlainIdentifier name.toList = true

instance (name : String) : Decidable (IsIdentifier name) :=
  inferInstanceAs (Decidable (_ = true))

theorem IsIdentifier.isAsciiWordChar {name : String} (h : IsIdentifier name) {c : Char}
    (hc : c ∈ name.toList) : Text.isAsciiWordChar c = true := by
  rw [IsIdentifier] at h
  cases hchars : name.toList with
  | nil =>
    rw [hchars] at hc
    cases hc
  | cons first rest =>
    rw [hchars] at h hc
    obtain ⟨hfirst, hrest⟩ := Bool.and_eq_true_iff.mp h
    rcases List.mem_cons.mp hc with rfl | hc
    · rw [Text.isIdentifierStart, Bool.or_eq_true] at hfirst
      rcases hfirst with hfirst | hfirst <;> simp [Text.isAsciiWordChar, Char.isAlphanum, hfirst]
    · exact List.all_eq_true.mp hrest c hc

theorem IsIdentifier.not_mem {name : String} (h : IsIdentifier name) {c : Char}
    (hc : Text.isAsciiWordChar c = false) : c ∉ name.toList := by
  intro hmem
  rw [h.isAsciiWordChar hmem] at hc
  cases hc

/-- A qualified name is no identifier. -/
theorem IsIdentifier.ne_qualifiedName {name : String} (h : IsIdentifier name)
    (owner member : String) : qualifiedName owner member ≠ name := by
  rintro rfl
  have hcolon : ':' ∈ "::".toList := by decide
  apply h.not_mem (c := ':') (by decide)
  rw [qualifiedName, String.toList_append, String.toList_append]
  exact List.mem_append_left _ (List.mem_append_right _ hcolon)

def Qualified (name : String) : Prop :=
  [':', ':'] <:+: name.toList

instance : DecidablePred Qualified := fun name =>
  inferInstanceAs (Decidable ([':', ':'] <:+: name.toList))

@[simp] theorem colons_prefix_cons {c : Char} {cs : List Char} :
    [':', ':'] <+: c :: cs ↔ c = ':' ∧ cs.head? = some ':' := by
  rw [List.cons_prefix_cons, eq_comm]
  cases cs <;> simp [eq_comm]

theorem flatten_cons {c : Char} {cs : List Char} (h : ¬ (c = ':' ∧ cs.head? = some ':')) :
    flatten (c :: cs) = c :: flatten cs := by
  rw [flatten.eq_def]
  split
  · next heq =>
    cases heq
    exact absurd ⟨rfl, rfl⟩ h
  · next heq =>
    cases heq
    rfl
  · next heq => cases heq

theorem head?_flatten {cs : List Char} (h : cs.head? ≠ some ':') :
    (flatten cs).head? ≠ some ':' := by
  cases cs with
  | nil => exact h
  | cons c cs =>
    rw [flatten_cons fun hcolons => h (congrArg some hcolons.1)]
    exact h

@[simp] theorem flatten_flatten (cs : List Char) : flatten (flatten cs) = flatten cs := by
  fun_induction flatten cs with
  | case1 cs ih => rw [flatten_cons fun hcolons => absurd hcolons.1 (by decide), ih]
  | case2 c cs hcolons ih =>
    rw [flatten_cons, ih]
    rintro ⟨rfl, hhead⟩
    refine head?_flatten ?_ hhead
    intro hcs
    obtain ⟨rest, rfl⟩ := List.head?_eq_some_iff.mp hcs
    exact hcolons rest rfl rfl
  | case3 => rfl

@[simp] theorem flatten_eq_self_iff {cs : List Char} : flatten cs = cs ↔ ¬ [':', ':'] <:+: cs := by
  fun_induction flatten cs with
  | case1 cs ih => simp [List.infix_cons_iff]
  | case2 c cs hcolons ih =>
    have hprefix : ¬ [':', ':'] <+: c :: cs := by
      rw [colons_prefix_cons]
      rintro ⟨rfl, hcs⟩
      obtain ⟨rest, rfl⟩ := List.head?_eq_some_iff.mp hcs
      exact hcolons rest rfl rfl
    simp [List.infix_cons_iff, hprefix, ih]
  | case3 => simp

/-- The name of a nested enum is flattened at the `::` that follows its owner, if there is no
other before or after it. -/
theorem flatten_append_eq_iff {owner name : List Char} :
    flatten (owner ++ ':' :: ':' :: name) = owner ++ '_' :: name
      ↔ ¬ [':', ':'] <:+: owner ++ [':'] ∧ ¬ [':', ':'] <:+: name := by
  induction owner with
  | nil => simp [flatten, List.infix_cons_iff]
  | cons c owner ih =>
    have hhead : (owner ++ ':' :: ':' :: name).head? = (owner ++ [':']).head? := by
      cases owner <;> rfl
    rw [List.cons_append, List.cons_append, List.cons_append, List.infix_cons_iff,
      colons_prefix_cons, ← hhead]
    by_cases hcolons : c = ':' ∧ (owner ++ ':' :: ':' :: name).head? = some ':'
    · obtain ⟨rfl, hcs⟩ := hcolons
      obtain ⟨rest, hrest⟩ := List.head?_eq_some_iff.mp hcs
      simp [hrest, flatten]
    · rw [flatten_cons hcolons, List.cons_inj_right, ih, or_iff_right hcolons]

@[simp] theorem flatName_flatName (name : String) : flatName (flatName name) = flatName name := by
  simp [flatName]

@[simp] theorem flatName_eq_self_iff {name : String} : flatName name = name ↔ ¬ Qualified name := by
  rw [Qualified, ← flatten_eq_self_iff, flatName, ← String.toList_inj, String.toList_ofList]

theorem flatName_qualifiedName_eq_iff {owner name : String} :
    flatName (qualifiedName owner name) = owner ++ "_" ++ name
      ↔ ¬ Qualified (owner ++ ":") ∧ ¬ Qualified name := by
  have hcolon : (owner ++ ":").toList = owner.toList ++ [':'] := by simp
  rw [Qualified, Qualified, hcolon, ← flatten_append_eq_iff, flatName, qualifiedName,
    ← String.toList_inj, String.toList_ofList]
  simp

end AbiBridge
