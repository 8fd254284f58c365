import AbiBridge.Proofs.CType.Resolved
import AbiBridge.Proofs.Descriptor.Index
import Mathlib.Data.Fintype.Card

/-!
# Walks along typedefs

A typedef links its name to the type that its target is read as. No type has more than one link, so
only one walk starts at a type, and as the targets are finitely many it comes to an end or runs in
a circle. The type behind typedefs is the end of the walk, if that is no name and is not too far
away. The looks that bound the way there get fewer with each link, so that a circle is left as well.
-/

namespace AbiBridge.Index

variable {index : Index} {resolver : Resolver} {links more : Nat} {start type other : CType}
  {name : String}

/-- As many typedefs as there are links lead from the first type to the second. -/
inductive Walk (index : Index) (resolver : Resolver) : Nat → CType → CType → Prop
  | here {type : CType} : Walk index resolver 0 type type
  | link {links : Nat} {name raw : String} {next type : CType} :
      index.target? name = some raw → resolver.resolve raw .value = .ok next →
      Walk index resolver links next type → Walk index resolver (links + 1) (.named name) type

/-- No link leads on from the type. -/
inductive IsEnd (index : Index) (resolver : Resolver) : CType → Prop
  | type {type : CType} : (∀ name, type ≠ .named name) → IsEnd index resolver type
  | noTarget {name : String} : index.target? name = none → IsEnd index resolver (.named name)
  | unsupported {name raw : String} {issue : UnsupportedType} : index.target? name = some raw →
      resolver.resolve raw .value = .error issue → IsEnd index resolver (.named name)

/-- The walk comes back to a name. -/
def Circles (index : Index) (resolver : Resolver) (start : CType) : Prop :=
  ∃ links name period, Walk index resolver links start (.named name)
    ∧ Walk index resolver (period + 1) (.named name) (.named name)

/-- The walk reaches nothing but names within 15 links. -/
inductive LeadsNowhere (index : Index) (resolver : Resolver) (start : CType) : Prop
  | noTarget {links : Nat} {name : String} : Walk index resolver links start (.named name) →
      index.target? name = none → LeadsNowhere index resolver start
  | unsupported {links : Nat} {name raw : String} {issue : UnsupportedType} :
      Walk index resolver links start (.named name) → index.target? name = some raw →
      resolver.resolve raw .value = .error issue → LeadsNowhere index resolver start
  | tooLong {links : Nat} {type : CType} : Walk index resolver links start type →
      (∀ name, type ≠ .named name) → 15 < links → LeadsNowhere index resolver start
  | circle : Circles index resolver start → LeadsNowhere index resolver start

namespace Walk

theorem trans (h : Walk index resolver links start type)
    (h' : Walk index resolver more type other) :
    Walk index resolver (links + more) start other := by
  induction h with
  | here => rwa [Nat.zero_add]
  | link htarget hraw _ ih =>
    rw [Nat.add_right_comm]
    exact .link htarget hraw (ih h')

/-- Of two walks from one type the longer goes on where the shorter stops. -/
theorem rest (h : Walk index resolver links start type)
    (h' : Walk index resolver (links + more) start other) :
    Walk index resolver more type other := by
  induction h with
  | here => rwa [Nat.zero_add] at h'
  | link htarget hraw _ ih =>
    rw [Nat.add_right_comm] at h'
    cases h' with
    | link htarget' hraw' hrest =>
      cases htarget.symm.trans htarget'
      cases hraw.symm.trans hraw'
      exact ih hrest

/-- A circle can be gone round again. -/
theorem rounds {period : Nat} (h : Walk index resolver period type type) (count : Nat) :
    Walk index resolver (period * count) type type := by
  induction count with
  | zero => exact .here
  | succ count ih => exact ih.trans h

/-- Before its last link a walk is at names with targets. -/
theorem exists_name {total : Nat} (h : Walk index resolver total start type)
    (hlinks : links < total) :
    ∃ name ∈ index.targets.names, Walk index resolver links start (.named name) := by
  induction h generalizing links with
  | here => exact absurd hlinks (Nat.not_lt_zero links)
  | @link _ name _ _ _ htarget hraw _ ih =>
    cases links with
    | zero =>
      have hbound : (index.targets.get? name).isSome = true := Option.isSome_of_eq_some htarget
      rw [Dictionary.isSome_get?_iff, Dictionary.contains_iff_mem_names] at hbound
      exact ⟨name, hbound, .here⟩
    | succ links =>
      obtain ⟨other, hother, hwalk⟩ := ih (Nat.lt_of_succ_lt_succ hlinks)
      exact ⟨other, hother, .link htarget hraw hwalk⟩

end Walk

namespace IsEnd

theorem eq_of_walk (hend : IsEnd index resolver type) (h : Walk index resolver links type other) :
    links = 0 ∧ other = type := by
  cases h with
  | here => exact ⟨rfl, rfl⟩
  | link htarget hraw _ =>
    cases hend with
    | type htype => exact absurd rfl (htype _)
    | noTarget hnone => cases hnone.symm.trans htarget
    | unsupported htarget' herror =>
      cases htarget.symm.trans htarget'
      cases hraw.symm.trans herror

/-- No walk goes past an end. -/
theorem le_links (hend : IsEnd index resolver type) (h : Walk index resolver links start type)
    (h' : Walk index resolver more start other) : more ≤ links := by
  rcases Nat.le_total more links with hle | hle
  · exact hle
  · obtain ⟨past, rfl⟩ := Nat.exists_eq_add_of_le hle
    obtain ⟨rfl, -⟩ := hend.eq_of_walk (h.rest h')
    exact Nat.le_refl links

/-- A walk has one end. -/
theorem unique (hend : IsEnd index resolver type) (hend' : IsEnd index resolver other)
    (h : Walk index resolver links start type) (h' : Walk index resolver more start other) :
    links = more ∧ type = other := by
  obtain ⟨past, rfl⟩ := Nat.exists_eq_add_of_le (hend'.le_links h' h)
  obtain ⟨rfl, rfl⟩ := hend.eq_of_walk (h.rest h')
  exact ⟨rfl, rfl⟩

theorem not_circles (hend : IsEnd index resolver type) (h : Walk index resolver links start type) :
    ¬ Circles index resolver start := by
  rintro ⟨before, name, period, hbefore, hperiod⟩
  have hpast := hend.le_links h (hbefore.trans (hperiod.rounds (links + 1)))
  have hrounds : links + 1 ≤ (period + 1) * (links + 1) := Nat.le_mul_of_pos_left _ (by omega)
  omega

end IsEnd

theorem exists_walk_or_isEnd (count : Nat) (start : CType) :
    (∃ type, Walk index resolver count start type)
      ∨ ∃ links type, Walk index resolver links start type ∧ IsEnd index resolver type := by
  induction count generalizing start with
  | zero => exact .inl ⟨start, .here⟩
  | succ count ih =>
    cases start with
    | named name =>
      cases htarget : index.target? name with
      | none => exact .inr ⟨0, _, .here, .noTarget htarget⟩
      | some raw =>
        cases hraw : resolver.resolve raw .value with
        | error issue => exact .inr ⟨0, _, .here, .unsupported htarget hraw⟩
        | ok next =>
          rcases ih next with ⟨type, hwalk⟩ | ⟨links, type, hwalk, hend⟩
          · exact .inl ⟨type, .link htarget hraw hwalk⟩
          · exact .inr ⟨links + 1, type, .link htarget hraw hwalk, hend⟩
    | _ => exact .inr ⟨0, _, .here, .type (by simp)⟩

theorem circles_of_walks (h : Walk index resolver links start (.named name))
    (h' : Walk index resolver more start (.named name)) (hlt : links < more) :
    Circles index resolver start := by
  obtain ⟨period, rfl⟩ := Nat.exists_eq_add_of_lt hlt
  exact ⟨links, name, period, h, h.rest h'⟩

/-- A walk with more links than there are targets is at some name twice. -/
theorem Walk.circles (h : Walk index resolver links start type)
    (hlong : index.targets.names.length < links) : Circles index resolver start := by
  choose visited hmem hwalk using fun before : Fin links => h.exists_name before.isLt
  have hcard : index.targets.names.toFinset.card < (Finset.univ : Finset (Fin links)).card := by
    rw [Finset.card_univ, Fintype.card_fin]
    exact Nat.lt_of_le_of_lt (List.toFinset_card_le _) hlong
  obtain ⟨first, -, second, -, hne, heq⟩ := Finset.exists_ne_map_eq_of_card_lt_of_maps_to hcard
    fun before _ => List.mem_toFinset.mpr (hmem before)
  have hfirst := hwalk first
  rw [heq] at hfirst
  rcases Nat.lt_or_gt_of_ne (Fin.val_ne_of_ne hne) with hlt | hlt
  · exact circles_of_walks hfirst (hwalk second) hlt
  · exact circles_of_walks (hwalk second) hfirst hlt

/-- Every walk comes to an end or runs in a circle. -/
theorem exists_isEnd_or_circles (index : Index) (resolver : Resolver) (start : CType) :
    (∃ links type, Walk index resolver links start type ∧ IsEnd index resolver type)
      ∨ Circles index resolver start := by
  rcases exists_walk_or_isEnd (index.targets.names.length + 1) start with ⟨type, hwalk⟩ | hend
  · exact .inr (hwalk.circles (Nat.lt_succ_self _))
  · exact .inl hend

theorem underlyingWithin?_of_ne_named {looks : Nat} (h : ∀ name, type ≠ .named name) :
    index.underlyingWithin? resolver (looks + 1) type = some type := by
  cases type with
  | named name => exact absurd rfl (h name)
  | _ => rfl

/-- A look is needed for each link, and another for the type at the end. -/
theorem underlyingWithin?_eq_some_iff {looks : Nat} :
    index.underlyingWithin? resolver looks start = some type
      ↔ (∀ name, type ≠ .named name) ∧ ∃ links < looks, Walk index resolver links start type := by
  constructor
  · intro h
    induction looks generalizing start with
    | zero => cases h
    | succ looks ih =>
      cases start with
      | named name =>
        obtain ⟨next, hnext, hrest⟩ := Option.bind_eq_some_iff.mp h
        obtain ⟨raw, htarget, hraw⟩ := step?_eq_some_iff.mp hnext
        obtain ⟨htype, links, hlinks, hwalk⟩ := ih hrest
        exact ⟨htype, links + 1, Nat.succ_lt_succ hlinks, .link htarget hraw hwalk⟩
      | _ =>
        cases h
        exact ⟨by simp, 0, Nat.succ_pos looks, .here⟩
  · rintro ⟨htype, links, hlinks, hwalk⟩
    induction hwalk generalizing looks with
    | here =>
      cases looks with
      | zero => exact absurd hlinks (Nat.lt_irrefl 0)
      | succ looks => exact underlyingWithin?_of_ne_named htype
    | link htarget hraw _ ih =>
      cases looks with
      | zero => exact absurd hlinks (Nat.not_lt_zero _)
      | succ looks =>
        have hstep := step?_eq_some_iff.mpr ⟨_, htarget, hraw⟩
        rw [underlyingWithin?, hstep, Option.bind_some, ih htype (Nat.lt_of_succ_lt_succ hlinks)]

theorem underlying?_eq_some_iff :
    index.underlying? resolver start = some type
      ↔ (∀ name, type ≠ .named name) ∧ ∃ links ≤ 15, Walk index resolver links start type := by
  rw [underlying?, underlyingWithin?_eq_some_iff, maxTypedefDepth]
  refine and_congr_right fun _ => exists_congr fun links => and_congr_left fun _ => ?_
  exact Nat.lt_succ_iff

theorem underlying?_eq_none_iff :
    index.underlying? resolver start = none ↔ LeadsNowhere index resolver start := by
  constructor
  · intro hnone
    rcases exists_isEnd_or_circles index resolver start with ⟨links, type, hwalk, hend⟩ | hcircle
    · cases hend with
      | noTarget htarget => exact .noTarget hwalk htarget
      | unsupported htarget hraw => exact .unsupported hwalk htarget hraw
      | type htype =>
        refine .tooLong hwalk htype ?_
        by_contra hle
        have hsome := underlying?_eq_some_iff.mpr ⟨htype, links, Nat.not_lt.mp hle, hwalk⟩
        cases hnone.symm.trans hsome
    · exact .circle hcircle
  · intro hnowhere
    rw [Option.eq_none_iff_forall_ne_some]
    intro type hsome
    obtain ⟨htype, links, hle, hwalk⟩ := underlying?_eq_some_iff.mp hsome
    have hend : IsEnd index resolver type := .type htype
    cases hnowhere with
    | noTarget hwalk' htarget => exact htype _ (hend.unique (.noTarget htarget) hwalk hwalk').2
    | unsupported hwalk' htarget hraw =>
      exact htype _ (hend.unique (.unsupported htarget hraw) hwalk hwalk').2
    | tooLong hwalk' htype' hlong =>
      obtain ⟨rfl, -⟩ := hend.unique (.type htype') hwalk hwalk'
      omega
    | circle hcircle => exact hend.not_circles hwalk hcircle

theorem integerType?_eq_some_iff {p : Primitive} :
    index.integerType? resolver start = some p
      ↔ index.underlying? resolver start = some (.primitive p) ∧ p.isInteger = true := by
  rw [integerType?, Option.filter_eq_some_iff, Option.bind_eq_some_iff]
  simp only [CType.primitive?_eq_some_iff, exists_eq_right]

/-- The type behind typedefs is the end of the walk along them, if that is no name and at most 15
links away. There is none exactly if the walk ends at a name, is too long or runs in a circle. The
integer type is that type if it is an integer. -/
theorem underlying?_walk (index : Index) (resolver : Resolver) (start : CType) :
    (∀ type, index.underlying? resolver start = some type
        ↔ (∀ name, type ≠ .named name) ∧ ∃ links ≤ 15, Walk index resolver links start type)
      ∧ (index.underlying? resolver start = none ↔ LeadsNowhere index resolver start)
      ∧ ∀ p, index.integerType? resolver start = some p
          ↔ index.underlying? resolver start = some (.primitive p) ∧ p.isInteger = true :=
  ⟨fun _ => underlying?_eq_some_iff, underlying?_eq_none_iff, fun _ => integerType?_eq_some_iff⟩

def circularIndex : Index :=
  .ofApi { typedefs := [⟨"Left_t", "Right_t"⟩, ⟨"Right_t", "Left_t"⟩] } .empty []

/-- A resolver that replaces the second spelling and so opens the circle. -/
def openingResolver : Resolver :=
  .ofOverrides (Dictionary.empty.insert "Left_t" "int")

theorem circles_circularIndex : Circles circularIndex .plain (.named "Left_t") := by
  have hright : Resolver.plain.resolve "Right_t" .value = .ok (.named "Right_t") :=
    CType.resolve_of_other rfl rfl
  have hleft : Resolver.plain.resolve "Left_t" .value = .ok (.named "Left_t") :=
    CType.resolve_of_other rfl rfl
  exact ⟨0, "Left_t", 1, .here, .link (by decide) hright (.link (by decide) hleft .here)⟩

theorem walk_circularIndex :
    Walk circularIndex openingResolver 2 (.named "Left_t") (.primitive .i32) := by
  have hright : openingResolver.resolve "Right_t" .value = .ok (.named "Right_t") :=
    CType.resolve_of_other rfl rfl
  have hleft : openingResolver.resolve "Left_t" .value = .ok (.primitive .i32) :=
    CType.resolve_of_other rfl rfl
  exact .link (by decide) hright (.link (by decide) hleft .here)

/-- Typedefs of each other lead nowhere, unless what one of them stands for is replaced. -/
theorem underlying?_walk_circular :
    circularIndex.underlying? .plain (.named "Left_t") = none
      ∧ circularIndex.integerType? openingResolver (.named "Left_t") = some .i32 := by
  obtain ⟨-, hnone, -⟩ := underlying?_walk circularIndex .plain (.named "Left_t")
  obtain ⟨hsome, -, hinteger⟩ := underlying?_walk circularIndex openingResolver (.named "Left_t")
  refine ⟨hnone.mpr (.circle circles_circularIndex), (hinteger .i32).mpr ⟨?_, rfl⟩⟩
  exact (hsome (.primitive .i32)).mpr ⟨by simp, 2, by decide, walk_circularIndex⟩

end AbiBridge.Index
