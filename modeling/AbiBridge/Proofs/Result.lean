import Mathlib.Data.List.Forall2

/-!
# Results

When a step that builds on a result succeeds, and when the steps for a list of items all do.
-/

namespace AbiBridge

variable {ε α β : Type}

@[simp] theorem bind_eq_ok_iff {result : Except ε α} {next : α → Except ε β} {b : β} :
    (result >>= next) = .ok b ↔ ∃ a, result = .ok a ∧ next a = .ok b := by
  cases result with
  | error e => simp [bind, Except.bind]
  | ok a => simp [bind, Except.bind]

@[simp] theorem map_eq_ok_iff {result : Except ε α} {f : α → β} {b : β} :
    result.map f = .ok b ↔ ∃ a, result = .ok a ∧ f a = b := by
  cases result with
  | error e => simp [Except.map]
  | ok a => simp [Except.map]

theorem mapM_eq_ok_iff {f : α → Except ε β} {items : List α} {made : List β} :
    items.mapM f = .ok made ↔ List.Forall₂ (fun a b => f a = .ok b) items made := by
  induction items generalizing made with
  | nil =>
    rw [List.mapM_nil, List.forall₂_nil_left_iff]
    exact ⟨fun h => by cases h; rfl, fun h => h ▸ rfl⟩
  | cons a items ih =>
    rw [List.mapM_cons, bind_eq_ok_iff]
    constructor
    · rintro ⟨b, hb, h⟩
      obtain ⟨rest, hrest, h⟩ := bind_eq_ok_iff.mp h
      cases h
      exact .cons hb (ih.mp hrest)
    · rintro (_ | ⟨hb, hrest⟩)
      exact ⟨_, hb, bind_eq_ok_iff.mpr ⟨_, ih.mpr hrest, rfl⟩⟩

theorem exists_of_mem_mapM {f : α → Except ε β} {items : List α} {made : List β}
    (h : items.mapM f = .ok made) : ∀ b ∈ made, ∃ a ∈ items, f a = .ok b := by
  intro b hb
  have hall := mapM_eq_ok_iff.mp h
  obtain ⟨i, hi, rfl⟩ := List.mem_iff_getElem.mp hb
  have hitem : i < items.length := hall.length_eq ▸ hi
  exact ⟨items[i], List.getElem_mem hitem, hall.get hitem hi⟩

theorem mem_of_mapM {f : α → Except ε β} {items : List α} {made : List β}
    (h : items.mapM f = .ok made) : ∀ a ∈ items, ∃ b ∈ made, f a = .ok b := by
  intro a ha
  have hall := mapM_eq_ok_iff.mp h
  obtain ⟨i, hi, rfl⟩ := List.mem_iff_getElem.mp ha
  have hmade : i < made.length := hall.length_eq ▸ hi
  exact ⟨made[i], List.getElem_mem hmade, hall.get hi hmade⟩

theorem mapM_eq_ok_of {f g : α → Except ε β} {items : List α} {made : List β}
    (h : items.mapM f = .ok made)
    (hsame : ∀ a ∈ items, ∀ b ∈ made, f a = .ok b → g a = .ok b) : items.mapM g = .ok made := by
  rw [mapM_eq_ok_iff] at h ⊢
  induction h with
  | nil => exact .nil
  | cons hb _ ih =>
    refine .cons (hsame _ List.mem_cons_self _ List.mem_cons_self hb) (ih fun a ha b hmem => ?_)
    exact hsame a (List.mem_cons_of_mem _ ha) b (List.mem_cons_of_mem _ hmem)

theorem exists_mapM_eq_ok {f : α → Except ε β} {items : List α}
    (h : ∀ a ∈ items, ∃ b, f a = .ok b) : ∃ made, items.mapM f = .ok made := by
  induction items with
  | nil => exact ⟨[], rfl⟩
  | cons a items ih =>
    obtain ⟨b, hb⟩ := h a List.mem_cons_self
    obtain ⟨made, hmade⟩ := ih fun a' ha' => h a' (List.mem_cons_of_mem _ ha')
    refine ⟨b :: made, ?_⟩
    rw [List.mapM_cons, hb, hmade]
    rfl

theorem exists_error_of_mapM {f : α → Except ε β} {items : List α} {e : ε}
    (h : items.mapM f = .error e) : ∃ a ∈ items, f a = .error e := by
  induction items with
  | nil => cases h
  | cons a items ih =>
    rw [List.mapM_cons] at h
    cases ha : f a with
    | error e' =>
      rw [ha] at h
      cases h
      exact ⟨a, List.mem_cons_self, ha⟩
    | ok b =>
      cases hitems : items.mapM f with
      | error e' =>
        rw [ha, hitems] at h
        cases h
        obtain ⟨a', ha', heq⟩ := ih hitems
        exact ⟨a', List.mem_cons_of_mem _ ha', heq⟩
      | ok rest =>
        rw [ha, hitems] at h
        cases h

end AbiBridge
