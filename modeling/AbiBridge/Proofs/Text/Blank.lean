import AbiBridge.Text.Blank
import Mathlib.Data.List.DropRight

/-!
# Trimming

What is left of a text when the blanks around it are dropped.
-/

namespace AbiBridge.Text

/-- What is dropped at the end are the last characters up to one that is kept. -/
theorem rdropWhile_append_eq {α : Type} {p : α → Bool} {front back : List α}
    (hback : ∀ a ∈ back, p a = true) (hfront : ∀ a ∈ front.getLast?, p a = false) :
    (front ++ back).rdropWhile p = front := by
  have hdrop : (front ++ back).rdropWhile p = front.rdropWhile p := by
    rw [List.rdropWhile, List.reverse_append, List.dropWhile_append_of_pos (by simpa using hback)]
    rfl
  rw [hdrop, List.rdropWhile_eq_self_iff]
  intro hne
  rw [hfront _ (List.getLast?_eq_some_getLast hne)]
  exact Bool.false_ne_true

theorem trim_append {before body after : List Char} (hbefore : ∀ c ∈ before, isBlank c = true)
    (hafter : ∀ c ∈ after, isBlank c = true) (hfirst : ∀ c ∈ body.head?, isBlank c = false)
    (hlast : ∀ c ∈ body.getLast?, isBlank c = false) : trim (before ++ body ++ after) = body := by
  have hbegin : (before ++ body ++ after).dropWhile isBlank
      = (body ++ after).dropWhile isBlank := by
    rw [List.append_assoc, List.dropWhile_append_of_pos hbefore]
  have htrim : trim (before ++ body ++ after)
      = ((body ++ after).dropWhile isBlank).rdropWhile isBlank := by
    rw [← hbegin]
    rfl
  cases body with
  | nil =>
    rw [htrim, List.nil_append, List.dropWhile_eq_nil_iff.mpr hafter, List.rdropWhile_nil]
  | cons c cs =>
    rw [htrim, List.cons_append, List.dropWhile_cons_of_neg (by simpa using hfirst c rfl),
      ← List.cons_append, rdropWhile_append_eq hafter hlast]

/-- A text is what is left when it is trimmed, between blanks. -/
theorem exists_trim (cs : List Char) : ∃ before after, cs = before ++ trim cs ++ after
    ∧ (∀ c ∈ before, isBlank c = true) ∧ ∀ c ∈ after, isBlank c = true := by
  have htail : trim cs ++ (cs.dropWhile isBlank).rtakeWhile isBlank = cs.dropWhile isBlank :=
    List.rdropWhile_append_rtakeWhile
  refine ⟨cs.takeWhile isBlank, (cs.dropWhile isBlank).rtakeWhile isBlank, ?_,
    fun c hc => ?_, fun c hc => List.mem_rtakeWhile_imp hc⟩
  · rw [List.append_assoc, htail, List.takeWhile_append_dropWhile]
  · exact List.mem_takeWhile_imp hc

end AbiBridge.Text
