import AbiBridge.Proofs.Name
import AbiBridge.Proofs.Text.Numeral
import AbiBridge.Text.Search

/-!
# Blocks of lines

Lines with braces: how many are open behind them. A block is a list of lines, none of which has
a line break of its own, that closes and opens a given number of braces.
-/

namespace AbiBridge

namespace Text

theorem splitAt_append_separator {separator : Char} {cs : List Char} (h : separator ∉ cs)
    (rest : List Char) :
    splitAt separator (cs ++ separator :: rest) = cs :: splitAt separator rest := by
  induction cs with
  | nil => simp [splitAt]
  | cons c cs ih =>
    rw [List.mem_cons, not_or] at h
    rw [List.cons_append, splitAt, if_neg (Ne.symm h.1), ih h.2]

theorem lines_unlines {ls : List String} (h : ∀ line ∈ ls, '\n' ∉ line.toList) :
    lines (unlines ls) = ls ++ [""] := by
  induction ls with
  | nil => rfl
  | cons line ls ih =>
    have hline : '\n' ∉ line.toList := h line List.mem_cons_self
    have hrest := ih fun other hother => h other (List.mem_cons_of_mem _ hother)
    have htext : (unlines (line :: ls)).toList = line.toList ++ '\n' :: (unlines ls).toList := by
      simp [unlines]
    rw [lines, htext, splitAt_append_separator hline, List.map_cons, String.ofList_toList,
      List.cons_append, ← hrest, lines]

end Text

/-- How many braces are open behind a text, `depth` being open before it. There is no answer if
the text closes a brace that is not open. -/
def openBraces (depth : Nat) : List Char → Option Nat
  | [] => some depth
  | c :: cs =>
    if c = '{' then openBraces (depth + 1) cs
    else if c = '}' then
      match depth with
      | 0 => none
      | depth + 1 => openBraces depth cs
    else openBraces depth cs

@[simp] theorem openBraces_append (depth : Nat) (as bs : List Char) :
    openBraces depth (as ++ bs) = (openBraces depth as).bind (openBraces · bs) := by
  induction as generalizing depth with
  | nil => rfl
  | cons c as ih =>
    simp only [List.cons_append, openBraces, ih]
    split
    · rfl
    · split
      · cases depth <;> rfl
      · rfl

/-- The text closes `before` braces that were open and leaves `after` open, whatever is open
around it. -/
def Braces (before after : Nat) (cs : List Char) : Prop :=
  ∀ depth, openBraces (depth + before) cs = some (depth + after)

theorem Braces.append {a b c : Nat} {cs ds : List Char} (h : Braces a b cs) (h' : Braces b c ds) :
    Braces a c (cs ++ ds) := by
  intro depth
  rw [openBraces_append, h, Option.bind_some, h']

theorem Braces.around {a b : Nat} {cs : List Char} (h : Braces a b cs) (k : Nat) :
    Braces (k + a) (k + b) cs := by
  intro depth
  rw [← Nat.add_assoc, ← Nat.add_assoc]
  exact h (depth + k)

theorem braces_nil (a : Nat) : Braces a a [] :=
  fun _ => rfl

def IsPlainText (text : String) : Prop :=
  ∀ c ∈ text.toList, c ≠ '{' ∧ c ≠ '}' ∧ c ≠ '\n'

instance (text : String) : Decidable (IsPlainText text) :=
  List.decidableBAll _ text.toList

@[simp] theorem isPlainText_append {a b : String} :
    IsPlainText (a ++ b) ↔ IsPlainText a ∧ IsPlainText b := by
  rw [IsPlainText, String.toList_append]
  exact List.forall_mem_append

theorem IsPlainText.braces {text : String} (h : IsPlainText text) (a : Nat) :
    Braces a a text.toList := by
  rw [IsPlainText] at h
  generalize text.toList = cs at h
  induction cs with
  | nil => exact braces_nil a
  | cons c cs ih =>
    obtain ⟨hopen, hclose, -⟩ := h c List.mem_cons_self
    intro depth
    simp only [openBraces, if_neg hopen, if_neg hclose]
    exact ih (fun d hd => h d (List.mem_cons_of_mem _ hd)) depth

theorem IsPlainText.newline_not_mem {text : String} (h : IsPlainText text) : '\n' ∉ text.toList :=
  fun hmem => (h _ hmem).2.2 rfl

theorem IsIdentifier.isPlainText {name : String} (h : IsIdentifier name) : IsPlainText name := by
  intro c hc
  have hword := h.isAsciiWordChar hc
  refine ⟨?_, ?_, ?_⟩
  all_goals
    rintro rfl
    exact absurd hword (by decide)

theorem isPlainText_toString (n : Int) : IsPlainText (toString n) := by
  intro c hc
  have hnumeral := Text.isNumeralChar_of_mem_toString hc
  refine ⟨?_, ?_, ?_⟩
  all_goals
    rintro rfl
    exact absurd hnumeral (by decide)

theorem isPlainText_toString_nat (n : Nat) : IsPlainText (toString n) :=
  isPlainText_toString n

def IsBalanced (lines : List String) : Prop :=
  openBraces 0 (lines.flatMap String.toList) = some 0

instance (lines : List String) : Decidable (IsBalanced lines) :=
  inferInstanceAs (Decidable (_ = _))

/-- Lines without line breaks of their own that close `before` braces and leave `after` open. -/
structure IsBlock (before after : Nat) (lines : List String) : Prop where
  braces : Braces before after (lines.flatMap String.toList)
  newline_not_mem : ∀ line ∈ lines, '\n' ∉ line.toList

namespace IsBlock

variable {a b c : Nat} {line : String} {ls ls' : List String}

theorem append (h : IsBlock a b ls) (h' : IsBlock b c ls') : IsBlock a c (ls ++ ls') where
  braces := by
    rw [List.flatMap_append]
    exact h.braces.append h'.braces
  newline_not_mem := List.forall_mem_append.mpr ⟨h.newline_not_mem, h'.newline_not_mem⟩

theorem around (h : IsBlock a b ls) (k : Nat) : IsBlock (k + a) (k + b) ls :=
  ⟨h.braces.around k, h.newline_not_mem⟩

theorem flatMap {α : Type} {items : List α} {block : α → List String}
    (h : ∀ item ∈ items, IsBlock a a (block item)) : IsBlock a a (items.flatMap block) := by
  induction items with
  | nil => exact ⟨braces_nil a, nofun⟩
  | cons item items ih =>
    rw [List.flatMap_cons]
    exact (h item List.mem_cons_self).append
      (ih fun other hother => h other (List.mem_cons_of_mem _ hother))

theorem plain (h : ∀ line ∈ ls, IsPlainText line) (a : Nat) : IsBlock a a ls := by
  induction ls with
  | nil => exact ⟨braces_nil a, nofun⟩
  | cons line ls ih =>
    have hline := h line List.mem_cons_self
    have hrest := ih fun other hother => h other (List.mem_cons_of_mem _ hother)
    refine ⟨(hline.braces a).append hrest.braces, ?_⟩
    exact List.forall_mem_cons.mpr ⟨hline.newline_not_mem, hrest.newline_not_mem⟩

theorem opened (h : IsPlainText line) (a : Nat) : IsBlock a (a + 1) [line ++ " \x7b"] where
  braces := by
    rw [List.flatMap_singleton, String.toList_append]
    exact (h.braces a).append fun _ => rfl
  newline_not_mem := by simpa using h.newline_not_mem

theorem closed (a : Nat) : IsBlock (a + 1) a ["\x7d"] :=
  ⟨fun _ => rfl, by decide⟩

theorem isBalanced (h : IsBlock 0 0 ls) : IsBalanced ls :=
  h.braces 0

/-- A brace that closes nothing stands behind the lines. -/
theorem not_isBalanced (h : IsBlock 0 0 ls) (ls' : List String) :
    ¬ IsBalanced (ls ++ "\x7d" :: ls') := by
  intro hbalanced
  have hbraces : openBraces 0 (ls.flatMap String.toList) = some 0 := h.isBalanced
  rw [IsBalanced, List.flatMap_append, openBraces_append, hbraces, Option.bind_some,
    List.flatMap_cons, openBraces_append] at hbalanced
  have hclosing : openBraces 0 "\x7d".toList = none := rfl
  rw [hclosing] at hbalanced
  simp at hbalanced

end IsBlock

end AbiBridge
