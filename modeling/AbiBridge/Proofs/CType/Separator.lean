import AbiBridge.CType.Identifier
import AbiBridge.CType.Token
import AbiBridge.Text.Blank

/-!
# Characters that end a word

A mark or a blank ends a word of a type spelling. No word character and no colon does, so
a name is one word.
-/

namespace AbiBridge

namespace Text

theorem inRanges_eq_false {ranges others : List (Nat × Nat)} {n : Nat}
    (h : ∀ r ∈ ranges, ∀ s ∈ others, r.2 < s.1 ∨ s.2 < r.1) (hn : inRanges others n = true) :
    inRanges ranges n = false := by
  simp only [inRanges, List.any_eq_true, List.any_eq_false, Bool.and_eq_true,
    decide_eq_true_eq, not_and] at hn ⊢
  obtain ⟨s, hs, hlow, hhigh⟩ := hn
  intro r hr hr'
  rcases h r hr s hs with hlt | hlt <;> omega

theorem toNat_of_isAsciiWordChar {c : Char} (h : isAsciiWordChar c = true) :
    48 ≤ c.toNat ∧ c.toNat ≤ 57 ∨ 65 ≤ c.toNat ∧ c.toNat ≤ 90 ∨ c.toNat = 95
      ∨ 97 ≤ c.toNat ∧ c.toNat ≤ 122 := by
  change ((decide (65 ≤ c.val ∧ c.val ≤ 90) || (97 ≤ c.val && c.val ≤ 122))
    || (48 ≤ c.val && c.val ≤ 57) || c == '_') = true at h
  simp only [Bool.or_eq_true, Bool.and_eq_true, decide_eq_true_eq, beq_iff_eq,
    UInt32.le_iff_toNat_le] at h
  change ((65 ≤ c.toNat ∧ c.toNat ≤ 90 ∨ 97 ≤ c.toNat ∧ c.toNat ≤ 122)
    ∨ 48 ≤ c.toNat ∧ c.toNat ≤ 57) ∨ c = '_' at h
  rcases h with ((h | h) | h) | rfl
  · omega
  · omega
  · omega
  · decide

/-- No blank is a word character. -/
theorem isBlank_of_isWordChar {c : Char} (h : isWordChar c = true) : isBlank c = false := by
  simp only [isWordChar, Bool.or_eq_true] at h
  rcases h with h | h
  · have hc := toNat_of_isAsciiWordChar h
    have hascii : inRanges [(48, 57), (65, 90), (95, 95), (97, 122)] c.toNat = true := by
      simp only [inRanges, List.any_cons, List.any_nil, Bool.or_false, Bool.or_eq_true,
        Bool.and_eq_true, decide_eq_true_eq]
      omega
    exact inRanges_eq_false (by decide) hascii
  · exact inRanges_eq_false (by decide +kernel) h

end Text

namespace CType

def isSeparator (c : Char) : Bool :=
  (Token.ofMark? c).isSome || Text.isBlank c

theorem mem_of_isSome_ofMark? {c : Char} (h : (Token.ofMark? c).isSome = true) :
    c ∈ ['*', '&', '(', ')', ',', '[', ']'] := by
  simp only [Token.ofMark?] at h
  split at h <;> simp at h ⊢

theorem isWordChar_of_isSome_ofMark? {c : Char} (h : (Token.ofMark? c).isSome = true) :
    Text.isWordChar c = false := by
  have hmarks : (['*', '&', '(', ')', ',', '[', ']'].all (!Text.isWordChar ·)) = true := by
    decide +kernel
  have hmark := List.all_eq_true.mp hmarks c (mem_of_isSome_ofMark? h)
  rw [Bool.not_eq_true'] at hmark
  exact hmark

theorem isSeparator_of_isWordChar {c : Char} (h : Text.isWordChar c = true) :
    isSeparator c = false := by
  rw [isSeparator, Text.isBlank_of_isWordChar h, Bool.or_false, Bool.eq_false_iff]
  intro hmark
  rw [isWordChar_of_isSome_ofMark? hmark] at h
  cases h

theorem isSeparator_of_isDigit {c : Char} (h : c.isDigit = true) : isSeparator c = false := by
  apply isSeparator_of_isWordChar
  simp [Text.isWordChar, Text.isAsciiWordChar, Char.isAlphanum, h]

theorem isWordChar_of_isIdentifierStart {c : Char} (h : Text.isIdentifierStart c = true) :
    Text.isWordChar c = true := by
  simp only [Text.isIdentifierStart, Bool.or_eq_true] at h
  rcases h with h | h <;> simp [Text.isWordChar, Text.isAsciiWordChar, Char.isAlphanum, h]

/-- Behind its first character a name has word characters and colons only. -/
theorem all_of_isNameRest {cs : List Char} (h : isNameRest cs = true) :
    cs.all (fun c => Text.isWordChar c || c == ':') = true := by
  fun_induction isNameRest cs with
  | case1 => rfl
  | case2 c cs ih =>
    simp only [Bool.and_eq_true] at h
    simp [isWordChar_of_isIdentifierStart h.1, ih h.2]
  | case3 c cs _ ih =>
    simp only [Bool.and_eq_true] at h
    simp [h.1, ih h.2]

theorem isPointeeWord_of_isName {name : String} (h : isName name = true) :
    isPointeeWord name = true := by
  simp only [isName] at h
  simp only [isPointeeWord]
  split at h
  · cases h
  · next c cs heq =>
    simp only [Bool.and_eq_true] at h
    simp only [h.1, all_of_isNameRest h.2, Bool.and_self]

theorem isSeparator_of_mem_pointeeWord {word : String} (h : isPointeeWord word = true) {c : Char}
    (hc : c ∈ word.toList) : isSeparator c = false := by
  simp only [isPointeeWord] at h
  split at h
  · cases h
  · next d ds heq =>
    simp only [Bool.and_eq_true, List.all_eq_true, Bool.or_eq_true, beq_iff_eq] at h
    rw [heq] at hc
    rcases List.mem_cons.mp hc with rfl | hc
    · exact isSeparator_of_isWordChar (isWordChar_of_isIdentifierStart h.1)
    · rcases h.2 c hc with hword | rfl
      · exact isSeparator_of_isWordChar hword
      · decide

theorem toList_ne_nil_of_isPointeeWord {word : String} (h : isPointeeWord word = true) :
    word.toList ≠ [] := by
  intro hnil
  simp [isPointeeWord, hnil] at h

end CType

end AbiBridge
