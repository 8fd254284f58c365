import AbiBridge.Constant.Integer
import AbiBridge.Proofs.Text.Numeral
import Mathlib.Algebra.Ring.Int.Defs
import Mathlib.Data.List.Basic

/-!
# Literals of enumerators

The literal of an enumerator is an expression for a signed word of 32 bits. It reads back from
its text, and there is one for each number that fits 32 bits, with a sign or without. Two of these
numbers have literals of the same value exactly if they differ by the number of such words.
-/

namespace AbiBridge.Constant

variable {m n : Int} {literal literal' : EnumeratorLiteral}

/-- What follows the digits of a literal that wraps. -/
def wrapMark : List Char :=
  "_u32 as i32".toList

def EnumeratorLiteral.ofText? (text : List Char) : Option EnumeratorLiteral :=
  match wrapMark.isSuffixOf? text with
  | some digits => (Text.numeral? 10 digits).map .wrapped
  | none => (Text.signedNumeral? text).map .signed

@[simp] theorem isSuffixOf?_wrapMark_toString (n : Int) :
    wrapMark.isSuffixOf? (toString n).toList = none := by
  apply Option.eq_none_iff_forall_ne_some.mpr
  intro front hfront
  have hmem : '_' ∈ (toString n).toList := by
    rw [← List.isSuffixOf?_eq_some_iff_append_eq.mp hfront]
    exact List.mem_append_right _ (by decide)
  exact absurd (Text.isNumeralChar_of_mem_toString hmem) (by decide)

namespace EnumeratorLiteral

@[simp]
theorem ofText?_text (literal : EnumeratorLiteral) : ofText? literal.text.toList = some literal := by
  cases literal with
  | signed n =>
    rw [text, ofText?, isSuffixOf?_wrapMark_toString, Text.signedNumeral?_toString]
    rfl
  | wrapped n =>
    have hdigits : wrapMark.isSuffixOf? (toString n ++ "_u32 as i32").toList
        = some (toString n).toList := by
      apply List.isSuffixOf?_eq_some_iff_append_eq.mpr
      rw [String.toList_append]
      rfl
    simp only [text, ofText?, hdigits, Text.numeral?_toString, Option.map_some]

@[simp] theorem text_inj : literal.text = literal'.text ↔ literal = literal' := by
  constructor
  · intro h
    have hread := ofText?_text literal
    rw [h, ofText?_text] at hread
    exact (Option.some.inj hread).symm
  · exact congrArg text

/-- The number of a literal before it wraps. -/
def number : EnumeratorLiteral → Int
  | signed n => n
  | wrapped n => n

end EnumeratorLiteral

theorem enumeratorLiteral?_eq_some_iff :
    enumeratorLiteral? n = some literal
      ↔ -2 ^ 31 ≤ n ∧ n < 2 ^ 31 ∧ literal = .signed n
        ∨ 2 ^ 31 ≤ n ∧ n < 2 ^ 32 ∧ literal = .wrapped n.toNat := by
  have hsigned : Word.isSigned 32 n = true ↔ -2 ^ 31 ≤ n ∧ n < 2 ^ 31 := Word.isSigned_iff
  have hunsigned : Word.isUnsigned 32 n = true ↔ 0 ≤ n ∧ n < 2 ^ 32 := Word.isUnsigned_iff
  simp only [enumeratorLiteral?, hsigned, hunsigned]
  split
  · next hfits =>
    have hlt : ¬ 2 ^ 31 ≤ n := by omega
    simp only [Option.some.injEq, hfits.1, hfits.2, hlt, true_and, false_and, or_false,
      eq_comm (a := literal)]
  · next hsmall =>
    split
    · next hfits =>
      have hle : 2 ^ 31 ≤ n := by omega
      have hlt : ¬ n < 2 ^ 31 := by omega
      simp only [Option.some.injEq, hfits.2, hle, hlt, true_and, false_and, and_false, false_or,
        eq_comm (a := literal)]
    · simp only [reduceCtorEq, false_iff]
      omega

theorem isSome_enumeratorLiteral?_iff :
    (enumeratorLiteral? n).isSome ↔ -2 ^ 31 ≤ n ∧ n < 2 ^ 32 := by
  simp only [Option.isSome_iff_exists, enumeratorLiteral?_eq_some_iff]
  constructor
  · rintro ⟨literal, h | h⟩ <;> omega
  · intro h
    by_cases hn : n < 2 ^ 31
    · exact ⟨_, .inl ⟨h.1, hn, rfl⟩⟩
    · exact ⟨_, .inr ⟨by omega, h.2, rfl⟩⟩

theorem number_of_enumeratorLiteral? (h : enumeratorLiteral? n = some literal) :
    literal.number = n := by
  rcases enumeratorLiteral?_eq_some_iff.mp h with ⟨-, -, rfl⟩ | ⟨hle, -, rfl⟩
  · rfl
  · exact Int.toNat_of_nonneg (by omega)

/-- The value of an expression for a signed word of 32 bits: that of a numeral which fits such a
word, or which fits an unsigned word and wraps. -/
def wordValue? (text : String) : Option Int :=
  match EnumeratorLiteral.ofText? text.toList with
  | some (.signed n) => if Word.isSigned 32 n then some n else none
  | some (.wrapped n) => if Word.isUnsigned 32 n then some (Word.wrap 32 n) else none
  | none => none

theorem wrap_eq_ite (hle : -2 ^ 31 ≤ n) (hlt : n < 2 ^ 32) :
    Word.wrap 32 n = if n < 2 ^ 31 then n else n - 2 ^ 32 := by
  have hcount : Word.count 32 = 4294967296 := rfl
  rw [Word.wrap, hcount, Int.bmod_def]
  omega

theorem wordValue?_text (h : enumeratorLiteral? n = some literal) :
    wordValue? literal.text = some (Word.wrap 32 n) := by
  rw [wordValue?, EnumeratorLiteral.ofText?_text]
  rcases enumeratorLiteral?_eq_some_iff.mp h with ⟨hle, hlt, rfl⟩ | ⟨hle, hlt, rfl⟩
  · have hfits : Word.isSigned 32 n = true := Word.isSigned_iff.mpr ⟨hle, hlt⟩
    simp only [hfits, if_true]
    rw [wrap_eq_ite hle (by omega), if_pos hlt]
  · have hn : (n.toNat : Int) = n := Int.toNat_of_nonneg (by omega)
    have hfits : Word.isUnsigned 32 n = true := Word.isUnsigned_iff.mpr ⟨by omega, hlt⟩
    simp only [hn, hfits, if_true]

/-- Numbers whose literals have the same value are the same or differ by the number of words. -/
theorem wrap_eq_wrap_iff (hm : -2 ^ 31 ≤ m ∧ m < 2 ^ 32) (hn : -2 ^ 31 ≤ n ∧ n < 2 ^ 32) :
    Word.wrap 32 m = Word.wrap 32 n ↔ m = n ∨ m = n + 2 ^ 32 ∨ n = m + 2 ^ 32 := by
  rw [wrap_eq_ite hm.1 hm.2, wrap_eq_ite hn.1 hn.2]
  omega

end AbiBridge.Constant
