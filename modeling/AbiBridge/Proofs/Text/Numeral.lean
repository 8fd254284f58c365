import AbiBridge.Text.DecimalDigit

/-!
# Written numbers

The decimal numeral of a number reads back as that number, and consists of ASCII digits.
-/

namespace AbiBridge.Text

theorem isDigit_of_mem_toString {n : Nat} {c : Char} (h : c ∈ (toString n).toList) :
    c.isDigit = true := by
  rw [Nat.toString_eq_repr, Nat.toList_repr] at h
  exact Nat.isDigit_of_mem_toDigits (by decide) (by decide) h

theorem toList_toString_ne_nil (n : Nat) : (toString n).toList ≠ [] := by
  rw [Nat.toString_eq_repr, Nat.toList_repr]
  exact Nat.toDigits_ne_nil

theorem digitValue?_of_isDigit {c : Char} (h : c.isDigit = true) :
    digitValue? 10 c = some (c.toNat - '0'.toNat) := by
  have hle : c.toNat ≤ '9'.toNat := by
    simp only [Char.isDigit, Bool.and_eq_true, decide_eq_true_eq] at h
    exact h.2
  have hlt : c.toNat - '0'.toNat < 10 := by
    simp only [Char.reduceToNat] at hle ⊢
    omega
  simp only [digitValue?, h, if_true, hlt]

theorem readDigits?_of_isDigit {cs : List Char} (h : ∀ c ∈ cs, c.isDigit = true) (n : Nat) :
    readDigits? 10 n cs = some (Nat.ofDigitChars 10 cs n) := by
  induction cs generalizing n with
  | nil => rw [Nat.ofDigitChars_nil]; rfl
  | cons c cs ih =>
    have hc := digitValue?_of_isDigit (h c List.mem_cons_self)
    have hcs : ∀ d ∈ cs, d.isDigit = true := fun d hd => h d (List.mem_cons_of_mem _ hd)
    rw [Nat.ofDigitChars_cons, ← ih hcs, Nat.mul_comm 10 n]
    simp only [readDigits?, hc]

@[simp] theorem numeral?_toString (n : Nat) : numeral? 10 (toString n).toList = some n := by
  have hread := readDigits?_of_isDigit (fun _ h => isDigit_of_mem_toString (n := n) h) 0
  cases hs : (toString n).toList with
  | nil => exact absurd hs (toList_toString_ne_nil n)
  | cons c cs =>
    rw [hs] at hread
    have hvalue : Nat.ofDigitChars 10 (c :: cs) 0 = n := by
      rw [← hs, Nat.toString_eq_repr, Nat.toList_repr, Nat.ofDigitChars_ten_toDigits]
    rw [hvalue] at hread
    exact hread

/-- A number that fits a 64-bit word reads back from its numeral. -/
theorem word64?_toString {n : Nat} (h : n < Word.count 64) :
    word64? (toString n).toList = some n := by
  have hword : Word.isUnsigned 64 n = true :=
    Word.isUnsigned_iff.mpr ⟨Int.natCast_nonneg n, Int.ofNat_lt.mpr h⟩
  rw [word64?, numeral?_toString, Option.filter_some, if_pos hword]

theorem lt_of_word64? {cs : List Char} {n : Nat} (h : word64? cs = some n) :
    n < Word.count 64 := by
  have hword := (Option.filter_eq_some_iff.mp h).2
  exact Int.ofNat_lt.mp (Word.isUnsigned_iff.mp hword).2

def isNumeralChar (c : Char) : Bool :=
  c == '-' || c.isDigit

@[simp] theorem toList_toString_negSucc (n : Nat) :
    (toString (Int.negSucc n)).toList = '-' :: (toString (n + 1)).toList := by
  show ("-" ++ toString (n + 1)).toList = _
  rw [String.toList_append]
  rfl

theorem isNumeralChar_of_mem_toString {n : Int} {c : Char} (h : c ∈ (toString n).toList) :
    isNumeralChar c = true := by
  have hdigit : ∀ m : Nat, c ∈ (toString m).toList → isNumeralChar c = true := fun m hm => by
    rw [isNumeralChar, isDigit_of_mem_toString hm, Bool.or_true]
  cases n with
  | ofNat m => exact hdigit m h
  | negSucc m =>
    rw [toList_toString_negSucc] at h
    rcases List.mem_cons.mp h with rfl | h
    · rfl
    · exact hdigit (m + 1) h

theorem toList_toString_int_ne_nil (n : Int) : (toString n).toList ≠ [] := by
  cases n with
  | ofNat m => exact toList_toString_ne_nil m
  | negSucc m =>
    rw [toList_toString_negSucc]
    exact List.cons_ne_nil _ _

/-- The number that a run of digits denotes, with a minus sign in front or without. -/
def signedNumeral? : List Char → Option Int
  | '-' :: cs => (numeral? 10 cs).map (-·)
  | cs => (numeral? 10 cs).map (↑·)

@[simp]
theorem signedNumeral?_toString (n : Int) : signedNumeral? (toString n).toList = some n := by
  cases n with
  | ofNat m =>
    have hread : numeral? 10 (toString (Int.ofNat m)).toList = some m := numeral?_toString m
    have hsign : ∀ cs, (toString m).toList ≠ '-' :: cs := by
      intro cs hcs
      have hminus : '-' ∈ (toString m).toList := by
        rw [hcs]
        exact List.mem_cons_self
      exact absurd (isDigit_of_mem_toString hminus) (by decide)
    rw [signedNumeral?, hread]
    · rfl
    · exact hsign
  | negSucc m =>
    rw [toList_toString_negSucc, signedNumeral?, numeral?_toString]
    rfl

theorem eq_of_toList_toString_eq {m n : Int} (h : (toString m).toList = (toString n).toList) :
    m = n := by
  have hread := signedNumeral?_toString m
  rw [h, signedNumeral?_toString] at hread
  exact (Option.some.inj hread).symm

/-- Numerals in front of the same end differ if the numbers do. -/
theorem eq_of_toString_prefix {m n : Int} {rest : List Char}
    (h : (toString m).toList ++ [' '] <+: (toString n).toList ++ ' ' :: rest) : m = n := by
  obtain ⟨back, heq⟩ := h
  have hsame := congrArg (List.takeWhile isNumeralChar) heq
  have hblank : isNumeralChar ' ' = false := rfl
  have hall : ∀ n : Int, ∀ c ∈ (toString n).toList, isNumeralChar c = true :=
    fun _ _ => isNumeralChar_of_mem_toString
  rw [List.append_assoc, List.singleton_append, List.takeWhile_append_of_pos (hall m),
    List.takeWhile_append_of_pos (hall n), List.takeWhile_cons, List.takeWhile_cons, hblank] at hsame
  simp only [Bool.false_eq_true, if_false, List.append_nil] at hsame
  exact eq_of_toList_toString_eq hsame

end AbiBridge.Text
