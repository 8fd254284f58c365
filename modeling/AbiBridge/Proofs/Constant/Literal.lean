import AbiBridge.Constant.Expression
import AbiBridge.Proofs.Text.Blank
import Mathlib.Tactic.IntervalCases
import Mathlib.Tactic.SplitIfs

/-!
# Literals

How numbers are written in C: the digits of a numeral by their places, the prefixes of the
bases, and the letters at the end that mark a type.
-/

namespace AbiBridge.Text

/-- The character is the digit for a number below the base, at most 16. -/
def IsDigitOf (base : Nat) (c : Char) (d : Nat) : Prop :=
  d < base ∧ ("0123456789abcdef".toList[d]? = some c ∨ "0123456789ABCDEF".toList[d]? = some c)

/-- The characters are the digits of the number in the base, the last one for the units. -/
inductive Numeral (base : Nat) : List Char → Nat → Prop
  | digit {c : Char} {d : Nat} : IsDigitOf base c d → Numeral base [c] d
  | next {cs : List Char} {c : Char} {n d : Nat} : Numeral base cs n → IsDigitOf base c d →
    Numeral base (cs ++ [c]) (n * base + d)

variable {base : Nat} {c : Char} {cs : List Char} {n d : Nat}

theorem isDigitOf_iff_toNat (hbase : base ≤ 16) :
    IsDigitOf base c d ↔ d < base ∧ (d < 10 ∧ c.toNat = 48 + d
      ∨ 10 ≤ d ∧ (c.toNat = 87 + d ∨ c.toNat = 55 + d)) := by
  refine and_congr_right fun hlt => ?_
  have hd : d < 16 := by omega
  clear hlt
  interval_cases d <;> simp [← Char.toNat_inj, eq_comm]

theorem digitValue?_eq_some_iff (hbase : base ≤ 16) :
    digitValue? base c = some d ↔ IsDigitOf base c d := by
  have hle : ∀ a b : Char, a ≤ b ↔ a.toNat ≤ b.toNat := fun _ _ => Iff.rfl
  have hdigit : c.isDigit = true ↔ 48 ≤ c.toNat ∧ c.toNat ≤ 57 := by
    simp only [Char.isDigit, Bool.and_eq_true, decide_eq_true_eq]
    rfl
  rw [isDigitOf_iff_toNat hbase]
  simp only [digitValue?, hdigit, hle, Char.reduceToNat, Option.ite_none_right_eq_some,
    Option.some.injEq]
  split_ifs <;> omega

@[simp] theorem readDigits?_append {ds : List Char} :
    readDigits? base n (cs ++ ds) = (readDigits? base n cs).bind (readDigits? base · ds) := by
  induction cs generalizing n with
  | nil => rfl
  | cons c cs ih =>
    rw [List.cons_append, readDigits?, readDigits?]
    cases digitValue? base c with
    | none => rfl
    | some d => exact ih

@[simp] theorem readDigits?_singleton :
    readDigits? base n [c] = (digitValue? base c).map (n * base + ·) := by
  rw [readDigits?]
  cases digitValue? base c <;> rfl

theorem numeral?_eq_readDigits? (h : cs ≠ []) : numeral? base cs = readDigits? base 0 cs := by
  cases cs with
  | nil => exact absurd rfl h
  | cons c cs => rfl

theorem Numeral.ne_nil (h : Numeral base cs n) : cs ≠ [] := by
  cases h with
  | digit => exact List.cons_ne_nil _ _
  | next => exact List.concat_ne_nil _ _

/-- Every character of a numeral is a digit below its base. -/
theorem Numeral.exists_digit (h : Numeral base cs n) (hc : c ∈ cs) : ∃ d, IsDigitOf base c d := by
  induction h with
  | digit hd =>
    rw [List.mem_singleton.mp hc]
    exact ⟨_, hd⟩
  | next _ hd ih =>
    rcases List.mem_append.mp hc with hc | hc
    · exact ih hc
    · rw [List.mem_singleton.mp hc]
      exact ⟨_, hd⟩

theorem numeral?_eq_some_iff (hbase : base ≤ 16) :
    numeral? base cs = some n ↔ Numeral base cs n := by
  constructor
  · induction cs using List.reverseRecOn generalizing n with
    | nil =>
      intro h
      cases h
    | append_singleton cs c ih =>
      intro h
      rw [numeral?_eq_readDigits? (List.concat_ne_nil _ _), readDigits?_append,
        Option.bind_eq_some_iff] at h
      obtain ⟨m, hm, h⟩ := h
      rw [readDigits?_singleton, Option.map_eq_some_iff] at h
      obtain ⟨d, hd, rfl⟩ := h
      have hdigit := (digitValue?_eq_some_iff hbase).mp hd
      cases cs with
      | nil =>
        cases hm
        simpa using Numeral.digit hdigit
      | cons c' cs => exact (ih hm).next hdigit
  · intro h
    induction h with
    | digit hd =>
      rw [numeral?_eq_readDigits? (List.cons_ne_nil _ _), readDigits?_singleton,
        (digitValue?_eq_some_iff hbase).mpr hd]
      simp
    | next hcs hd ih =>
      rw [numeral?_eq_readDigits? hcs.ne_nil] at ih
      rw [numeral?_eq_readDigits? (List.concat_ne_nil _ _), readDigits?_append, ih,
        Option.bind_some, readDigits?_singleton, (digitValue?_eq_some_iff hbase).mpr hd,
        Option.map_some]

end AbiBridge.Text

namespace AbiBridge.Constant

/-- The word is a literal for the number: decimal, octal after `0` or hexadecimal after `0x`,
with any letters at the end that mark a type. -/
inductive IsLiteral : List Char → Nat → Prop
  | decimal {digits suffix : List Char} {n : Nat} : Text.Numeral 10 digits n →
    (digits = ['0'] ∨ digits.head? ≠ some '0') → (∀ c ∈ suffix, c ∈ ['u', 'U', 'l', 'L']) →
    IsLiteral (digits ++ suffix) n
  | octal {digits suffix : List Char} {n : Nat} : Text.Numeral 8 digits n →
    (∀ c ∈ suffix, c ∈ ['u', 'U', 'l', 'L']) → IsLiteral ('0' :: digits ++ suffix) n
  | hexadecimal {x : Char} {digits suffix : List Char} {n : Nat} : (x = 'x' ∨ x = 'X') →
    Text.Numeral 16 digits n → (∀ c ∈ suffix, c ∈ ['u', 'U', 'l', 'L']) →
    IsLiteral ('0' :: x :: digits ++ suffix) n

@[simp]
theorem isLiteralSuffix_iff {c : Char} : isLiteralSuffix c = true ↔ c ∈ ['u', 'U', 'l', 'L'] := by
  simp [isLiteralSuffix, or_assoc]

/-- No digit marks a type. -/
theorem isLiteralSuffix_of_isDigitOf {base : Nat} (hbase : base ≤ 16) {c : Char} {d : Nat}
    (h : Text.IsDigitOf base c d) : isLiteralSuffix c = false := by
  rw [Text.isDigitOf_iff_toNat hbase] at h
  rw [Bool.eq_false_iff, ne_eq, isLiteralSuffix_iff]
  simp only [List.mem_cons, List.not_mem_nil, or_false]
  rintro (rfl | rfl | rfl | rfl) <;> simp at h <;> omega

theorem literalDigits_append {digits suffix : List Char}
    (hsuffix : ∀ c ∈ suffix, c ∈ ['u', 'U', 'l', 'L'])
    (hdigits : ∀ c ∈ digits.getLast?, isLiteralSuffix c = false) :
    literalDigits (digits ++ suffix) = digits :=
  Text.rdropWhile_append_eq (fun c hc => isLiteralSuffix_iff.mpr (hsuffix c hc)) hdigits

/-- A word is its digits, followed by letters that mark a type. -/
theorem exists_suffix (word : List Char) :
    ∃ suffix, word = literalDigits word ++ suffix ∧ ∀ c ∈ suffix, c ∈ ['u', 'U', 'l', 'L'] :=
  ⟨word.rtakeWhile isLiteralSuffix, List.rdropWhile_append_rtakeWhile.symm, fun _ hc =>
    isLiteralSuffix_iff.mp (List.mem_rtakeWhile_imp hc)⟩

/-- The digits of a numeral end in no letter that marks a type, whatever stands before them. -/
theorem literalDigits_of_numeral {base : Nat} (hbase : base ≤ 16) (front : List Char)
    {digits suffix : List Char} {n : Nat} (h : Text.Numeral base digits n)
    (hsuffix : ∀ c ∈ suffix, c ∈ ['u', 'U', 'l', 'L']) :
    literalDigits (front ++ digits ++ suffix) = front ++ digits := by
  refine literalDigits_append hsuffix fun c hc => ?_
  rw [List.getLast?_append_of_ne_nil _ h.ne_nil] at hc
  obtain ⟨d, hd⟩ := h.exists_digit (List.mem_of_getLast? hc)
  exact isLiteralSuffix_of_isDigitOf hbase hd

/-- No octal digit is the letter of the hexadecimal prefix. -/
theorem ne_of_isDigitOf_eight {c : Char} {d : Nat} (h : Text.IsDigitOf 8 c d) :
    c ≠ 'x' ∧ c ≠ 'X' := by
  rw [Text.isDigitOf_iff_toNat (by decide)] at h
  constructor <;> rintro rfl <;> simp at h <;> omega

theorem literalNumber?_eq_some_iff {word : List Char} {n : Nat} :
    literalNumber? word = some n ↔ IsLiteral word n := by
  constructor
  · intro h
    obtain ⟨suffix, hword, hsuffix⟩ := exists_suffix word
    unfold literalNumber? at h
    rw [hword]
    split at h
    · next digits hdigits =>
      rw [hdigits]
      exact .hexadecimal (.inl rfl) ((Text.numeral?_eq_some_iff (by decide)).mp h) hsuffix
    · next digits hdigits =>
      rw [hdigits]
      exact .hexadecimal (.inr rfl) ((Text.numeral?_eq_some_iff (by decide)).mp h) hsuffix
    · next c digits _ _ hdigits =>
      rw [hdigits]
      exact .octal ((Text.numeral?_eq_some_iff (by decide)).mp h) hsuffix
    · next hlong =>
      have hnumeral := (Text.numeral?_eq_some_iff (by decide)).mp h
      refine .decimal hnumeral ?_ hsuffix
      cases hdigits : literalDigits word with
      | nil => exact absurd hdigits hnumeral.ne_nil
      | cons c digits =>
        by_cases hc : c = '0'
        · cases digits with
          | nil => exact .inl (by rw [hc])
          | cons c' digits => exact absurd (hc ▸ hdigits) (hlong c' digits)
        · exact .inr (by simpa using hc)
  · intro h
    cases h with
    | @decimal digits suffix n hnumeral hhead hsuffix =>
      have hdigits : literalDigits (digits ++ suffix) = digits :=
        literalDigits_of_numeral (by decide) [] hnumeral hsuffix
      have hread := (Text.numeral?_eq_some_iff (by decide)).mpr hnumeral
      rw [literalNumber?, hdigits]
      split
      · simp at hhead
      · simp at hhead
      · simp at hhead
      · exact hread
    | @octal digits suffix n hnumeral hsuffix =>
      have hdigits : literalDigits ('0' :: digits ++ suffix) = '0' :: digits :=
        literalDigits_of_numeral (by decide) ['0'] hnumeral hsuffix
      have hread := (Text.numeral?_eq_some_iff (by decide)).mpr hnumeral
      cases digits with
      | nil => exact absurd rfl hnumeral.ne_nil
      | cons c cs =>
        obtain ⟨d, hd⟩ := hnumeral.exists_digit List.mem_cons_self
        obtain ⟨hlower, hupper⟩ := ne_of_isDigitOf_eight hd
        rw [literalNumber?, hdigits]
        split
        · next heq =>
          cases heq
          exact absurd rfl hlower
        · next heq =>
          cases heq
          exact absurd rfl hupper
        · next heq =>
          cases heq
          exact hread
        · next hlong => exact absurd rfl (hlong c cs)
    | @hexadecimal x digits suffix n hx hnumeral hsuffix =>
      have hdigits : literalDigits ('0' :: x :: digits ++ suffix) = '0' :: x :: digits :=
        literalDigits_of_numeral (by decide) ['0', x] hnumeral hsuffix
      have hread := (Text.numeral?_eq_some_iff (by decide)).mpr hnumeral
      rcases hx with rfl | rfl <;> simpa only [literalNumber?, hdigits] using hread

end AbiBridge.Constant
