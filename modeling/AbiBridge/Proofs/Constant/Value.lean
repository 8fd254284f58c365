import AbiBridge.Proofs.Constant.Grammar
import AbiBridge.Proofs.Constant.Literal
import AbiBridge.Proofs.Constant.Spelling
import Mathlib.Data.Int.Bitwise

/-!
# Values of expressions

The value of an integer expression is computed in 128 bits. It is the exact value if that and
the values of all parts fit.
-/

namespace AbiBridge.Constant

theorem fits_iff {n : Int} : fits n = true ↔ -2 ^ 127 ≤ n ∧ n < 2 ^ 127 := by
  rw [fits, Word.isSigned_iff]
  rfl

theorem bmod_of_fits {n : Int} (h : fits n = true) : n.bmod (2 ^ 128) = n := by
  rw [fits_iff] at h
  exact Int.bmod_eq_of_le (by omega) (by omega)

theorem getLsbD_ofInt (w : Nat) (n : Int) (i : Nat) :
    (BitVec.ofInt w n).getLsbD i = (decide (i < w) && n.testBit i) := by
  cases n with
  | ofNat m =>
    rw [Int.ofNat_eq_natCast, BitVec.ofInt_natCast, BitVec.getLsbD_ofNat]
    rfl
  | negSucc m =>
    rw [BitVec.ofInt_negSucc_eq_not_ofNat, BitVec.getLsbD_not, BitVec.getLsbD_ofNat]
    by_cases hi : i < w <;> simp [hi, Int.testBit]

@[simp] theorem ofInt_lor (w : Nat) (a b : Int) :
    BitVec.ofInt w (a.lor b) = BitVec.ofInt w a ||| BitVec.ofInt w b := by
  refine BitVec.eq_of_getLsbD_eq fun i hi => ?_
  rw [BitVec.getLsbD_or, getLsbD_ofInt, getLsbD_ofInt, getLsbD_ofInt, Int.testBit_lor,
    Bool.and_or_distrib_left]

theorem ldiff_le (m n : Nat) : m.ldiff n ≤ m := by
  refine Nat.le_of_testBit fun i hi => ?_
  rw [Nat.testBit_ldiff, Bool.and_eq_true] at hi
  exact hi.1

theorem fits_ofNat {m : Nat} : fits (Int.ofNat m) = true ↔ m < 2 ^ 127 := by
  rw [fits_iff, Int.ofNat_eq_natCast]
  omega

theorem fits_negSucc {m : Nat} : fits (Int.negSucc m) = true ↔ m < 2 ^ 127 := by
  rw [fits_iff]
  omega

theorem fits_lor {a b : Int} (ha : fits a = true) (hb : fits b = true) :
    fits (a.lor b) = true := by
  cases a with
  | ofNat m =>
    cases b with
    | ofNat n => exact fits_ofNat.mpr (Nat.or_lt_two_pow (fits_ofNat.mp ha) (fits_ofNat.mp hb))
    | negSucc n => exact fits_negSucc.mpr ((ldiff_le n m).trans_lt (fits_negSucc.mp hb))
  | negSucc m =>
    cases b with
    | ofNat n => exact fits_negSucc.mpr ((ldiff_le m n).trans_lt (fits_negSucc.mp ha))
    | negSucc n => exact fits_negSucc.mpr (Nat.and_le_left.trans_lt (fits_negSucc.mp ha))

theorem orBits_eq_lor {a b : Int} (ha : fits a = true) (hb : fits b = true) :
    orBits a b = a.lor b := by
  rw [orBits, ← ofInt_lor, BitVec.toInt_ofInt, bmod_of_fits (fits_lor ha hb)]

theorem shiftBits_eq_mul {a : Int} {amount : Nat} (h : fits (a * 2 ^ amount) = true) :
    shiftBits a amount = a * 2 ^ amount := by
  have hcount : ((Word.count amount : Nat) : Int) = 2 ^ amount := by
    simp [Word.count]
  rw [shiftBits, hcount]
  exact bmod_of_fits h

namespace Expr

/-- The exact value of the expression, without any bounds: a shift multiplies by a power of two,
and a disjunction is one of the bits of the two's complements. -/
inductive HasValue : Expr → Int → Prop
  | literal {word : List Char} {n : Nat} : IsLiteral word n → HasValue (.literal word) n
  | neg {operand : Expr} {n : Int} : HasValue operand n → HasValue (.neg operand) (-n)
  | complement {operand : Expr} {n : Int} : HasValue operand n →
    HasValue (.complement operand) (-n - 1)
  | shift {operand amount : Expr} {n : Int} {k : Nat} : HasValue operand n → HasValue amount k →
    HasValue (.shift operand amount) (n * 2 ^ k)
  | or {left right : Expr} {m n : Int} : HasValue left m → HasValue right n →
    HasValue (.or left right) (m.lor n)

def parts : Expr → List Expr
  | .literal word => [.literal word]
  | .neg operand => .neg operand :: operand.parts
  | .complement operand => .complement operand :: operand.parts
  | .shift operand amount => .shift operand amount :: (operand.parts ++ amount.parts)
  | .or left right => .or left right :: (left.parts ++ right.parts)

def literals : Expr → List (List Char)
  | .literal word => [word]
  | .neg operand => operand.literals
  | .complement operand => operand.literals
  | .shift operand amount => operand.literals ++ amount.literals
  | .or left right => left.literals ++ right.literals

/-- The values of all parts fit 128 bits. -/
def Fits (e : Expr) : Prop :=
  ∀ part ∈ e.parts, ∀ n, part.HasValue n → -2 ^ 127 ≤ n ∧ n < 2 ^ 127

/-- All shifts are by at least 0 and less than 64. -/
def ShiftsInRange (e : Expr) : Prop :=
  ∀ operand amount, .shift operand amount ∈ e.parts → ∀ k, amount.HasValue k → 0 ≤ k ∧ k < 64

variable {e part left right : Expr} {n v : Int}

theorem mem_parts_self (e : Expr) : e ∈ e.parts := by
  cases e <;> simp [parts]

theorem Fits.of_subset (h : e.Fits) (hsub : part.parts ⊆ e.parts) : part.Fits :=
  fun other hother => h other (hsub hother)

theorem ShiftsInRange.of_subset (h : e.ShiftsInRange) (hsub : part.parts ⊆ e.parts) :
    part.ShiftsInRange :=
  fun operand amount hpart => h operand amount (hsub hpart)

theorem parts_subset_neg : e.parts ⊆ (Expr.neg e).parts :=
  List.subset_cons_self _ _

theorem parts_subset_complement : e.parts ⊆ (Expr.complement e).parts :=
  List.subset_cons_self _ _

theorem parts_subset_shift :
    left.parts ⊆ (Expr.shift left right).parts ∧ right.parts ⊆ (Expr.shift left right).parts :=
  ⟨fun _ h => .tail _ (List.mem_append_left _ h), fun _ h => .tail _ (List.mem_append_right _ h)⟩

theorem parts_subset_or :
    left.parts ⊆ (Expr.or left right).parts ∧ right.parts ⊆ (Expr.or left right).parts :=
  ⟨fun _ h => .tail _ (List.mem_append_left _ h), fun _ h => .tail _ (List.mem_append_right _ h)⟩

theorem Fits.fits (h : e.Fits) (hn : e.HasValue n) : Constant.fits n = true :=
  fits_iff.mpr (h e e.mem_parts_self n hn)

theorem literalValue?_eq {word : List Char} {n : Nat} (h : IsLiteral word n)
    (hfits : Constant.fits n = true) : literalValue? word = some (n : Int) := by
  rw [literalValue?, literalNumber?_eq_some_iff.mpr h]
  simp [hfits]

/-- An expression whose parts fit has a value, and that is computed. -/
theorem exists_value (hliterals : ∀ word ∈ e.literals, ∃ n, IsLiteral word n) (hfits : e.Fits)
    (hshifts : e.ShiftsInRange) : ∃ v, e.HasValue v ∧ e.value? = some v := by
  induction e with
  | literal word =>
    obtain ⟨n, hn⟩ := hliterals word (List.mem_singleton_self _)
    exact ⟨n, .literal hn, literalValue?_eq hn (hfits.fits (.literal hn))⟩
  | neg operand ih =>
    obtain ⟨n, hn, hvalue⟩ := ih hliterals (hfits.of_subset parts_subset_neg)
      (hshifts.of_subset parts_subset_neg)
    refine ⟨-n, .neg hn, ?_⟩
    rw [value?, hvalue, Option.map_some, Option.filter_some, if_pos (hfits.fits (.neg hn))]
  | complement operand ih =>
    obtain ⟨n, hn, hvalue⟩ := ih hliterals (hfits.of_subset parts_subset_complement)
      (hshifts.of_subset parts_subset_complement)
    refine ⟨-n - 1, .complement hn, ?_⟩
    rw [value?, hvalue, Option.map_some]
  | shift operand amount ihoperand ihamount =>
    obtain ⟨hoperand, hamount⟩ := @parts_subset_shift operand amount
    obtain ⟨n, hn, hvalue⟩ := ihoperand (fun word h => hliterals word (List.mem_append_left _ h))
      (hfits.of_subset hoperand) (hshifts.of_subset hoperand)
    obtain ⟨k, hk, hcount⟩ := ihamount (fun word h => hliterals word (List.mem_append_right _ h))
      (hfits.of_subset hamount) (hshifts.of_subset hamount)
    have hrange := hshifts operand amount (mem_parts_self _) k hk
    obtain ⟨k, rfl⟩ := Int.eq_ofNat_of_zero_le hrange.1
    refine ⟨n * 2 ^ k, .shift hn hk, ?_⟩
    rw [value?, hvalue, hcount]
    simp only [Option.bind_eq_bind, Option.bind_some, if_pos hrange, Int.toNat_natCast,
      shiftBits_eq_mul (hfits.fits (.shift hn hk))]
  | or left right ihleft ihright =>
    obtain ⟨hleft, hright⟩ := @parts_subset_or left right
    obtain ⟨m, hm, hvalue⟩ := ihleft (fun word h => hliterals word (List.mem_append_left _ h))
      (hfits.of_subset hleft) (hshifts.of_subset hleft)
    obtain ⟨n, hn, hother⟩ := ihright (fun word h => hliterals word (List.mem_append_right _ h))
      (hfits.of_subset hright) (hshifts.of_subset hright)
    refine ⟨m.lor n, .or hm hn, ?_⟩
    rw [value?, hvalue, hother]
    simp only [Option.bind_eq_bind, Option.bind_some,
      orBits_eq_lor ((hfits.of_subset hleft).fits hm) ((hfits.of_subset hright).fits hn)]

/-- What is computed for an expression whose parts fit is its only value. -/
theorem HasValue.eq_of_value? (h : e.HasValue n) (hfits : e.Fits) (hvalue : e.value? = some v) :
    n = v := by
  induction h generalizing v with
  | literal hn =>
    rw [value?, literalValue?_eq hn (hfits.fits (.literal hn))] at hvalue
    exact Option.some.inj hvalue
  | neg hn ih =>
    obtain ⟨hmap, -⟩ := Option.filter_eq_some_iff.mp hvalue
    obtain ⟨w, hw, rfl⟩ := Option.map_eq_some_iff.mp hmap
    rw [ih (hfits.of_subset parts_subset_neg) hw]
  | complement hn ih =>
    obtain ⟨w, hw, rfl⟩ := Option.map_eq_some_iff.mp hvalue
    rw [ih (hfits.of_subset parts_subset_complement) hw]
  | @shift operand amount n k hn hk ihn ihk =>
    obtain ⟨hoperand, hamount⟩ := @parts_subset_shift operand amount
    obtain ⟨w, hw, hrest⟩ := Option.bind_eq_some_iff.mp hvalue
    obtain ⟨j, hj, hrest⟩ := Option.bind_eq_some_iff.mp hrest
    obtain ⟨-, hshift⟩ := Option.ite_none_right_eq_some.mp hrest
    rw [← Option.some.inj hshift, ← ihn (hfits.of_subset hoperand) hw,
      ← ihk (hfits.of_subset hamount) hj, Int.toNat_natCast,
      shiftBits_eq_mul (hfits.fits (.shift hn hk))]
  | @or left right m n hm hn ihm ihn =>
    obtain ⟨hleft, hright⟩ := @parts_subset_or left right
    obtain ⟨a, ha, hrest⟩ := Option.bind_eq_some_iff.mp hvalue
    obtain ⟨b, hb, hor⟩ := Option.bind_eq_some_iff.mp hrest
    rw [← Option.some.inj hor, ← ihm (hfits.of_subset hleft) ha,
      ← ihn (hfits.of_subset hright) hb,
      orBits_eq_lor ((hfits.of_subset hleft).fits hm) ((hfits.of_subset hright).fits hn)]

/-- An expression has no value if a part has none. -/
theorem value?_eq_none_of_part (hpart : part ∈ e.parts) (h : part.value? = none) :
    e.value? = none := by
  induction e with
  | literal word =>
    rw [List.mem_singleton.mp hpart] at h
    exact h
  | neg operand ih =>
    rcases List.mem_cons.mp hpart with rfl | hpart
    · exact h
    · rw [value?, ih hpart]
      rfl
  | complement operand ih =>
    rcases List.mem_cons.mp hpart with rfl | hpart
    · exact h
    · rw [value?, ih hpart]
      rfl
  | shift operand amount ihoperand ihamount =>
    rcases List.mem_cons.mp hpart with rfl | hpart
    · exact h
    · rcases List.mem_append.mp hpart with hpart | hpart
      · rw [value?, ihoperand hpart]
        rfl
      · rw [value?, ihamount hpart]
        cases operand.value? <;> rfl
  | or left right ihleft ihright =>
    rcases List.mem_cons.mp hpart with rfl | hpart
    · exact h
    · rcases List.mem_append.mp hpart with hpart | hpart
      · rw [value?, ihleft hpart]
        rfl
      · rw [value?, ihright hpart]
        cases left.value? <;> rfl

/-- A shift by an amount out of range has no value. -/
theorem value?_shift_eq_none {operand amount : Expr} {k : Int} (hfits : amount.Fits)
    (hk : amount.HasValue k) (hrange : ¬ (0 ≤ k ∧ k < 64)) :
    (Expr.shift operand amount).value? = none := by
  rw [Option.eq_none_iff_forall_ne_some]
  intro v hvalue
  obtain ⟨w, hw, hrest⟩ := Option.bind_eq_some_iff.mp hvalue
  obtain ⟨j, hj, hrest⟩ := Option.bind_eq_some_iff.mp hrest
  obtain ⟨hj', -⟩ := Option.ite_none_right_eq_some.mp hrest
  rw [hk.eq_of_value? hfits hj] at hrange
  exact hrange hj'

/-- The literals of an expression that has a value are literals of C. -/
theorem exists_isLiteral_of_value? (h : e.value? = some v) :
    ∀ word ∈ e.literals, ∃ n, IsLiteral word n := by
  induction e generalizing v with
  | literal word =>
    intro other hother
    rw [List.mem_singleton.mp hother]
    obtain ⟨hmap, -⟩ := Option.filter_eq_some_iff.mp h
    obtain ⟨n, hn, -⟩ := Option.map_eq_some_iff.mp hmap
    exact ⟨n, literalNumber?_eq_some_iff.mp hn⟩
  | neg operand ih =>
    obtain ⟨hmap, -⟩ := Option.filter_eq_some_iff.mp h
    obtain ⟨w, hw, -⟩ := Option.map_eq_some_iff.mp hmap
    exact ih hw
  | complement operand ih =>
    obtain ⟨w, hw, -⟩ := Option.map_eq_some_iff.mp h
    exact ih hw
  | shift operand amount ihoperand ihamount =>
    obtain ⟨w, hw, hrest⟩ := Option.bind_eq_some_iff.mp h
    obtain ⟨j, hj, -⟩ := Option.bind_eq_some_iff.mp hrest
    exact fun word hword => (List.mem_append.mp hword).elim (ihoperand hw word) (ihamount hj word)
  | or left right ihleft ihright =>
    obtain ⟨w, hw, hrest⟩ := Option.bind_eq_some_iff.mp h
    obtain ⟨j, hj, -⟩ := Option.bind_eq_some_iff.mp hrest
    exact fun word hword => (List.mem_append.mp hword).elim (ihleft hw word) (ihright hj word)

theorem hasValue_literal_iff {word : List Char} {m : Nat} (h : literalNumber? word = some m) :
    (Expr.literal word).HasValue n ↔ n = m := by
  constructor
  · rintro ⟨hn⟩
    rw [literalNumber?_eq_some_iff.mpr hn] at h
    rw [Option.some.inj h]
  · rintro rfl
    exact .literal (literalNumber?_eq_some_iff.mp h)

@[simp] theorem hasValue_neg_iff : (Expr.neg e).HasValue n ↔ ∃ m, e.HasValue m ∧ n = -m := by
  constructor
  · intro h
    cases h with
    | neg hm => exact ⟨_, hm, rfl⟩
  · rintro ⟨m, hm, rfl⟩
    exact .neg hm

@[simp] theorem hasValue_shift_iff :
    (Expr.shift left right).HasValue n
      ↔ ∃ m, left.HasValue m ∧ ∃ k, right.HasValue k ∧ 0 ≤ k ∧ n = m * 2 ^ k.toNat := by
  constructor
  · intro h
    cases h with
    | shift hm hk => exact ⟨_, hm, _, hk, Int.natCast_nonneg _, by rw [Int.toNat_natCast]⟩
  · rintro ⟨m, hm, k, hk, hnonneg, rfl⟩
    rw [← Int.toNat_of_nonneg hnonneg] at hk
    exact .shift hm hk

@[simp] theorem hasValue_or_iff :
    (Expr.or left right).HasValue n
      ↔ ∃ a, left.HasValue a ∧ ∃ b, right.HasValue b ∧ n = a.lor b := by
  constructor
  · intro h
    cases h with
    | or ha hb => exact ⟨_, ha, _, hb, rfl⟩
  · rintro ⟨a, ha, b, hb, rfl⟩
    exact .or ha hb

end Expr

/-- The text is the expression, written by the grammar with literals of C. -/
def IsWrittenAs (text : String) (e : Expr) : Prop :=
  ∃ tokens, IsSpelledAs text tokens ∧ Phrase .joined tokens e
    ∧ ∀ word ∈ e.literals, ∃ n, IsLiteral word n

theorem isWrittenAs_iff {text : String} {e : Expr} :
    IsWrittenAs text e
      ↔ Expr.ofText? text = some e ∧ ∀ word ∈ e.literals, ∃ n, IsLiteral word n := by
  rw [Expr.ofText?, Option.bind_eq_some_iff]
  simp only [tokens?_eq_some_iff, ofTokens?_eq_some_iff, IsWrittenAs]
  constructor
  · rintro ⟨tokens, htext, hphrase, hliterals⟩
    exact ⟨⟨tokens, htext, hphrase⟩, hliterals⟩
  · rintro ⟨⟨tokens, htext, hphrase⟩, hliterals⟩
    exact ⟨tokens, htext, hphrase, hliterals⟩

theorem isSome_literalNumber?_iff {word : List Char} :
    (literalNumber? word).isSome = true ↔ ∃ n, IsLiteral word n := by
  simp only [Option.isSome_iff_exists, literalNumber?_eq_some_iff]

/-- The value of a text that is an expression whose parts fit 128 bits, with all shifts in range,
is the exact value. A text with a shift out of range has no value, nor has one that is no
expression. -/
theorem integerOfText?_meaning (text : String) :
    (∀ e, IsWrittenAs text e → e.Fits → e.ShiftsInRange →
      ∃ v, (∀ n, e.HasValue n ↔ n = v) ∧ integerOfText? text = some v)
    ∧ (∀ e operand amount k, IsWrittenAs text e → .shift operand amount ∈ e.parts →
      amount.Fits → amount.HasValue k → ¬ (0 ≤ k ∧ k < 64) → integerOfText? text = none)
    ∧ ((¬ ∃ e, IsWrittenAs text e) → integerOfText? text = none) := by
  refine ⟨fun e htext hfits hshifts => ?_, fun e operand amount k htext hpart hfits hk hrange => ?_,
    fun htext => ?_⟩
  · obtain ⟨hread, hliterals⟩ := isWrittenAs_iff.mp htext
    obtain ⟨v, hv, hvalue⟩ := Expr.exists_value hliterals hfits hshifts
    refine ⟨v, fun n => ⟨fun hn => hn.eq_of_value? hfits hvalue, fun hn => hn ▸ hv⟩, ?_⟩
    rw [integerOfText?, hread, Option.bind_some, hvalue]
  · rw [integerOfText?, (isWrittenAs_iff.mp htext).1, Option.bind_some]
    exact Expr.value?_eq_none_of_part hpart (Expr.value?_shift_eq_none hfits hk hrange)
  · rw [Option.eq_none_iff_forall_ne_some]
    intro v hvalue
    obtain ⟨e, hread, hvalue⟩ := Option.bind_eq_some_iff.mp hvalue
    exact htext ⟨e, isWrittenAs_iff.mpr ⟨hread, Expr.exists_isLiteral_of_value? hvalue⟩⟩

def maskExpr : Expr :=
  .neg (.or (.shift (.literal ['1']) (.literal ['3'])) (.literal ['0', 'x', '1', 'F', 'u', 'l']))

theorem maskExpr_isWrittenAs : IsWrittenAs "\u2003( ns::Type ) -(1 << 3|0x1Ful)\n" maskExpr :=
  isWrittenAs_iff.mpr ⟨by decide +kernel, fun word hword =>
    isSome_literalNumber?_iff.mp (by decide +revert)⟩

theorem hasValue_one_iff {n : Int} : (Expr.literal ['1']).HasValue n ↔ n = 1 :=
  Expr.hasValue_literal_iff (m := 1) (by decide)

theorem hasValue_three_iff {n : Int} : (Expr.literal ['3']).HasValue n ↔ n = 3 :=
  Expr.hasValue_literal_iff (m := 3) (by decide)

theorem maskExpr_shiftsInRange : maskExpr.ShiftsInRange := by
  intro operand amount hpart k hk
  have hamount : amount = .literal ['3'] := by
    simp only [maskExpr, Expr.parts, List.mem_cons, List.mem_append, List.not_mem_nil, or_false,
      reduceCtorEq, false_or, Expr.shift.injEq] at hpart
    exact hpart.2
  rw [hamount, hasValue_three_iff] at hk
  rw [hk]
  decide

theorem maskExpr_values : maskExpr.Fits ∧ ∀ n, maskExpr.HasValue n ↔ n = -31 := by
  have hhex : ∀ n, (Expr.literal ['0', 'x', '1', 'F', 'u', 'l']).HasValue n ↔ n = 31 := fun n =>
    Expr.hasValue_literal_iff (m := 31) (by decide)
  have hshift : ∀ n, (Expr.shift (.literal ['1']) (.literal ['3'])).HasValue n ↔ n = 8 := by
    simp [hasValue_one_iff, hasValue_three_iff]
  have hor : ∀ n, (Expr.or (.shift (.literal ['1']) (.literal ['3']))
      (.literal ['0', 'x', '1', 'F', 'u', 'l'])).HasValue n ↔ n = 31 := by
    simp [hshift, hhex, show Int.lor 8 31 = 31 by decide]
  have hmask : ∀ n, maskExpr.HasValue n ↔ n = -31 := by
    simp [maskExpr, hor]
  refine ⟨fun part hpart n hn => ?_, hmask⟩
  simp only [maskExpr, Expr.parts, List.mem_cons, List.mem_append, List.not_mem_nil, or_false]
    at hpart
  rcases hpart with rfl | rfl | (rfl | rfl | rfl) | rfl
  · rw [(hmask n).mp hn]
    decide
  · rw [(hor n).mp hn]
    decide
  · rw [(hshift n).mp hn]
    decide
  · rw [hasValue_one_iff.mp hn]
    decide
  · rw [hasValue_three_iff.mp hn]
    decide
  · rw [(hhex n).mp hn]
    decide

/-- The text of a shift by 64, and a cast of what is no octal literal, have no value. -/
theorem integerOfText?_meaning_mask :
    IsWrittenAs "\u2003( ns::Type ) -(1 << 3|0x1Ful)\n" maskExpr
      ∧ maskExpr.Fits ∧ maskExpr.ShiftsInRange
      ∧ integerOfText? "\u2003( ns::Type ) -(1 << 3|0x1Ful)\n" = some (-31)
      ∧ IsWrittenAs "1 << 0100" (.shift (.literal ['1']) (.literal ['0', '1', '0', '0']))
      ∧ integerOfText? "1 << 0100" = none
      ∧ (¬ ∃ e, IsWrittenAs "(ns::Type) 08" e)
      ∧ integerOfText? "(ns::Type) 08" = none := by
  obtain ⟨hfits, hvalues⟩ := maskExpr_values
  obtain ⟨v, hv, hread⟩ := (integerOfText?_meaning _).1 maskExpr maskExpr_isWrittenAs hfits
    maskExpr_shiftsInRange
  rw [← (hv (-31)).mp ((hvalues (-31)).mpr rfl)] at hread
  have hfar : IsWrittenAs "1 << 0100" (.shift (.literal ['1']) (.literal ['0', '1', '0', '0'])) :=
    isWrittenAs_iff.mpr ⟨by decide +kernel, fun word hword =>
      isSome_literalNumber?_iff.mp (by decide +revert)⟩
  have hamount : ∀ n, (Expr.literal ['0', '1', '0', '0']).HasValue n ↔ n = 64 := fun n =>
    Expr.hasValue_literal_iff (m := 64) (by decide)
  have hamountFits : (Expr.literal ['0', '1', '0', '0']).Fits := by
    intro part hpart n hn
    rw [List.mem_singleton.mp hpart, hamount] at hn
    rw [hn]
    decide
  have hoctal : ¬ ∃ e, IsWrittenAs "(ns::Type) 08" e := by
    rintro ⟨e, he⟩
    obtain ⟨hof, hliterals⟩ := isWrittenAs_iff.mp he
    have hcast : Expr.ofText? "(ns::Type) 08" = some (.literal ['0', '8']) := by decide +kernel
    rw [hcast] at hof
    cases hof
    exact absurd (isSome_literalNumber?_iff.mpr (hliterals _ (List.mem_singleton_self _)))
      (by decide)
  exact ⟨maskExpr_isWrittenAs, hfits, maskExpr_shiftsInRange, hread, hfar,
    (integerOfText?_meaning _).2.1 _ _ _ 64 hfar (Expr.mem_parts_self _) hamountFits
      ((hamount 64).mpr rfl) (by decide),
    hoctal, (integerOfText?_meaning _).2.2 hoctal⟩

end AbiBridge.Constant
