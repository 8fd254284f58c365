import AbiBridge.Proofs.Constant.Value

/-!
# Values beyond 128 bits

A literal or a negation that does not fit 128 bits has no value, but a shift that does not fit
loses bits. Nothing else makes a computed value differ from the exact one, and where bits are
lost the exact value is wrapped.
-/

namespace AbiBridge.Constant

theorem wrap_eq_toInt (n : Int) : Word.wrap 128 n = (BitVec.ofInt 128 n).toInt :=
  (BitVec.toInt_ofInt n).symm

@[simp] theorem ofInt_wrap (n : Int) : BitVec.ofInt 128 (Word.wrap 128 n) = BitVec.ofInt 128 n := by
  rw [wrap_eq_toInt, BitVec.ofInt_toInt]

@[simp] theorem fits_toInt (word : BitVec 128) : fits word.toInt = true :=
  fits_iff.mpr ⟨word.le_toInt, word.toInt_lt⟩

/-- Numbers that have the same lowest bits wrap to the same one, which is itself if it fits. -/
theorem eq_wrap_of_ofInt_eq {v n : Int} (hfits : fits v = true)
    (h : BitVec.ofInt 128 v = BitVec.ofInt 128 n) : v = Word.wrap 128 n := by
  rw [wrap_eq_toInt, ← h, ← wrap_eq_toInt]
  exact (bmod_of_fits hfits).symm

theorem ofInt_shiftBits (n : Int) (amount : Nat) :
    BitVec.ofInt 128 (shiftBits n amount)
      = BitVec.ofInt 128 n * BitVec.ofInt 128 (2 ^ amount) := by
  have hcount : ((Word.count amount : Nat) : Int) = 2 ^ amount := by simp [Word.count]
  rw [shiftBits, ofInt_wrap, hcount, BitVec.ofInt_mul]

@[simp] theorem ofInt_orBits (a b : Int) :
    BitVec.ofInt 128 (orBits a b) = BitVec.ofInt 128 a ||| BitVec.ofInt 128 b := by
  rw [orBits, BitVec.ofInt_toInt]

namespace Expr

variable {e part left right : Expr} {m n v : Int}

theorem value?_literal_eq_some_iff {word : List Char} :
    (Expr.literal word).value? = some v
      ↔ ∃ n : Nat, IsLiteral word n ∧ Constant.fits n = true ∧ v = n := by
  rw [value?, literalValue?, Option.filter_eq_some_iff, Option.map_eq_some_iff]
  constructor
  · rintro ⟨⟨n, hn, rfl⟩, hfits⟩
    exact ⟨n, literalNumber?_eq_some_iff.mp hn, hfits, rfl⟩
  · rintro ⟨n, hn, hfits, rfl⟩
    exact ⟨⟨n, literalNumber?_eq_some_iff.mpr hn, rfl⟩, hfits⟩

theorem value?_neg_eq_some_iff :
    (Expr.neg e).value? = some v
      ↔ ∃ n, e.value? = some n ∧ Constant.fits (-n) = true ∧ v = -n := by
  rw [value?, Option.filter_eq_some_iff, Option.map_eq_some_iff]
  constructor
  · rintro ⟨⟨n, hn, rfl⟩, hfits⟩
    exact ⟨n, hn, hfits, rfl⟩
  · rintro ⟨n, hn, hfits, rfl⟩
    exact ⟨⟨n, hn, rfl⟩, hfits⟩

theorem value?_complement_eq_some_iff :
    (Expr.complement e).value? = some v ↔ ∃ n, e.value? = some n ∧ v = -n - 1 := by
  simp only [value?, Option.map_eq_some_iff, eq_comm (a := v)]

theorem value?_shift_eq_some_iff :
    (Expr.shift left right).value? = some v
      ↔ ∃ n, left.value? = some n ∧ ∃ k : Nat, right.value? = some (k : Int) ∧ k < 64
          ∧ v = shiftBits n k := by
  simp only [value?, Option.bind_eq_bind, Option.bind_eq_some_iff, Option.ite_none_right_eq_some,
    Option.some.injEq]
  constructor
  · rintro ⟨n, hn, k, hk, ⟨hnonneg, hlt⟩, rfl⟩
    obtain ⟨k, rfl⟩ := Int.eq_ofNat_of_zero_le hnonneg
    exact ⟨n, hn, k, hk, by omega, rfl⟩
  · rintro ⟨n, hn, k, hk, hlt, rfl⟩
    exact ⟨n, hn, k, hk, by omega, rfl⟩

theorem value?_or_eq_some_iff :
    (Expr.or left right).value? = some v
      ↔ ∃ a, left.value? = some a ∧ ∃ b, right.value? = some b ∧ v = orBits a b := by
  simp only [value?, Option.bind_eq_bind, Option.bind_eq_some_iff, Option.some.injEq,
    eq_comm (a := v)]

/-- Whatever is computed fits. -/
theorem fits_of_value? (h : e.value? = some v) : Constant.fits v = true := by
  induction e generalizing v with
  | literal word =>
    obtain ⟨n, -, hfits, rfl⟩ := value?_literal_eq_some_iff.mp h
    exact hfits
  | neg operand ih =>
    obtain ⟨n, -, hfits, rfl⟩ := value?_neg_eq_some_iff.mp h
    exact hfits
  | complement operand ih =>
    obtain ⟨n, hn, rfl⟩ := value?_complement_eq_some_iff.mp h
    have hoperand := fits_iff.mp (ih hn)
    exact fits_iff.mpr (by omega)
  | shift operand amount ihoperand ihamount =>
    obtain ⟨n, -, k, -, -, rfl⟩ := value?_shift_eq_some_iff.mp h
    rw [shiftBits, wrap_eq_toInt]
    exact fits_toInt _
  | or left right ihleft ihright =>
    obtain ⟨a, -, b, -, rfl⟩ := value?_or_eq_some_iff.mp h
    exact fits_toInt _

/-- An expression has at most one value. -/
theorem HasValue.unique (hm : e.HasValue m) (hn : e.HasValue n) : m = n := by
  induction hm generalizing n with
  | literal hword =>
    exact ((hasValue_literal_iff (literalNumber?_eq_some_iff.mpr hword)).mp hn).symm
  | neg _ ih =>
    obtain ⟨w, hw, rfl⟩ := hasValue_neg_iff.mp hn
    rw [ih hw]
  | complement _ ih =>
    cases hn with
    | complement hw => rw [ih hw]
  | shift _ _ ihoperand ihamount =>
    obtain ⟨w, hw, k, hk, -, rfl⟩ := hasValue_shift_iff.mp hn
    rw [ihoperand hw, ← ihamount hk, Int.toNat_natCast]
  | or _ _ ihleft ihright =>
    obtain ⟨a, ha, b, hb, rfl⟩ := hasValue_or_iff.mp hn
    rw [ihleft ha, ihright hb]

theorem HasValue.iff_eq (h : e.HasValue v) (n : Int) : e.HasValue n ↔ n = v :=
  ⟨fun hn => hn.unique h, fun hn => hn ▸ h⟩

/-- All parts fit if the whole does and the parts of its operands do. -/
theorem fits_of_parts (hvalue : e.HasValue v) (hfits : Constant.fits v = true)
    (hparts : ∀ part ∈ e.parts, part = e ∨ ∃ operand : Expr, operand.Fits ∧ part ∈ operand.parts) :
    e.Fits := by
  intro part hpart n hn
  rcases hparts part hpart with rfl | ⟨operand, hoperand, hpart⟩
  · rw [hn.unique hvalue]
    exact fits_iff.mp hfits
  · exact hoperand part hpart n hn

/-- A shift by an amount in range whose value does not fit, although those of its operand and
its amount do. -/
inductive LosesBits : Expr → Prop
  | shift {operand amount : Expr} {n : Int} {k : Nat} : operand.Fits → amount.Fits →
    operand.HasValue n → amount.HasValue k → k < 64 →
    ¬ (-2 ^ 127 ≤ n * 2 ^ k ∧ n * 2 ^ k < 2 ^ 127) → LosesBits (.shift operand amount)

/-- Some shift in the expression loses bits. -/
def Overflows (e : Expr) : Prop :=
  ∃ part ∈ e.parts, part.LosesBits

theorem Overflows.of_subset (h : part.Overflows) (hsub : part.parts ⊆ e.parts) : e.Overflows := by
  obtain ⟨other, hother, hloses⟩ := h
  exact ⟨other, hsub hother, hloses⟩

theorem not_overflows_literal (word : List Char) : ¬ (Expr.literal word).Overflows := by
  rintro ⟨part, hpart, hloses⟩
  rw [List.mem_singleton.mp hpart] at hloses
  cases hloses

/-- What is computed is the exact value, with all parts exact, unless a shift loses bits. -/
theorem exact_or_overflows (h : e.value? = some v) : (e.HasValue v ∧ e.Fits) ∨ e.Overflows := by
  have hfits := fits_of_value? h
  induction e generalizing v with
  | literal word =>
    obtain ⟨n, hn, -, rfl⟩ := value?_literal_eq_some_iff.mp h
    refine .inl ⟨.literal hn, fits_of_parts (.literal hn) hfits fun part hpart => ?_⟩
    exact .inl (List.mem_singleton.mp hpart)
  | neg operand ih =>
    obtain ⟨n, hn, -, rfl⟩ := value?_neg_eq_some_iff.mp h
    rcases ih hn (fits_of_value? hn) with ⟨hvalue, hparts⟩ | hoverflows
    · refine .inl ⟨.neg hvalue, fits_of_parts (.neg hvalue) hfits fun part hpart => ?_⟩
      exact (List.mem_cons.mp hpart).imp_right fun hpart => ⟨operand, hparts, hpart⟩
    · exact .inr (hoverflows.of_subset parts_subset_neg)
  | complement operand ih =>
    obtain ⟨n, hn, rfl⟩ := value?_complement_eq_some_iff.mp h
    rcases ih hn (fits_of_value? hn) with ⟨hvalue, hparts⟩ | hoverflows
    · have hcomplement := HasValue.complement hvalue
      refine .inl ⟨hcomplement, fits_of_parts hcomplement hfits fun part hpart => ?_⟩
      exact (List.mem_cons.mp hpart).imp_right fun hpart => ⟨operand, hparts, hpart⟩
    · exact .inr (hoverflows.of_subset parts_subset_complement)
  | shift operand amount ihoperand ihamount =>
    obtain ⟨hoperandParts, hamountParts⟩ := @parts_subset_shift operand amount
    obtain ⟨n, hn, k, hk, hlt, rfl⟩ := value?_shift_eq_some_iff.mp h
    rcases ihoperand hn (fits_of_value? hn) with ⟨hoperand, hoperandFits⟩ | hoverflows
    · rcases ihamount hk (fits_of_value? hk) with ⟨hamount, hamountFits⟩ | hoverflows
      · by_cases hproduct : Constant.fits (n * 2 ^ k) = true
        · rw [shiftBits_eq_mul hproduct]
          have hvalue := HasValue.shift hoperand hamount
          refine .inl ⟨hvalue, fits_of_parts hvalue hproduct fun part hpart => ?_⟩
          refine (List.mem_cons.mp hpart).imp_right fun hpart => ?_
          exact (List.mem_append.mp hpart).elim (⟨operand, hoperandFits, ·⟩)
            (⟨amount, hamountFits, ·⟩)
        · rw [fits_iff] at hproduct
          exact .inr ⟨_, mem_parts_self _,
            .shift hoperandFits hamountFits hoperand hamount hlt hproduct⟩
      · exact .inr (hoverflows.of_subset hamountParts)
    · exact .inr (hoverflows.of_subset hoperandParts)
  | or left right ihleft ihright =>
    obtain ⟨hleftParts, hrightParts⟩ := @parts_subset_or left right
    obtain ⟨a, ha, b, hb, rfl⟩ := value?_or_eq_some_iff.mp h
    rcases ihleft ha (fits_of_value? ha) with ⟨hleft, hleftFits⟩ | hoverflows
    · rcases ihright hb (fits_of_value? hb) with ⟨hright, hrightFits⟩ | hoverflows
      · rw [orBits_eq_lor (fits_of_value? ha) (fits_of_value? hb)] at hfits ⊢
        have hvalue := HasValue.or hleft hright
        refine .inl ⟨hvalue, fits_of_parts hvalue hfits fun part hpart => ?_⟩
        refine (List.mem_cons.mp hpart).imp_right fun hpart => ?_
        exact (List.mem_append.mp hpart).elim (⟨left, hleftFits, ·⟩) (⟨right, hrightFits, ·⟩)
      · exact .inr (hoverflows.of_subset hrightParts)
    · exact .inr (hoverflows.of_subset hleftParts)

/-- An expression has no value if a part in which no bits are lost does not fit. -/
theorem value?_eq_none_of_not_fits (hpart : part ∈ e.parts) (hkeeps : ¬ part.Overflows)
    (hn : part.HasValue n) (hfits : ¬ (-2 ^ 127 ≤ n ∧ n < 2 ^ 127)) : e.value? = none := by
  refine value?_eq_none_of_part hpart (Option.eq_none_iff_forall_ne_some.mpr fun v hvalue => ?_)
  rcases exact_or_overflows hvalue with ⟨-, hparts⟩ | hoverflows
  · exact hfits (hparts part (mem_parts_self part) n hn)
  · exact hkeeps hoverflows

/-- No bits are lost in the amount of a shift. -/
def KeepsAmounts (e : Expr) : Prop :=
  ∀ operand amount, .shift operand amount ∈ e.parts → ¬ amount.Overflows

theorem KeepsAmounts.of_subset (h : e.KeepsAmounts) (hsub : part.parts ⊆ e.parts) :
    part.KeepsAmounts :=
  fun operand amount hpart => h operand amount (hsub hpart)

/-- The lowest bits of what is computed are those of the exact value. -/
theorem exists_ofInt_eq (h : e.value? = some v) (hamounts : e.KeepsAmounts) :
    ∃ n, e.HasValue n ∧ BitVec.ofInt 128 v = BitVec.ofInt 128 n := by
  induction e generalizing v with
  | literal word =>
    obtain ⟨n, hn, -, rfl⟩ := value?_literal_eq_some_iff.mp h
    exact ⟨n, .literal hn, rfl⟩
  | neg operand ih =>
    obtain ⟨w, hw, -, rfl⟩ := value?_neg_eq_some_iff.mp h
    obtain ⟨n, hn, hbits⟩ := ih hw (hamounts.of_subset parts_subset_neg)
    exact ⟨-n, .neg hn, by rw [BitVec.ofInt_neg, BitVec.ofInt_neg, hbits]⟩
  | complement operand ih =>
    obtain ⟨w, hw, rfl⟩ := value?_complement_eq_some_iff.mp h
    obtain ⟨n, hn, hbits⟩ := ih hw (hamounts.of_subset parts_subset_complement)
    refine ⟨-n - 1, .complement hn, ?_⟩
    rw [Int.sub_eq_add_neg, Int.sub_eq_add_neg, BitVec.ofInt_add, BitVec.ofInt_add,
      BitVec.ofInt_neg (n := w), BitVec.ofInt_neg (n := n), hbits]
  | shift operand amount ihoperand ihamount =>
    obtain ⟨hoperandParts, hamountParts⟩ := @parts_subset_shift operand amount
    obtain ⟨w, hw, k, hk, -, rfl⟩ := value?_shift_eq_some_iff.mp h
    obtain ⟨n, hn, hbits⟩ := ihoperand hw (hamounts.of_subset hoperandParts)
    have hamount : amount.HasValue k :=
      ((exact_or_overflows hk).resolve_right (hamounts operand amount (mem_parts_self _))).1
    exact ⟨n * 2 ^ k, .shift hn hamount, by rw [ofInt_shiftBits, hbits, BitVec.ofInt_mul]⟩
  | or left right ihleft ihright =>
    obtain ⟨hleftParts, hrightParts⟩ := @parts_subset_or left right
    obtain ⟨a, ha, b, hb, rfl⟩ := value?_or_eq_some_iff.mp h
    obtain ⟨m, hm, hleft⟩ := ihleft ha (hamounts.of_subset hleftParts)
    obtain ⟨n, hn, hright⟩ := ihright hb (hamounts.of_subset hrightParts)
    exact ⟨m.lor n, .or hm hn, by rw [ofInt_orBits, ofInt_lor, hleft, hright]⟩

theorem exists_eq_wrap (h : e.value? = some v) (hamounts : e.KeepsAmounts) :
    ∃ n, e.HasValue n ∧ v = Word.wrap 128 n := by
  obtain ⟨n, hn, hbits⟩ := exists_ofInt_eq h hamounts
  exact ⟨n, hn, eq_wrap_of_ofInt_eq (fits_of_value? h) hbits⟩

end Expr

/-- The value of a text is the exact value of the expression that it is, unless a shift in it
loses bits; then it is the exact value wrapped to 128 bits, if no bits are lost in the amount of
a shift. A text has no value if a part in which no bits are lost does not fit. -/
theorem integerOfText?_exact (text : String) :
    (∀ v, integerOfText? text = some v → ∃ e, IsWrittenAs text e
      ∧ ((∀ n, e.HasValue n ↔ n = v) ∨ e.Overflows)
      ∧ (e.KeepsAmounts → ∃ n, (∀ m, e.HasValue m ↔ m = n) ∧ v = Word.wrap 128 n))
    ∧ ∀ e, IsWrittenAs text e → ∀ part ∈ e.parts, ¬ part.Overflows →
        ∀ n, part.HasValue n → ¬ (-2 ^ 127 ≤ n ∧ n < 2 ^ 127) → integerOfText? text = none := by
  constructor
  · intro v hvalue
    obtain ⟨e, hread, hvalue⟩ := Option.bind_eq_some_iff.mp hvalue
    refine ⟨e, isWrittenAs_iff.mpr ⟨hread, Expr.exists_isLiteral_of_value? hvalue⟩, ?_, ?_⟩
    · exact (Expr.exact_or_overflows hvalue).imp_left fun hexact => hexact.1.iff_eq
    · intro hamounts
      obtain ⟨n, hn, hwrap⟩ := Expr.exists_eq_wrap hvalue hamounts
      exact ⟨n, hn.iff_eq, hwrap⟩
  · intro e htext part hpart hkeeps n hn hfits
    rw [integerOfText?, (isWrittenAs_iff.mp htext).1, Option.bind_some]
    exact Expr.value?_eq_none_of_not_fits hpart hkeeps hn hfits

def shiftedExpr (amount : Char) : Expr :=
  .shift (.shift (.shift (.literal ['1']) (.literal ['6', '3'])) (.literal ['6', '3']))
    (.literal [amount])

theorem shiftedExpr_hasValue {amount : Char} {k : Nat} (h : literalNumber? [amount] = some k) :
    (shiftedExpr amount).HasValue (2 ^ (126 + k)) := by
  have hone : (Expr.literal ['1']).HasValue (1 : Nat) :=
    (Expr.hasValue_literal_iff (m := 1) (by decide)).mpr rfl
  have hmany : (Expr.literal ['6', '3']).HasValue (63 : Nat) :=
    (Expr.hasValue_literal_iff (m := 63) (by decide)).mpr rfl
  have hvalue := ((hone.shift hmany).shift hmany).shift ((Expr.hasValue_literal_iff h).mpr rfl)
  rw [pow_add]
  exact hvalue

theorem shiftedExpr_keepsAmounts (amount : Char) : (shiftedExpr amount).KeepsAmounts := by
  intro operand count hpart
  simp only [shiftedExpr, Expr.parts, List.mem_cons, List.mem_append, List.not_mem_nil, or_false,
    reduceCtorEq, Expr.shift.injEq] at hpart
  rcases hpart with ⟨-, rfl⟩ | ⟨-, rfl⟩ | ⟨-, rfl⟩ <;> exact Expr.not_overflows_literal _

/-- The least power of two that does not fit wraps as a shift, and has no value as a literal. -/
theorem integerOfText?_exact_limit :
    integerOfText? "((1 << 63) << 63) << 1" = some (Word.wrap 128 (2 ^ 127))
      ∧ integerOfText? "-170141183460469231731687303715884105728" = none := by
  have hshift : integerOfText? "((1 << 63) << 63) << 1" = some (-2 ^ 127) := by decide +kernel
  obtain ⟨e, he, -, hwrap⟩ := (integerOfText?_exact _).1 _ hshift
  have hread : Expr.ofText? "((1 << 63) << 63) << 1" = some (shiftedExpr '1') := by decide +kernel
  obtain rfl : shiftedExpr '1' = e := Option.some.inj (hread.symm.trans (isWrittenAs_iff.mp he).1)
  obtain ⟨n, hn, heq⟩ := hwrap (shiftedExpr_keepsAmounts '1')
  rw [← (hn _).mp (shiftedExpr_hasValue (k := 1) (by decide))] at heq
  have hminus : IsWrittenAs "-170141183460469231731687303715884105728"
      (.neg (.literal "170141183460469231731687303715884105728".toList)) :=
    isWrittenAs_iff.mpr ⟨by decide +kernel, fun word hword =>
      isSome_literalNumber?_iff.mp (by decide +kernel +revert)⟩
  have hliteral : (Expr.literal "170141183460469231731687303715884105728".toList).HasValue
      (2 ^ 127) :=
    (Expr.hasValue_literal_iff (m := 2 ^ 127) (by decide +kernel)).mpr rfl
  exact ⟨by rw [hshift, heq], (integerOfText?_exact _).2 _ hminus _ (by simp [Expr.parts])
    (Expr.not_overflows_literal _) _ hliteral (by decide)⟩

/-- Four times the greatest shift that fits is read as zero. -/
theorem integerOfText?_shift_lost :
    ∃ e, IsWrittenAs "((1 << 63) << 63) << 2" e ∧ (∀ n, e.HasValue n ↔ n = 2 ^ 128)
      ∧ integerOfText? "((1 << 63) << 63) << 2" = some 0 := by
  refine ⟨shiftedExpr '2', ?_, (shiftedExpr_hasValue (k := 2) (by decide)).iff_eq,
    by decide +kernel⟩
  exact isWrittenAs_iff.mpr ⟨by decide +kernel, fun word hword =>
    isSome_literalNumber?_iff.mp (by decide +revert)⟩

end AbiBridge.Constant
