import AbiBridge.Constant.Integer
import AbiBridge.Proofs.Constant.Value
import AbiBridge.Proofs.Text.Numeral

/-!
# Literals of integer constants

An integer constant has a literal if its value is one of the type, or if it is -1 and the type
is unsigned. The literal has that value in the generated module, and as an expression of its own
it is given the same literal again.
-/

namespace AbiBridge.Primitive

/-- The number of bits of a type; pointer-sized types have 64. -/
def width : Primitive → Nat
  | bool => 1
  | u8 | i8 => 8
  | u16 | i16 => 16
  | u32 | i32 | f32 => 32
  | u64 | i64 | f64 | isize | usize => 64

/-- The number is an unsigned or a two's complement number of the width of the type. -/
def Holds (p : Primitive) (n : Int) : Prop :=
  (if p.isUnsigned then 0 else -2 ^ (p.width - 1)) ≤ n
    ∧ n < 2 ^ (if p.isUnsigned then p.width else p.width - 1)

instance (p : Primitive) (n : Int) : Decidable (p.Holds n) :=
  inferInstanceAs (Decidable (_ ∧ _))

def complement (p : Primitive) (n : Int) : Int :=
  if p.isUnsigned then 2 ^ p.width - 1 - n else -n - 1

/-- The number that digits stand for in the generated module, hexadecimal ones after `0x`. -/
def numberOf? : List Char → Option Nat
  | '0' :: 'x' :: digits => Text.numeral? 16 digits
  | digits => Text.numeral? 10 digits

/-- The value of a number, of a negated or of an inverted one as an expression of an integer
type in the generated module. What the digits stand for, with its sign, is one of the type. -/
def valueOf? (p : Primitive) (text : String) : Option Int :=
  match text.toList with
  | '-' :: cs =>
    if p.isUnsigned then none else ((numberOf? cs).map fun m => -(m : Int)).filter (p.Holds ·)
  | '!' :: cs => (((numberOf? cs).map Int.ofNat).filter (p.Holds ·)).map p.complement
  | cs => ((numberOf? cs).map Int.ofNat).filter (p.Holds ·)

variable {p : Primitive} {n : Int}

theorem Holds.fits (h : p.Holds n) : Constant.fits n = true ∧ Constant.fits (-n) = true := by
  simp only [Constant.fits_iff]
  cases p <;> simp only [Holds, isUnsigned, width] at h <;> norm_num at h ⊢ <;> omega

theorem Holds.isUnsigned_eq_false (h : p.Holds n) (hneg : n < 0) : p.isUnsigned = false := by
  cases hp : p.isUnsigned with
  | false => rfl
  | true =>
    have hnonneg := h.1
    rw [if_pos hp] at hnonneg
    omega

end AbiBridge.Primitive

namespace AbiBridge.Text

@[simp] theorem isSome_after?_iff {pattern cs : List Char} :
    (after? pattern cs).isSome = true ↔ pattern <:+: cs := by
  induction cs with
  | nil => cases pattern <;> simp [after?, List.isPrefixOf?]
  | cons c cs ih =>
    rw [after?, List.infix_cons_iff, ← ih]
    cases hfront : pattern.isPrefixOf? (c :: cs) with
    | some rest =>
      have hbegins : pattern <+: c :: cs :=
        ⟨rest, List.isPrefixOf?_eq_some_iff_append_eq.mp hfront⟩
      simp [hbegins]
    | none =>
      have hbegins : ¬ pattern <+: c :: cs := by
        rintro ⟨rest, hrest⟩
        rw [List.isPrefixOf?_eq_some_iff_append_eq.mpr hrest] at hfront
        cases hfront
      simp [hbegins]

@[simp] theorem occurs_iff {pattern text : String} :
    occurs pattern text = true ↔ pattern.toList <:+: text.toList :=
  isSome_after?_iff

theorem isDigitOf_toUpper_digitChar {d : Nat} (h : d < 16) :
    IsDigitOf 16 d.digitChar.toUpper d := by
  refine ⟨h, .inr ?_⟩
  interval_cases d <;> rfl

theorem numeral_hexDigits (n : Nat) : Numeral 16 (Constant.hexDigits n) n := by
  induction n using Nat.strongRecOn with
  | ind n ih =>
    rw [Constant.hexDigits]
    rcases Nat.lt_or_ge n 16 with hlt | hle
    · rw [Nat.toDigits_of_lt_base hlt]
      exact .digit (isDigitOf_toUpper_digitChar hlt)
    · have hlast := isDigitOf_toUpper_digitChar (Nat.mod_lt n (by decide : 0 < 16))
      have hnumeral := (ih (n / 16) (by omega)).next hlast
      rw [Nat.div_add_mod' n 16] at hnumeral
      rw [Nat.toDigits_of_base_le (by decide) hle, List.map_append]
      exact hnumeral

theorem numeral_toString (n : Nat) : Numeral 10 (toString n).toList n :=
  (numeral?_eq_some_iff (by decide)).mp (numeral?_toString n)

/-- Only the numeral of zero starts with a zero. -/
theorem head?_toDigits_ne {n : Nat} (h : 0 < n) : (Nat.toDigits 10 n).head? ≠ some '0' := by
  induction n using Nat.strongRecOn with
  | ind n ih =>
    rcases Nat.lt_or_ge n 10 with hlt | hle
    · rw [Nat.toDigits_of_lt_base hlt, List.head?_cons, ne_eq, Option.some.injEq,
        Nat.digitChar_eq_zero]
      omega
    · rw [Nat.toDigits_of_base_le (by decide) hle,
        List.head?_append_of_ne_nil _ Nat.toDigits_ne_nil]
      exact ih (n / 10) (by omega) (by omega)

end AbiBridge.Text

namespace AbiBridge.Constant

variable {p : Primitive} {hex : Bool} {m : Nat} {n v : Int} {text raw : String} {e : Expr}
  {word : List Char} {tokens : List Token} {literal : IntegerLiteral}

theorem isLiteral_toString (m : Nat) : IsLiteral (toString m).toList m := by
  have hhead : (toString m).toList = ['0'] ∨ (toString m).toList.head? ≠ some '0' := by
    rcases Nat.eq_zero_or_pos m with rfl | hpos
    · exact .inl rfl
    · rw [Nat.toString_eq_repr, Nat.toList_repr]
      exact .inr (Text.head?_toDigits_ne hpos)
  have hliteral := @IsLiteral.decimal _ [] m (Text.numeral_toString m) hhead (by simp)
  rwa [List.append_nil] at hliteral

theorem isLiteral_hexDigits (m : Nat) : IsLiteral ('0' :: 'x' :: hexDigits m) m := by
  have hliteral := @IsLiteral.hexadecimal 'x' _ [] m (.inl rfl) (Text.numeral_hexDigits m) (by simp)
  rwa [List.append_nil] at hliteral

theorem isWordChar_of_isDigitOf {base d : Nat} {c : Char} (h : Text.IsDigitOf base c d) :
    Token.IsWordChar c := by
  have hall : ∀ c ∈ "0123456789abcdef".toList ++ "0123456789ABCDEF".toList,
      c.isAlphanum = true := List.all_eq_true.mp (by decide)
  exact .inl (hall c (List.mem_append.mpr (h.2.imp List.mem_of_getElem? List.mem_of_getElem?)))

theorem isDigit_of_isDigitOf_ten {d : Nat} {c : Char} (h : Text.IsDigitOf 10 c d) :
    c.isDigit = true := by
  obtain ⟨hlt, hc⟩ := (Text.isDigitOf_iff_toNat (by decide)).mp h
  simp only [Char.isDigit, Bool.and_eq_true, decide_eq_true_eq, UInt32.le_iff_toNat_le]
  show 48 ≤ c.toNat ∧ c.toNat ≤ 57
  omega

theorem isWordChar_of_numeral {base : Nat} {digits suffix : List Char}
    (hdigits : Text.Numeral base digits m) (hsuffix : ∀ c ∈ suffix, c ∈ ['u', 'U', 'l', 'L']) :
    ∀ c ∈ digits ++ suffix, Token.IsWordChar c := by
  have hletter : ∀ c ∈ ['u', 'U', 'l', 'L'], Token.IsWordChar c := by
    simp [Token.IsWordChar]
  intro c hc
  rcases List.mem_append.mp hc with hc | hc
  · obtain ⟨d, hd⟩ := hdigits.exists_digit hc
    exact isWordChar_of_isDigitOf hd
  · exact hletter c (hsuffix c hc)

/-- A literal is one token. -/
theorem IsLiteral.wellFormed (h : IsLiteral word m) : (Token.number word).WellFormed := by
  have hzero : Token.IsWordChar '0' := .inl (by decide)
  cases h with
  | decimal hdigits _ hmarks =>
    refine ⟨isWordChar_of_numeral hdigits hmarks, ?_⟩
    obtain ⟨c, cs, rfl⟩ := List.exists_cons_of_ne_nil hdigits.ne_nil
    obtain ⟨d, hd⟩ := hdigits.exists_digit List.mem_cons_self
    exact ⟨c, rfl, isDigit_of_isDigitOf_ten hd⟩
  | octal hdigits hmarks =>
    have hchars := isWordChar_of_numeral hdigits hmarks
    exact ⟨List.forall_mem_cons.mpr ⟨hzero, hchars⟩, '0', rfl, by decide⟩
  | @hexadecimal x _ _ _ hx hdigits hmarks =>
    have hletter : Token.IsWordChar x := by
      rcases hx with rfl | rfl <;> exact .inl (by decide)
    have hchars := isWordChar_of_numeral hdigits hmarks
    exact ⟨List.forall_mem_cons.mpr ⟨hzero, List.forall_mem_cons.mpr ⟨hletter, hchars⟩⟩, '0', rfl,
      by decide⟩

theorem integerOfText?_of_spelled (hspelled : Token.Spelled tokens text.toList)
    (hphrase : Phrase .unary tokens e) : integerOfText? text = e.value? := by
  have htokens : IsSpelledAs text tokens :=
    ⟨[], text.toList, [], by simp, by simp, by simp, hspelled⟩
  rw [integerOfText?, Expr.ofText?, tokens?_eq_some_iff.mpr htokens, Option.bind_some,
    ofTokens?_eq_some_iff.mpr (.term (.unshifted hphrase)), Option.bind_some]

theorem IsLiteral.spelled (h : IsLiteral word m) : Token.Spelled [.number word] word := by
  have hspelled := @Token.Spelled.cons [] [] _ [] (by simp) h.wellFormed (by simp) .nil
  rwa [List.append_nil] at hspelled

theorem integerOfText?_of_isLiteral (h : IsLiteral text.toList m) (hfits : fits m = true) :
    integerOfText? text = some (m : Int) := by
  rw [integerOfText?_of_spelled h.spelled (.literal _), Expr.value?, Expr.literalValue?_eq h hfits]

theorem integerOfText?_of_minus (htext : text.toList = '-' :: word) (h : IsLiteral word m)
    (hfits : fits m = true) (hneg : fits (-m) = true) : integerOfText? text = some (-m : Int) := by
  have hspelled : Token.Spelled [.minus, .number word] text.toList := by
    rw [htext]
    exact @Token.Spelled.cons [] word .minus _ (by simp) trivial (by simp [Token.isWord]) h.spelled
  rw [integerOfText?_of_spelled hspelled (.neg (.literal _)), Expr.value?, Expr.value?,
    Expr.literalValue?_eq h hfits, Option.map_some, Option.filter_some, if_pos hneg]

@[simp] theorem toList_text_hex (m : Nat) :
    (IntegerLiteral.hex m).text.toList = '0' :: 'x' :: hexDigits m := by
  simp [IntegerLiteral.text]

@[simp]
theorem mentionsHex_text_hex (m : Nat) : mentionsHex (IntegerLiteral.hex m).text = true := by
  have hbegins : Text.occurs "0x" (IntegerLiteral.hex m).text = true := by
    rw [Text.occurs_iff, toList_text_hex]
    exact ⟨[], hexDigits m, rfl⟩
  rw [mentionsHex, hbegins, Bool.true_or]

@[simp] theorem mentionsHex_text_decimal (n : Int) :
    mentionsHex (IntegerLiteral.decimal n).text = false := by
  have hnone : ∀ x, Text.isNumeralChar x = false →
      Text.occurs (String.ofList ['0', x]) (toString n) = false := by
    intro x hx
    rw [Bool.eq_false_iff, ne_eq, Text.occurs_iff, String.toList_ofList]
    intro hinfix
    have hmem : x ∈ (toString n).toList := hinfix.subset (by simp)
    rw [Text.isNumeralChar_of_mem_toString hmem] at hx
    cases hx
  exact Bool.or_eq_false_iff.mpr ⟨hnone 'x' (by decide), hnone 'X' (by decide)⟩

theorem integerOfText?_text_hex (hfits : fits m = true) :
    integerOfText? (IntegerLiteral.hex m).text = some (m : Int) :=
  integerOfText?_of_isLiteral (toList_text_hex m ▸ isLiteral_hexDigits m) hfits

theorem integerOfText?_text_decimal (hfits : fits n = true) (hneg : fits (-n) = true) :
    integerOfText? (IntegerLiteral.decimal n).text = some n := by
  cases n with
  | ofNat m => exact integerOfText?_of_isLiteral (isLiteral_toString m) hfits
  | negSucc m =>
    exact integerOfText?_of_minus (Text.toList_toString_negSucc m) (isLiteral_toString (m + 1))
      hneg hfits

@[simp]
theorem numberOf?_toString (m : Nat) : Primitive.numberOf? (toString m).toList = some m := by
  rw [Primitive.numberOf?, Text.numeral?_toString]
  intro digits hdigits
  have hx : 'x' ∈ (toString m).toList := by
    rw [hdigits]
    exact List.mem_cons_of_mem _ List.mem_cons_self
  exact absurd (Text.isDigit_of_mem_toString hx) (by decide)

theorem valueOf?_text_hex (h : p.Holds m) :
    p.valueOf? (IntegerLiteral.hex m).text = some (m : Int) := by
  have hnumber : Text.numeral? 16 (hexDigits m) = some m :=
    (Text.numeral?_eq_some_iff (by decide)).mpr (Text.numeral_hexDigits m)
  simp [Primitive.valueOf?, Primitive.numberOf?, hnumber, h]

theorem valueOf?_text_decimal (h : p.Holds n) :
    p.valueOf? (IntegerLiteral.decimal n).text = some n := by
  cases n with
  | ofNat m =>
    have htext : (IntegerLiteral.decimal (.ofNat m)).text.toList = (toString m).toList := rfl
    have hdigit : ∀ c cs, (toString m).toList = c :: cs → c.isDigit = true := fun c cs heq =>
      Text.isDigit_of_mem_toString (heq ▸ List.mem_cons_self)
    rw [Primitive.valueOf?, htext]
    split
    · next heq => exact absurd (hdigit _ _ heq) (by decide)
    · next heq => exact absurd (hdigit _ _ heq) (by decide)
    · rw [numberOf?_toString, Option.map_some, Option.filter_some, if_pos (decide_eq_true h)]
  | negSucc m =>
    have htext : (IntegerLiteral.decimal (.negSucc m)).text.toList
        = '-' :: (toString (m + 1)).toList := Text.toList_toString_negSucc m
    have hsigned : ¬ p.isUnsigned = true := by
      simp [h.isUnsigned_eq_false (Int.negSucc_lt_zero m)]
    simp only [Primitive.valueOf?, htext, if_neg hsigned, numberOf?_toString]
    exact Option.filter_some.trans (if_pos (decide_eq_true h))

/-- All ones is -1 for the width of the type. -/
theorem valueOf?_text_allOnes (h : p.isUnsigned = true) :
    p.valueOf? IntegerLiteral.allOnes.text = some (-1 % 2 ^ p.width) := by
  cases p with
  | u8 | u16 | u32 | u64 | usize => decide
  | _ => cases h

theorem inBounds_iff (hp : p.isInteger = true) : inBounds p n = true ↔ p.Holds n := by
  cases p with
  | bool | f32 | f64 => cases hp
  | u8 | u16 | u32 | u64 | usize => exact Word.isUnsigned_iff
  | i8 | i16 | i32 | i64 | isize => exact Word.isSigned_iff

theorem not_holds_neg_one (h : p.isUnsigned = true) : ¬ p.Holds (-1) := by
  intro hholds
  rw [hholds.isUnsigned_eq_false (by decide)] at h
  cases h

/-- The literal of a number: the number itself, if the type holds it, or all ones. -/
theorem literalOf?_eq_some_iff (hp : p.isInteger = true) :
    literalOf? p hex n = some literal
      ↔ p.Holds n ∧ literal = (if hex = true ∧ 0 ≤ n then .hex n.toNat else .decimal n)
        ∨ (n = -1 ∧ p.isUnsigned = true) ∧ literal = .allOnes := by
  have hbool : p ≠ .bool := by
    rintro rfl
    cases hp
  by_cases hholds : p.Holds n
  · have hminus : ¬ (n = -1 ∧ p.isUnsigned = true) := by
      rintro ⟨rfl, hunsigned⟩
      exact not_holds_neg_one hunsigned hholds
    simp only [literalOf?, (inBounds_iff hp).mpr hholds, if_true, if_neg hbool, hholds, hminus,
      true_and, false_and, or_false, eq_comm (a := literal)]
    split <;> simp only [Option.some.injEq]
  · have hout : ¬ inBounds p n = true := (inBounds_iff hp).not.mpr hholds
    rw [literalOf?, if_neg hout, Option.ite_none_right_eq_some, Option.some.injEq,
      and_comm (a := p.isUnsigned = true)]
    simp only [hholds, false_and, false_or, eq_comm (a := literal)]

/-- A literal for a number that the type holds stands for that number, in the generated module
and as an expression, and the latter is given the same literal again. -/
theorem literalOf?_stable (hp : p.isInteger = true) (hholds : p.Holds n)
    (h : literalOf? p hex n = some literal) :
    p.valueOf? literal.text = some n ∧ integerOfText? literal.text = some n
      ∧ integerLiteral? p literal.text = some literal := by
  obtain ⟨-, hliteral⟩ | ⟨⟨rfl, hunsigned⟩, -⟩ := (literalOf?_eq_some_iff hp).mp h
  · obtain ⟨hfits, hneg⟩ := hholds.fits
    split at hliteral
    · next hnonneg =>
      obtain ⟨m, rfl⟩ := Int.eq_ofNat_of_zero_le hnonneg.2
      rw [Int.toNat_natCast] at hliteral
      subst hliteral
      have hvalue := integerOfText?_text_hex hfits
      refine ⟨valueOf?_text_hex hholds, hvalue, ?_⟩
      rw [integerLiteral?, hvalue, mentionsHex_text_hex, Option.bind_some,
        literalOf?_eq_some_iff hp]
      exact .inl ⟨hholds, by simp⟩
    · subst hliteral
      have hvalue := integerOfText?_text_decimal hfits hneg
      refine ⟨valueOf?_text_decimal hholds, hvalue, ?_⟩
      rw [integerLiteral?, hvalue, mentionsHex_text_decimal, Option.bind_some,
        literalOf?_eq_some_iff hp]
      exact .inl ⟨hholds, by simp⟩
  · exact absurd hholds (not_holds_neg_one hunsigned)

/-- An expression has a literal of an integer type if and only if it has a value that the type
holds, or the value -1 and the type is unsigned. The literal stands for the value, and it is an
expression with that value and with the same literal, or it is `!0`, which stands for -1 modulo
the number of values of the type. -/
theorem integerLiteral?_sound (hp : p.isInteger = true) (raw : String) :
    ((∃ literal, integerLiteral? p raw = some literal)
        ↔ ∃ v, integerOfText? raw = some v ∧ (p.Holds v ∨ v = -1 ∧ p.isUnsigned = true))
      ∧ ∀ v literal, integerOfText? raw = some v → integerLiteral? p raw = some literal →
        (p.Holds v → p.valueOf? literal.text = some v ∧ integerOfText? literal.text = some v
          ∧ integerLiteral? p literal.text = some literal)
        ∧ (v = -1 ∧ p.isUnsigned = true →
          literal.text = "!0" ∧ p.valueOf? literal.text = some (v % 2 ^ p.width)) := by
  constructor
  · simp only [integerLiteral?, Option.bind_eq_some_iff, literalOf?_eq_some_iff hp]
    constructor
    · rintro ⟨literal, v, hv, h⟩
      exact ⟨v, hv, h.imp And.left And.left⟩
    · rintro ⟨v, hv, hholds | hminus⟩
      · exact ⟨_, v, hv, .inl ⟨hholds, rfl⟩⟩
      · exact ⟨_, v, hv, .inr ⟨hminus, rfl⟩⟩
  · intro v literal hv h
    rw [integerLiteral?, hv, Option.bind_some] at h
    refine ⟨fun hholds => literalOf?_stable hp hholds h, ?_⟩
    rintro ⟨rfl, hunsigned⟩
    obtain ⟨hholds, -⟩ | ⟨-, rfl⟩ := (literalOf?_eq_some_iff hp).mp h
    · exact absurd hholds (not_holds_neg_one hunsigned)
    · exact ⟨rfl, valueOf?_text_allOnes hunsigned⟩

/-- The greatest number of 64 bits, in hexadecimal, and -1 as a number of 16 bits. -/
theorem integerLiteral?_sound_limits :
    Primitive.u64.valueOf? "0xFFFFFFFFFFFFFFFF" = some (2 ^ 64 - 1)
      ∧ integerLiteral? .u64 "0xFFFFFFFFFFFFFFFF" = some (.hex (2 ^ 64 - 1))
      ∧ Primitive.u16.valueOf? "!0" = some (-1 % 2 ^ 16) := by
  have hword := (integerLiteral?_sound (p := .u64) rfl "0xffffffffffffffffull").2
    (2 ^ 64 - 1) (.hex (2 ^ 64 - 1)) (by decide +kernel) (by decide +kernel)
  have hminus := (integerLiteral?_sound (p := .u16) rfl "(uint16)-1").2 (-1) .allOnes
    (by decide +kernel) (by decide +kernel)
  obtain ⟨hvalue, -, hstable⟩ := hword.1 (by decide)
  have htext : (IntegerLiteral.hex (2 ^ 64 - 1)).text = "0xFFFFFFFFFFFFFFFF" := by decide +kernel
  rw [htext] at hvalue hstable
  exact ⟨hvalue, hstable, (hminus.2 ⟨rfl, rfl⟩).2⟩

end AbiBridge.Constant
