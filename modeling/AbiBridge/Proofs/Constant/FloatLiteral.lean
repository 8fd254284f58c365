import AbiBridge.Proofs.Constant.Decimal
import AbiBridge.Proofs.Constant.Literal

/-!
# Literals of floating-point constants

A floating-point constant has a literal if its text, without the suffix, is that of a number. The
literal is one of the generated module if the text has digits in front of its point, no exponent
right behind its point and no plus sign; and then both denote the same number, unless C reads the
digits as octal ones.
-/

namespace AbiBridge.Text

/-! ## Decimal and octal digits -/

variable {c : Char} {cs : List Char} {d m n : Nat}

theorem IsDigitOf.isDigit {base : Nat} (hbase : base ≤ 10) (h : IsDigitOf base c d) :
    c.isDigit = true := by
  rw [isDigitOf_iff_toNat (by omega)] at h
  simp only [Char.isDigit, Bool.and_eq_true, decide_eq_true_eq]
  constructor
  · show 48 ≤ c.toNat
    omega
  · show c.toNat ≤ 57
    omega

theorem numeral_ten_iff :
    Numeral 10 cs n ↔ cs ≠ [] ∧ (∀ c ∈ cs, c.isDigit = true) ∧ n = Constant.digitsValue cs := by
  constructor
  · intro h
    have hdigits : ∀ c ∈ cs, c.isDigit = true := fun c hc =>
      (h.exists_digit hc).elim fun _ => IsDigitOf.isDigit le_rfl
    have hread := (numeral?_eq_some_iff (by decide)).mpr h
    rw [numeral?_eq_readDigits? h.ne_nil, readDigits?_of_isDigit hdigits] at hread
    exact ⟨h.ne_nil, hdigits, (Option.some.inj hread).symm⟩
  · rintro ⟨hne, hdigits, rfl⟩
    rw [← numeral?_eq_some_iff (by decide), numeral?_eq_readDigits? hne,
      readDigits?_of_isDigit hdigits]
    rfl

/-- The digit that both bases read is the same. -/
theorem digitValue?_eight_ten {d' : Nat} (h : digitValue? 8 c = some d)
    (h' : digitValue? 10 c = some d') : d = d' := by
  rw [digitValue?_eq_some_iff (by decide), isDigitOf_iff_toNat (by decide)] at h h'
  omega

/-- Digits onto the same number or a smaller one make a smaller number if they are read as octal
ones, leading zeros aside. -/
theorem lt_of_readDigits? {a b : Nat} (hle : a ≤ b) (hlt : a < b ∨ 0 < b ∧ cs ≠ [])
    (hm : readDigits? 8 a cs = some m) (hn : readDigits? 10 b cs = some n) : m < n := by
  induction cs generalizing a b with
  | nil =>
    cases hm
    cases hn
    exact hlt.resolve_right fun h => h.2 rfl
  | cons c cs ih =>
    rw [readDigits?] at hm hn
    split at hm
    · next d hd =>
      split at hn
      · next d' hd' =>
        have hsame := digitValue?_eight_ten hd hd'
        exact ih (by omega) (.inl (by omega)) hm hn
      · cases hn
    · cases hm

theorem le_of_readDigits? (h : readDigits? 10 m cs = some n) : m ≤ n := by
  induction cs generalizing m with
  | nil => exact (Option.some.inj h).le
  | cons c cs ih =>
    rw [readDigits?] at h
    split at h
    · have hle := ih h
      omega
    · cases h

theorem digitValue?_eight_iff (h : digitValue? 10 c = some d) :
    digitValue? 8 c = some d ↔ d < 8 := by
  rw [digitValue?_eq_some_iff (by decide), isDigitOf_iff_toNat (by decide)] at h ⊢
  omega

/-- Digits are the same number in both bases if that number is below eight only. -/
theorem readDigits?_eight_iff (hcs : cs ≠ []) (h : readDigits? 10 0 cs = some n) :
    readDigits? 8 0 cs = some n ↔ n < 8 := by
  induction cs with
  | nil => exact absurd rfl hcs
  | cons c cs ih =>
    rw [readDigits?] at h
    split at h
    · next d hd =>
      rw [Nat.zero_mul, Nat.zero_add] at h
      cases cs with
      | nil =>
        cases h
        rw [readDigits?_singleton]
        simpa using digitValue?_eight_iff hd
      | cons c' cs =>
        rcases Nat.eq_zero_or_pos d with rfl | hpos
        · have hzero := (digitValue?_eight_iff hd).mpr (by decide)
          rw [readDigits?, hzero]
          exact ih (List.cons_ne_nil _ _) h
        · -- a digit in front of others makes at least ten
          have hten : 8 ≤ n := by
            rw [readDigits?] at h
            split at h
            · have hle := le_of_readDigits? h
              omega
            · cases h
          refine iff_of_false (fun height => ?_) (by omega)
          rw [readDigits?] at height
          split at height
          · next d' hd' =>
            obtain rfl := digitValue?_eight_ten hd' hd
            rw [Nat.zero_mul, Nat.zero_add] at height
            exact absurd (lt_of_readDigits? le_rfl (.inr ⟨hpos, List.cons_ne_nil _ _⟩) height h)
              (lt_irrefl n)
          · cases height
    · cases h

theorem Numeral.eight_iff (h : Numeral 10 cs n) : Numeral 8 cs n ↔ n < 8 := by
  have hread := (numeral?_eq_some_iff (by decide)).mpr h
  rw [numeral?_eq_readDigits? h.ne_nil] at hread
  rw [← numeral?_eq_some_iff (by decide), numeral?_eq_readDigits? h.ne_nil]
  exact readDigits?_eight_iff h.ne_nil hread

end AbiBridge.Text

namespace AbiBridge.Constant

variable {cs : List Char} {sign : Option Char} {d : Decimal} {q : ℚ} {raw : String}

/-! ## Texts -/

/-- The text of a floating-point constant without blanks around it and without its suffix. -/
def unsuffixed (raw : String) : List Char :=
  dropFloatSuffix (Text.trim raw.toList)

/-- The text of a floating-point number: a decimal number, or a word in letters of any case, with a
sign in front or without. -/
def IsFloatSpelling (cs : List Char) : Prop :=
  ∃ sign body, IsSign sign ∧ cs = sign.toList ++ body
    ∧ (String.ofList (body.map Char.toLower) ∈ ["inf", "infinity", "nan"]
      ∨ ∃ d : Decimal, d.WellFormed ∧ body = d.chars)

theorem isSpecialWord_cases (h : isSpecialWord cs = true) :
    cs.map Char.toLower = "inf".toList ∨ cs.map Char.toLower = "infinity".toList
      ∨ cs.map Char.toLower = "nan".toList := by
  simpa [isSpecialWord, ← String.toList_inj] using h

/-- The words have no sign. -/
theorem head?_specialWord (h : isSpecialWord cs = true) : ∀ c ∈ cs.head?, c ≠ '+' ∧ c ≠ '-' := by
  intro c hc
  cases cs with
  | nil => cases hc
  | cons c' cs =>
    cases hc
    have hfirst : c.toLower = 'i' ∨ c.toLower = 'n' := by
      rcases isSpecialWord_cases h with h | h | h
      · exact .inl (List.cons.inj h).1
      · exact .inl (List.cons.inj h).1
      · exact .inr (List.cons.inj h).1
    constructor <;> rintro rfl <;> exact absurd hfirst (by decide)

theorem toLower_of_isDigit {c : Char} (h : c.isDigit = true) : c.toLower = c := by
  have hle : c.val ≤ '9'.val := by
    simp only [Char.isDigit, Bool.and_eq_true, decide_eq_true_eq] at h
    exact h.2
  refine dif_neg fun hupper => ?_
  exact absurd (UInt32.le_trans hupper.1 hle) (by decide)

/-- Each word has a letter that no number has. -/
theorem exists_letter (h : isSpecialWord cs = true) :
    ∃ c ∈ cs, c.isDigit = false ∧ c ∉ ['.', 'e', 'E', '+', '-'] := by
  have hletter : 'n' ∈ cs.map Char.toLower := by
    rcases isSpecialWord_cases h with h | h | h <;> rw [h] <;> decide
  obtain ⟨c, hc, hlower⟩ := List.mem_map.mp hletter
  refine ⟨c, hc, ?_, ?_⟩
  · rw [Bool.eq_false_iff]
    intro hdigit
    rw [toLower_of_isDigit hdigit] at hlower
    rw [hlower] at hdigit
    exact absurd hdigit (by decide)
  · intro hmem
    simp only [List.mem_cons, List.not_mem_nil, or_false] at hmem
    rcases hmem with rfl | rfl | rfl | rfl | rfl <;> exact absurd hlower (by decide)

theorem isFloatText_iff : isFloatText cs = true ↔ IsFloatSpelling cs := by
  constructor
  · intro h
    obtain ⟨sign, hsign, hcs⟩ := exists_sign cs
    refine ⟨sign, skipSign cs, hsign, hcs, ?_⟩
    rw [isFloatText, Bool.or_eq_true, isDecimalNumber_iff] at h
    exact h.imp_left of_decide_eq_true
  · rintro ⟨sign, body, hsign, rfl, hbody⟩
    have hhead : ∀ c ∈ body.head?, c ≠ '+' ∧ c ≠ '-' := by
      rcases hbody with hword | ⟨d, hd, rfl⟩
      · exact head?_specialWord (decide_eq_true hword)
      · exact hd.head?_chars
    rw [isFloatText, skipSign_append hsign hhead, Bool.or_eq_true, isDecimalNumber_iff]
    exact hbody.imp_left (decide_eq_true ·)

/-! ## Numbers -/

/-- A sign and a number in a text can be told from each other. -/
theorem append_chars_inj {sign' : Option Char} {d' : Decimal} (hsign : IsSign sign)
    (hd : d.WellFormed) (hsign' : IsSign sign') (hd' : d'.WellFormed)
    (h : sign.toList ++ d.chars = sign'.toList ++ d'.chars) : sign = sign' ∧ d = d' := by
  obtain ⟨hsigns, hchars⟩ := append_sign_inj hsign hd.head?_chars hsign' hd'.head?_chars h
  exact ⟨hsigns, hd.eq hd' hchars⟩

theorem isFloatMark_of_isDigit {c : Char} (h : c.isDigit = true) : isFloatMark c = false := by
  rw [Bool.eq_false_iff]
  intro hmark
  simp only [isFloatMark, Bool.or_eq_true, beq_iff_eq] at hmark
  rcases hmark with (rfl | rfl) | rfl <;> exact absurd h (by decide)

namespace Decimal

/-- The number has a point or an exponent. -/
def IsFloating (d : Decimal) : Prop :=
  d.places ≠ none ∨ d.exponent ≠ none

/-- The number is a floating-point literal of the generated module: it begins with a digit, and an
exponent does not stand right behind the point. -/
structure IsLiteral (d : Decimal) : Prop where
  wellFormed : d.WellFormed
  isFloating : d.IsFloating
  whole_ne_nil : d.whole ≠ []
  point : d.places = some [] → d.exponent = none

/-- The number with a zero behind the point, if it has neither a point nor an exponent. -/
def literal (d : Decimal) : Decimal :=
  match d.places, d.exponent with
  | none, none => ⟨d.whole, some ['0'], none⟩
  | _, _ => d

theorem eq_of_not_isFloating (h : ¬ d.IsFloating) : d = ⟨d.whole, none, none⟩ := by
  obtain ⟨hplaces, hexponent⟩ := not_or.mp h
  cases d
  cases not_not.mp hplaces
  cases not_not.mp hexponent
  rfl

theorem literal_of_isFloating (h : d.IsFloating) : d.literal = d := by
  unfold literal
  split
  · next hplaces hexponent => exact absurd h (by simp [IsFloating, hplaces, hexponent])
  · rfl

@[simp] theorem chars_whole (whole : List Char) : chars ⟨whole, none, none⟩ = whole := by
  simp [chars, fraction, power]

theorem wellFormed_whole_iff {whole : List Char} : WellFormed ⟨whole, none, none⟩
    ↔ whole ≠ [] ∧ ∀ c ∈ whole, c.isDigit = true := by
  constructor
  · rintro ⟨hne, hdigits, -⟩
    exact ⟨by simpa [digits] using hne, by simpa [digits] using hdigits⟩
  · rintro ⟨hne, hdigits⟩
    exact ⟨by simpa [digits] using hne, by simpa [digits] using hdigits, by simp⟩

@[simp] theorem value_whole (whole : List Char) :
    value ⟨whole, none, none⟩ = digitsValue whole := by
  simp [value, digits]

theorem WellFormed.literal (h : d.WellFormed) : d.literal.WellFormed := by
  by_cases hfloating : d.IsFloating
  · rwa [literal_of_isFloating hfloating]
  · rw [eq_of_not_isFloating hfloating] at h ⊢
    obtain ⟨-, hdigits⟩ := wellFormed_whole_iff.mp h
    refine ⟨by simp [Decimal.literal, digits], fun c hc => ?_, by simp [Decimal.literal]⟩
    rcases List.mem_append.mp hc with hc | hc
    · exact hdigits c hc
    · obtain rfl := List.mem_singleton.mp hc
      rfl

/-- A zero behind the point adds nothing. -/
@[simp] theorem value_literal (d : Decimal) : d.literal.value = d.value := by
  by_cases hfloating : d.IsFloating
  · rw [literal_of_isFloating hfloating]
  · rw [eq_of_not_isFloating hfloating, value_whole]
    have hdigits : digitsValue (d.whole ++ ['0']) = digitsValue d.whole * 10 := by
      simp [digitsValue, Nat.ofDigitChars_append, Nat.ofDigitChars_cons, Nat.mul_comm]
    simp [Decimal.literal, value, digits, hdigits]

theorem WellFormed.isLiteral_literal_iff (h : d.WellFormed) :
    d.literal.IsLiteral ↔ d.whole ≠ [] ∧ (d.places = some [] → d.exponent = none) := by
  by_cases hfloating : d.IsFloating
  · rw [literal_of_isFloating hfloating]
    exact ⟨fun hd => ⟨hd.whole_ne_nil, hd.point⟩, fun ⟨hwhole, hpoint⟩ =>
      ⟨h, hfloating, hwhole, hpoint⟩⟩
  · rw [eq_of_not_isFloating hfloating] at h ⊢
    exact ⟨fun hd => ⟨hd.whole_ne_nil, by simp⟩, fun ⟨hwhole, _⟩ =>
      ⟨h.literal, by simp [Decimal.literal, IsFloating], hwhole, by simp [Decimal.literal]⟩⟩

theorem WellFormed.any_isFloatMark_iff (h : d.WellFormed) :
    d.chars.any isFloatMark = true ↔ d.IsFloating := by
  constructor
  · intro hmark
    by_contra hfloating
    obtain ⟨c, hc, hmark⟩ := List.any_eq_true.mp hmark
    rw [eq_of_not_isFloating hfloating, chars_whole] at hc
    rw [isFloatMark_of_isDigit (h.isDigit_whole c hc)] at hmark
    cases hmark
  · intro hfloating
    refine List.any_eq_true.mpr ?_
    rcases hfloating with hplaces | hexponent
    · obtain ⟨places, hplaces⟩ := Option.ne_none_iff_exists'.mp hplaces
      exact ⟨'.', by simp [chars, fraction, hplaces], rfl⟩
    · obtain ⟨e, hexponent⟩ := Option.ne_none_iff_exists'.mp hexponent
      refine ⟨e.mark, by simp [chars, power, hexponent, Exponent.chars], ?_⟩
      obtain hmark | hmark := (h.exponent e hexponent).mark <;> rw [hmark] <;> rfl

end Decimal

def literalChars (cs : List Char) : List Char :=
  if cs.any isFloatMark then cs else cs ++ ['.', '0']

theorem literalChars_append (hsign : IsSign sign) (hd : d.WellFormed) :
    literalChars (sign.toList ++ d.chars) = sign.toList ++ d.literal.chars := by
  have hnone : sign.toList.any isFloatMark = false := by
    cases sign with
    | none => rfl
    | some c => obtain rfl | rfl := hsign c rfl <;> rfl
  rw [literalChars, List.any_append, hnone, Bool.false_or]
  by_cases hfloating : d.IsFloating
  · rw [if_pos (hd.any_isFloatMark_iff.mpr hfloating), Decimal.literal_of_isFloating hfloating]
  · rw [if_neg (mt hd.any_isFloatMark_iff.mp hfloating), Decimal.eq_of_not_isFloating hfloating]
    simp [Decimal.literal, Decimal.chars, Decimal.fraction, Decimal.power]

theorem floatLiteral?_eq_some_iff {lit : String} : floatLiteral? raw = some lit
    ↔ IsFloatSpelling (unsuffixed raw) ∧ lit.toList = literalChars (unsuffixed raw) := by
  rw [floatLiteral?, ← isFloatText_iff, Option.ite_none_right_eq_some, Option.some.injEq,
    ← String.toList_inj, String.toList_ofList, eq_comm (a := lit.toList)]
  rfl

/-! ## What is denoted -/

/-- A floating-point literal of the generated module for the number, with a minus sign in front or
without. Underscores and a suffix for the type, which a literal can have too, are in the text of
no constant. -/
def IsFloatLiteral (cs : List Char) (q : ℚ) : Prop :=
  ∃ sign, ∃ d : Decimal, (sign = none ∨ sign = some '-') ∧ d.IsLiteral
    ∧ cs = sign.toList ++ d.chars ∧ q = signed sign d.value

/-- The constant of C for the number, which is not negative: a floating-point constant, or the
literal of an integer. -/
def IsConstant (cs : List Char) (q : ℚ) : Prop :=
  (∃ d : Decimal, d.WellFormed ∧ d.IsFloating ∧ cs = d.chars ∧ q = d.value)
    ∨ ∃ n : Nat, IsLiteral cs n ∧ q = n

def IsNumber (cs : List Char) (q : ℚ) : Prop :=
  ∃ sign body q', IsSign sign ∧ cs = sign.toList ++ body ∧ IsConstant body q' ∧ q = signed sign q'

/-- A decimal number that begins with a digit and has no exponent right behind its point, with a
minus sign in front or without. -/
def IsPlain (cs : List Char) : Prop :=
  ∃ sign, ∃ d : Decimal, (sign = none ∨ sign = some '-') ∧ d.WellFormed ∧ d.whole ≠ []
    ∧ (d.places = some [] → d.exponent = none) ∧ cs = sign.toList ++ d.chars

/-- Digits behind a zero for eight or more, with a sign in front or without: C takes them for
octal ones. -/
def IsOctal (cs : List Char) : Prop :=
  ∃ sign digits n, IsSign sign ∧ cs = sign.toList ++ '0' :: digits
    ∧ Text.Numeral 10 digits n ∧ 8 ≤ n

theorem isSign_of_eq (h : sign = none ∨ sign = some '-') : IsSign sign := by
  rcases h with rfl | rfl <;> simp [IsSign]

theorem isFloatLiteral_append_iff (hsign : IsSign sign) (hd : d.WellFormed) :
    IsFloatLiteral (sign.toList ++ d.chars) q
      ↔ (sign = none ∨ sign = some '-') ∧ d.IsLiteral ∧ q = signed sign d.value := by
  constructor
  · rintro ⟨sign', d', hsign', hd', hcs, rfl⟩
    obtain ⟨rfl, rfl⟩ := append_chars_inj hsign hd (isSign_of_eq hsign') hd'.wellFormed hcs
    exact ⟨hsign', hd', rfl⟩
  · rintro ⟨hsign', hd', rfl⟩
    exact ⟨sign, d, hsign', hd', rfl, rfl⟩

theorem isPlain_append_iff (hsign : IsSign sign) (hd : d.WellFormed) :
    IsPlain (sign.toList ++ d.chars) ↔ (sign = none ∨ sign = some '-') ∧ d.literal.IsLiteral := by
  rw [hd.isLiteral_literal_iff]
  constructor
  · rintro ⟨sign', d', hsign', hd', hwhole, hpoint, hcs⟩
    obtain ⟨rfl, rfl⟩ := append_chars_inj hsign hd (isSign_of_eq hsign') hd' hcs
    exact ⟨hsign', hwhole, hpoint⟩
  · rintro ⟨hsign', hwhole, hpoint⟩
    exact ⟨sign, d, hsign', hd, hwhole, hpoint, rfl⟩

/-- A word stands neither in a literal nor in a plain text. -/
theorem not_mem_of_exists_letter {c : Char} (hsign : IsSign sign) (hd : d.WellFormed)
    (hdigit : c.isDigit = false) (hmark : c ∉ ['.', 'e', 'E', '+', '-']) :
    c ∉ sign.toList ++ d.chars := by
  intro hc
  rcases List.mem_append.mp hc with hc | hc
  · obtain rfl | rfl := hsign c (Option.mem_toList.mp hc) <;> exact absurd hmark (by decide)
  · rcases hd.mem_chars hc with hc | hc
    · rw [hdigit] at hc
      cases hc
    · exact hmark hc

/-! ### Integers -/

theorem IsLiteral.eq {m n : Nat} (hm : IsLiteral cs m) (hn : IsLiteral cs n) : m = n := by
  rw [← literalNumber?_eq_some_iff] at hm hn
  exact Option.some.inj (hm.symm.trans hn)

theorem IsLiteral.head? {n : Nat} (h : IsLiteral cs n) : ∀ c ∈ cs.head?, c ≠ '+' ∧ c ≠ '-' := by
  cases h with
  | @decimal digits suffix n hnumeral =>
    rw [List.head?_append_of_ne_nil _ hnumeral.ne_nil]
    exact head?_digits (Text.numeral_ten_iff.mp hnumeral).2.1
  | octal =>
    rintro _ ⟨⟩
    decide
  | hexadecimal =>
    rintro _ ⟨⟩
    decide

@[simp] theorem digitsValue_zero_cons (digits : List Char) :
    digitsValue ('0' :: digits) = digitsValue digits := by
  simp [digitsValue, Nat.ofDigitChars_cons]

/-- A literal that begins with a zero and has more digits is octal. -/
theorem isLiteral_zero_cons_iff {digits : List Char} {m n : Nat}
    (h : Text.Numeral 10 ('0' :: digits) m) (hdigits : digits ≠ []) :
    IsLiteral ('0' :: digits) n ↔ Text.Numeral 8 digits n := by
  have hsame : literalDigits ('0' :: digits ++ []) = '0' :: digits :=
    literalDigits_of_numeral (by decide) [] h (by simp)
  rw [List.append_nil] at hsame
  have hdigit := (Text.numeral_ten_iff.mp h).2.1
  rw [← literalNumber?_eq_some_iff, ← Text.numeral?_eq_some_iff (by decide), literalNumber?, hsame]
  split
  · next heq =>
    cases heq
    exact absurd (hdigit 'x' (by simp)) (by decide)
  · next heq =>
    cases heq
    exact absurd (hdigit 'X' (by simp)) (by decide)
  · next heq =>
    cases heq
    rfl
  · next hlong =>
    cases digits with
    | nil => exact absurd rfl hdigits
    | cons c digits => exact absurd rfl (hlong c digits)

/-- Digits without a suffix are a literal for their number, if they are not octal. -/
theorem isLiteral_iff {m : Nat} (h : Text.Numeral 10 cs m) :
    IsLiteral cs m ↔ ¬ ∃ digits n, cs = '0' :: digits ∧ Text.Numeral 10 digits n ∧ 8 ≤ n := by
  by_cases hzero : ∃ digits, cs = '0' :: digits ∧ digits ≠ []
  · obtain ⟨digits, rfl, hne⟩ := hzero
    obtain ⟨-, hdigits, hvalue⟩ := Text.numeral_ten_iff.mp h
    rw [digitsValue_zero_cons] at hvalue
    have hrest : Text.Numeral 10 digits m :=
      Text.numeral_ten_iff.mpr ⟨hne, fun c hc => hdigits c (List.mem_cons_of_mem _ hc), hvalue⟩
    rw [isLiteral_zero_cons_iff h hne, hrest.eight_iff]
    constructor
    · rintro hlt ⟨_, n, ⟨⟩, hn, hle⟩
      have hsame : n = m := (Text.numeral_ten_iff.mp hn).2.2.trans hvalue.symm
      omega
    · intro hno
      by_contra hle
      exact hno ⟨digits, m, rfl, hrest, not_lt.mp hle⟩
  · refine iff_of_true ?_ fun ⟨digits, n, hcs, hn, _⟩ => hzero ⟨digits, hcs, hn.ne_nil⟩
    have hhead : cs = ['0'] ∨ cs.head? ≠ some '0' := by
      cases cs with
      | nil => exact absurd rfl h.ne_nil
      | cons c digits =>
        by_cases hc : c = '0'
        · subst hc
          cases digits with
          | nil => exact .inl rfl
          | cons c' digits => exact absurd ⟨c' :: digits, rfl, List.cons_ne_nil _ _⟩ hzero
        · exact .inr (by simpa using hc)
    have hdecimal : IsLiteral (cs ++ []) m := .decimal h hhead (by simp)
    rwa [List.append_nil] at hdecimal

/-! ### Decimal numbers -/

theorem isNumber_append_iff (hsign : IsSign sign) (hd : d.WellFormed) :
    IsNumber (sign.toList ++ d.chars) q ↔ ∃ q', IsConstant d.chars q' ∧ q = signed sign q' := by
  constructor
  · rintro ⟨sign', body, q', hsign', hcs, hbody, rfl⟩
    have hhead : ∀ c ∈ body.head?, c ≠ '+' ∧ c ≠ '-' := by
      rcases hbody with ⟨d', hd', -, rfl, -⟩ | ⟨n, hn, -⟩
      · exact hd'.head?_chars
      · exact hn.head?
    obtain ⟨rfl, rfl⟩ := append_sign_inj hsign hd.head?_chars hsign' hhead hcs
    exact ⟨q', hbody, rfl⟩
  · rintro ⟨q', hbody, rfl⟩
    exact ⟨sign, d.chars, q', hsign, rfl, hbody, rfl⟩

theorem not_isFloating_of_forall (hd : d.WellFormed)
    (h : ∀ c ∈ d.chars, isFloatMark c = false) : ¬ d.IsFloating := by
  intro hfloating
  obtain ⟨c, hc, hmark⟩ := List.any_eq_true.mp (hd.any_isFloatMark_iff.mpr hfloating)
  rw [h c hc] at hmark
  cases hmark

/-- No decimal number with a point or an exponent is a literal of an integer. -/
theorem IsLiteral.not_isFloating {n : Nat} (h : IsLiteral cs n) (hd : d.WellFormed)
    (hcs : cs = d.chars) : ¬ d.IsFloating := by
  have hsuffix : ∀ c ∈ ['u', 'U', 'l', 'L'], isFloatMark c = false := by
    simp [isFloatMark]
  cases h with
  | @decimal digits suffix n hnumeral _ hletters =>
    refine not_isFloating_of_forall hd fun c hc => ?_
    rcases List.mem_append.mp (hcs ▸ hc) with hc | hc
    · exact isFloatMark_of_isDigit ((Text.numeral_ten_iff.mp hnumeral).2.1 c hc)
    · exact hsuffix c (hletters c hc)
  | @octal digits suffix n hnumeral hletters =>
    refine not_isFloating_of_forall hd fun c hc => ?_
    rcases List.mem_cons.mp (hcs ▸ hc) with rfl | hc
    · rfl
    rcases List.mem_append.mp hc with hc | hc
    · obtain ⟨d', hd'⟩ := hnumeral.exists_digit hc
      exact isFloatMark_of_isDigit (hd'.isDigit (by decide))
    · exact hsuffix c (hletters c hc)
  | @hexadecimal x digits suffix n hx =>
    have hmem : x ∈ d.chars := by
      rw [← hcs]
      simp
    rcases hx with rfl | rfl <;> rcases hd.mem_chars hmem with hc | hc <;>
      exact absurd hc (by decide)

/-- What a decimal number denotes, is what it denotes in C if it is not octal. -/
theorem isConstant_iff_eq_value (hd : d.WellFormed) : (∀ q, q = d.value ↔ IsConstant d.chars q)
    ↔ ¬ ∃ digits n, d.chars = '0' :: digits ∧ Text.Numeral 10 digits n ∧ 8 ≤ n := by
  by_cases hfloating : d.IsFloating
  · refine iff_of_true (fun q => ⟨fun hq => .inl ⟨d, hd, hfloating, rfl, hq⟩, ?_⟩) ?_
    · rintro (⟨d', hd', -, hcs, rfl⟩ | ⟨n, hn, -⟩)
      · rw [hd.eq hd' hcs]
      · exact absurd hfloating (hn.not_isFloating hd rfl)
    · rintro ⟨digits, n, hcs, hn, -⟩
      refine not_isFloating_of_forall hd (fun c hc => isFloatMark_of_isDigit ?_) hfloating
      rcases List.mem_cons.mp (hcs ▸ hc) with rfl | hc
      · rfl
      · exact (Text.numeral_ten_iff.mp hn).2.1 c hc
  · have hwhole := Decimal.eq_of_not_isFloating hfloating
    rw [hwhole] at hd ⊢
    obtain ⟨hne, hdigits⟩ := Decimal.wellFormed_whole_iff.mp hd
    have hnumeral : Text.Numeral 10 d.whole (digitsValue d.whole) :=
      Text.numeral_ten_iff.mpr ⟨hne, hdigits, rfl⟩
    have hconstant : ∀ q, IsConstant d.whole q ↔ ∃ n : Nat, IsLiteral d.whole n ∧ q = n := by
      refine fun q => or_iff_right fun ⟨d', hd', hmarked, hcs, _⟩ => ?_
      have hsame := hd'.eq hd (hcs.symm.trans (Decimal.chars_whole _).symm)
      rw [hsame] at hmarked
      simp [Decimal.IsFloating] at hmarked
    rw [Decimal.chars_whole, Decimal.value_whole, ← isLiteral_iff hnumeral]
    simp only [hconstant]
    constructor
    · intro h
      obtain ⟨n, hn, heq⟩ := (h _).mp rfl
      rwa [Nat.cast_inj.mp heq]
    · rintro h q
      constructor
      · rintro rfl
        exact ⟨_, h, rfl⟩
      · rintro ⟨n, hn, rfl⟩
        rw [h.eq hn]

theorem isOctal_append_iff (hsign : IsSign sign) (hd : d.WellFormed) :
    IsOctal (sign.toList ++ d.chars)
      ↔ ∃ digits n, d.chars = '0' :: digits ∧ Text.Numeral 10 digits n ∧ 8 ≤ n := by
  constructor
  · rintro ⟨sign', digits, n, hsign', hcs, hn, hle⟩
    have hzero : ∀ c ∈ ('0' :: digits).head?, c ≠ '+' ∧ c ≠ '-' := by
      rintro _ ⟨⟩
      decide
    obtain ⟨-, hchars⟩ := append_sign_inj hsign hd.head?_chars hsign' hzero hcs
    exact ⟨digits, n, hchars, hn, hle⟩
  · rintro ⟨digits, n, hchars, hn, hle⟩
    exact ⟨sign, digits, n, hsign, by rw [hchars], hn, hle⟩

theorem signed_injective : Function.Injective (signed sign : ℚ → ℚ) := by
  intro q q' h
  unfold signed at h
  split at h
  · exact neg_injective h
  · exact h

theorem isNumber_iff_eq_value (hsign : IsSign sign) (hd : d.WellFormed) :
    (∀ q, q = signed sign d.value ↔ IsNumber (sign.toList ++ d.chars) q)
      ↔ ¬ IsOctal (sign.toList ++ d.chars) := by
  rw [isOctal_append_iff hsign hd, ← isConstant_iff_eq_value hd]
  simp only [isNumber_append_iff hsign hd]
  constructor
  · intro h q
    simpa [signed_injective.eq_iff] using h (signed sign q)
  · intro h q
    simp only [← h, exists_eq_left]

/-! ## The theorem -/

/-- A floating-point constant has a literal exactly if its text without the suffix is that of a
number. What is made of it is a literal of the generated module exactly if the text is plain, and
then the literal denotes what the text does in C exactly if the text is not octal. -/
theorem floatLiteral?_denotes (raw : String) :
    ((floatLiteral? raw).isSome = true ↔ IsFloatSpelling (unsuffixed raw))
      ∧ ∀ lit, floatLiteral? raw = some lit →
        ((∃ q, IsFloatLiteral lit.toList q) ↔ IsPlain (unsuffixed raw))
          ∧ (((∃ q, IsFloatLiteral lit.toList q)
              ∧ ∀ q, IsFloatLiteral lit.toList q ↔ IsNumber (unsuffixed raw) q)
            ↔ IsPlain (unsuffixed raw) ∧ ¬ IsOctal (unsuffixed raw)) := by
  constructor
  · simp only [Option.isSome_iff_exists, floatLiteral?_eq_some_iff, exists_and_left]
    exact and_iff_left ⟨String.ofList _, String.toList_ofList⟩
  intro lit hlit
  obtain ⟨⟨sign, body, hsign, hraw, hbody⟩, hlit⟩ := floatLiteral?_eq_some_iff.mp hlit
  rw [hraw] at hlit ⊢
  rcases hbody with hword | ⟨d, hd, rfl⟩
  · -- a word is neither plain nor, with `.0` behind it or without, a literal
    obtain ⟨c, hc, hdigit, hmark⟩ := exists_letter (decide_eq_true hword)
    have hmem : c ∈ sign.toList ++ body := List.mem_append_right _ hc
    have hplain : ¬ IsPlain (sign.toList ++ body) := by
      rintro ⟨sign', d, hsign', hd, -, -, hcs⟩
      rw [hcs] at hmem
      exact not_mem_of_exists_letter (isSign_of_eq hsign') hd hdigit hmark hmem
    have hliteral : ¬ ∃ q, IsFloatLiteral lit.toList q := by
      rintro ⟨q, sign', d, hsign', hd, hcs, -⟩
      have hkept : c ∈ lit.toList := by
        rw [hlit, literalChars]
        split
        · exact hmem
        · exact List.mem_append_left _ hmem
      rw [hcs] at hkept
      exact not_mem_of_exists_letter (isSign_of_eq hsign') hd.wellFormed hdigit hmark hkept
    exact ⟨iff_of_false hliteral hplain, iff_of_false (fun h => hliteral h.1) fun h => hplain h.1⟩
  · rw [literalChars_append hsign hd] at hlit
    have hdenotes : ∀ q, IsFloatLiteral lit.toList q
        ↔ IsPlain (sign.toList ++ d.chars) ∧ q = signed sign d.value := by
      intro q
      rw [hlit, isFloatLiteral_append_iff hsign hd.literal, Decimal.value_literal,
        isPlain_append_iff hsign hd, and_assoc]
    simp only [hdenotes, exists_and_left, exists_eq, and_true, true_and]
    refine and_congr_right fun hplain => ?_
    simp only [hplain, true_and]
    exact isNumber_iff_eq_value hsign hd

/-- A zero in front of a point does not make a text octal. -/
theorem floatLiteral?_denotes_minus : floatLiteral? " -0.5e2f" = some "-0.5e2"
    ∧ (∃ q, IsFloatLiteral "-0.5e2".toList q)
    ∧ ∀ q, IsFloatLiteral "-0.5e2".toList q ↔ IsNumber (unsuffixed " -0.5e2f") q := by
  have hlit : floatLiteral? " -0.5e2f" = some "-0.5e2" := by decide
  have hraw : unsuffixed " -0.5e2f" = "-0.5e2".toList := by decide
  refine ⟨hlit, ((floatLiteral?_denotes " -0.5e2f").2 "-0.5e2" hlit).2.mpr ⟨?_, ?_⟩⟩
  · have hformed : Decimal.WellFormed ⟨['0'], some ['5'], some ⟨'e', none, ['2']⟩⟩ := by
      refine ⟨by decide, List.all_eq_true.mp rfl, ?_⟩
      rintro _ ⟨⟩
      exact ⟨.inl rfl, by simp [IsSign], by decide, List.all_eq_true.mp rfl⟩
    exact ⟨some '-', _, .inr rfl, hformed, by decide, by decide, hraw⟩
  · rw [hraw]
    rintro ⟨sign, digits, n, hsign, hcs, hn, -⟩
    have hpoint : '.' ∈ sign.toList ++ '0' :: digits := by
      rw [← hcs]
      decide
    rcases List.mem_append.mp hpoint with hc | hc
    · exact absurd (hsign '.' (Option.mem_toList.mp hc)) (by decide)
    rcases List.mem_cons.mp hc with hc | hc
    · exact absurd hc (by decide)
    · exact absurd ((Text.numeral_ten_iff.mp hn).2.1 '.' hc) (by decide)

/-- A point without a digit in front of it is kept. -/
theorem not_forall_floatLiteral?_denotes : ¬ ∀ raw lit, floatLiteral? raw = some lit →
    ∃ q, IsFloatLiteral lit.toList q ∧ IsNumber (unsuffixed raw) q := by
  intro h
  obtain ⟨_, ⟨sign, d, hsign, hd, hcs, -⟩, -⟩ := h ".5" ".5" (by decide)
  rcases hsign with rfl | rfl
  · have hwhole := hd.wellFormed.takeWhile_chars
    rw [Option.toList_none, List.nil_append] at hcs
    rw [← hcs] at hwhole
    exact hd.whole_ne_nil hwhole.symm
  · exact absurd (List.cons.inj hcs).1 (by decide)

end AbiBridge.Constant
