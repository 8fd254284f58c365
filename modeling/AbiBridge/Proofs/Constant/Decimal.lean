import AbiBridge.Constant.Decimal
import AbiBridge.Proofs.Text.Numeral
import Mathlib.Algebra.Order.Field.Rat
import Mathlib.Data.List.TakeWhile

/-!
# Decimal numbers

A decimal number as it is written: digits with a point among them or without, and an exponent. The
texts of floating-point numbers are those of decimal numbers and three words, with a sign in front
or without, and a text is that of one decimal number only.
-/

namespace AbiBridge.Constant

structure Exponent where
  mark : Char
  sign : Option Char
  digits : List Char

/-- A decimal number as it is written: the digits in front of the point, those behind it if there
is one, and the exponent if there is one. -/
structure Decimal where
  whole : List Char
  places : Option (List Char)
  exponent : Option Exponent

def IsSign (sign : Option Char) : Prop :=
  ∀ c ∈ sign, c = '+' ∨ c = '-'

def signed {α : Type} [Neg α] (sign : Option Char) (a : α) : α :=
  if sign = some '-' then -a else a

def digitsValue (digits : List Char) : Nat :=
  Nat.ofDigitChars 10 digits 0

namespace Exponent

def chars (e : Exponent) : List Char :=
  e.mark :: (e.sign.toList ++ e.digits)

def value (e : Exponent) : ℤ :=
  signed e.sign (digitsValue e.digits)

structure WellFormed (e : Exponent) : Prop where
  mark : e.mark = 'e' ∨ e.mark = 'E'
  sign : IsSign e.sign
  digits_ne_nil : e.digits ≠ []
  isDigit : ∀ c ∈ e.digits, c.isDigit = true

end Exponent

namespace Decimal

def digits (d : Decimal) : List Char :=
  d.whole ++ d.places.getD []

/-- The point with the digits behind it, if there is one. -/
def fraction (d : Decimal) : List Char :=
  d.places.elim [] ('.' :: ·)

def power (d : Decimal) : List Char :=
  d.exponent.elim [] Exponent.chars

def chars (d : Decimal) : List Char :=
  d.whole ++ (d.fraction ++ d.power)

def value (d : Decimal) : ℚ :=
  digitsValue d.digits * 10 ^ (d.exponent.elim 0 Exponent.value - (d.places.getD []).length : ℤ)

structure WellFormed (d : Decimal) : Prop where
  digits_ne_nil : d.digits ≠ []
  isDigit : ∀ c ∈ d.digits, c.isDigit = true
  exponent : ∀ e ∈ d.exponent, e.WellFormed

end Decimal

variable {c : Char} {cs digits rest : List Char} {sign : Option Char}

theorem isDigits_iff : isDigits cs = true ↔ cs ≠ [] ∧ ∀ c ∈ cs, c.isDigit = true := by
  simp [isDigits, List.all_eq_true]

theorem takeWhile_digits (hdigits : ∀ c ∈ digits, c.isDigit = true)
    (hrest : ∀ c ∈ rest.head?, c.isDigit = false) :
    (digits ++ rest).takeWhile Char.isDigit = digits := by
  rw [List.takeWhile_append_of_pos hdigits]
  cases rest with
  | nil => simp
  | cons c rest => simp [hrest c rfl]

theorem dropWhile_digits (hdigits : ∀ c ∈ digits, c.isDigit = true)
    (hrest : ∀ c ∈ rest.head?, c.isDigit = false) :
    (digits ++ rest).dropWhile Char.isDigit = rest := by
  rw [List.dropWhile_append_of_pos hdigits]
  cases rest with
  | nil => rfl
  | cons c rest => simp [hrest c rfl]

/-- Digits in front of something else can be told from it. -/
theorem append_digits_inj {digits' rest' : List Char} (hdigits : ∀ c ∈ digits, c.isDigit = true)
    (hrest : ∀ c ∈ rest.head?, c.isDigit = false) (hdigits' : ∀ c ∈ digits', c.isDigit = true)
    (hrest' : ∀ c ∈ rest'.head?, c.isDigit = false) (h : digits ++ rest = digits' ++ rest') :
    digits = digits' ∧ rest = rest' := by
  constructor
  · rw [← takeWhile_digits hdigits hrest, h, takeWhile_digits hdigits' hrest']
  · rw [← dropWhile_digits hdigits hrest, h, dropWhile_digits hdigits' hrest']

theorem exists_sign (cs : List Char) :
    ∃ sign, IsSign sign ∧ cs = sign.toList ++ skipSign cs := by
  rw [skipSign.eq_def]
  split
  · exact ⟨some '+', by simp [IsSign], rfl⟩
  · exact ⟨some '-', by simp [IsSign], rfl⟩
  · exact ⟨none, by simp [IsSign], rfl⟩

theorem skipSign_append (hsign : IsSign sign) (hcs : ∀ c ∈ cs.head?, c ≠ '+' ∧ c ≠ '-') :
    skipSign (sign.toList ++ cs) = cs := by
  cases sign with
  | none =>
    rw [Option.toList_none, List.nil_append, skipSign.eq_def]
    split
    · exact absurd rfl (hcs '+' rfl).1
    · exact absurd rfl (hcs '-' rfl).2
    · rfl
  | some c =>
    obtain rfl | rfl := hsign c rfl <;> rfl

/-- A sign in front of something without one can be told from it. -/
theorem append_sign_inj {sign' : Option Char} {cs' : List Char} (hsign : IsSign sign)
    (hcs : ∀ c ∈ cs.head?, c ≠ '+' ∧ c ≠ '-') (hsign' : IsSign sign')
    (hcs' : ∀ c ∈ cs'.head?, c ≠ '+' ∧ c ≠ '-') (h : sign.toList ++ cs = sign'.toList ++ cs') :
    sign = sign' ∧ cs = cs' := by
  have hrest : cs = cs' := by
    rw [← skipSign_append hsign hcs, h, skipSign_append hsign' hcs']
  subst hrest
  have hsigns : sign.toList = sign'.toList := List.append_cancel_right h
  refine ⟨?_, rfl⟩
  cases sign <;> cases sign' <;> simp_all

theorem isDigit_ne_sign (h : c.isDigit = true) : c ≠ '+' ∧ c ≠ '-' := by
  constructor <;> rintro rfl <;> exact absurd h (by decide)

theorem head?_digits (h : ∀ c ∈ digits, c.isDigit = true) :
    ∀ c ∈ digits.head?, c ≠ '+' ∧ c ≠ '-' :=
  fun c hc => isDigit_ne_sign (h c (List.mem_of_mem_head? hc))

namespace Exponent

variable {e e' : Exponent}

theorem WellFormed.isDigit_mark (h : e.WellFormed) : e.mark.isDigit = false := by
  obtain hmark | hmark := h.mark <;> rw [hmark] <;> rfl

theorem WellFormed.eq (h : e.WellFormed) (h' : e'.WellFormed) (heq : e.chars = e'.chars) :
    e = e' := by
  obtain ⟨hmark, hrest⟩ := List.cons.inj heq
  obtain ⟨hsign, hdigits⟩ := append_sign_inj h.sign (head?_digits h.isDigit) h'.sign
    (head?_digits h'.isDigit) hrest
  cases e
  cases e'
  cases hmark
  cases hsign
  cases hdigits
  rfl

end Exponent

theorem isExponentPart_iff : isExponentPart cs = true
    ↔ ∃ exponent : Option Exponent, (∀ e ∈ exponent, e.WellFormed)
        ∧ cs = exponent.elim [] Exponent.chars := by
  constructor
  · intro h
    cases cs with
    | nil => exact ⟨none, by simp, rfl⟩
    | cons c cs =>
      simp only [isExponentPart, Bool.and_eq_true, Bool.or_eq_true, beq_iff_eq] at h
      obtain ⟨hmark, hdigits⟩ := h
      obtain ⟨hne, hdigits⟩ := isDigits_iff.mp hdigits
      obtain ⟨sign, hsign, hcs⟩ := exists_sign cs
      refine ⟨some ⟨c, sign, skipSign cs⟩, ?_, congrArg (c :: ·) hcs⟩
      rintro _ ⟨⟩
      exact ⟨hmark, hsign, hne, hdigits⟩
  · rintro ⟨exponent, hexponent, rfl⟩
    cases exponent with
    | none => rfl
    | some e =>
      obtain ⟨hmark, hsign, hne, hdigits⟩ := hexponent e rfl
      have hskip : skipSign (e.sign.toList ++ e.digits) = e.digits :=
        skipSign_append hsign (head?_digits hdigits)
      simp only [Option.elim_some, Exponent.chars, isExponentPart, hskip, Bool.and_eq_true,
        Bool.or_eq_true, beq_iff_eq]
      exact ⟨hmark, isDigits_iff.mpr ⟨hne, hdigits⟩⟩

namespace Decimal

variable {d d' : Decimal}

theorem WellFormed.isDigit_whole (h : d.WellFormed) : ∀ c ∈ d.whole, c.isDigit = true :=
  fun c hc => h.isDigit c (List.mem_append_left _ hc)

theorem WellFormed.isDigit_places (h : d.WellFormed) {places : List Char}
    (hplaces : d.places = some places) : ∀ c ∈ places, c.isDigit = true := by
  intro c hc
  refine h.isDigit c (List.mem_append_right _ ?_)
  rwa [hplaces, Option.getD_some]

/-- The exponent starts with its letter. -/
theorem WellFormed.head?_power (h : d.WellFormed) :
    ∀ c ∈ d.power.head?, (c = 'e' ∨ c = 'E') ∧ c.isDigit = false := by
  intro c hc
  cases hexponent : d.exponent with
  | none => simp [power, hexponent] at hc
  | some e =>
    have hformed := h.exponent e hexponent
    rw [power, hexponent] at hc
    cases hc
    exact ⟨hformed.mark, hformed.isDigit_mark⟩

/-- Behind the digits in front of the point stands a point, an exponent or nothing. -/
theorem WellFormed.head?_tail (h : d.WellFormed) :
    ∀ c ∈ (d.fraction ++ d.power).head?, (c = '.' ∨ c = 'e' ∨ c = 'E') ∧ c.isDigit = false := by
  cases hplaces : d.places with
  | none =>
    rw [fraction, hplaces]
    exact fun c hc => (h.head?_power c hc).imp_left .inr
  | some places =>
    rw [fraction, hplaces]
    rintro _ ⟨⟩
    exact ⟨.inl rfl, rfl⟩

/-- No sign belongs to the number. -/
theorem WellFormed.head?_chars (h : d.WellFormed) : ∀ c ∈ d.chars.head?, c ≠ '+' ∧ c ≠ '-' := by
  intro c hc
  cases hwhole : d.whole with
  | nil =>
    rw [chars, hwhole, List.nil_append] at hc
    obtain ⟨rfl | rfl | rfl, -⟩ := h.head?_tail c hc <;> decide
  | cons c' whole =>
    rw [chars, hwhole] at hc
    cases hc
    exact isDigit_ne_sign (h.isDigit_whole _ (by rw [hwhole]; exact List.mem_cons_self))

theorem WellFormed.mem_chars (h : d.WellFormed) (hc : c ∈ d.chars) :
    c.isDigit = true ∨ c ∈ ['.', 'e', 'E', '+', '-'] := by
  rcases List.mem_append.mp hc with hc | hc
  · exact .inl (h.isDigit_whole c hc)
  rcases List.mem_append.mp hc with hc | hc
  · cases hplaces : d.places with
    | none => simp [fraction, hplaces] at hc
    | some places =>
      simp only [fraction, hplaces, Option.elim_some, List.mem_cons] at hc
      obtain rfl | hc := hc
      · exact .inr (by decide)
      · exact .inl (h.isDigit_places hplaces c hc)
  · cases hexponent : d.exponent with
    | none => simp [power, hexponent] at hc
    | some e =>
      obtain ⟨hmark, hsign, -, hdigits⟩ := h.exponent e hexponent
      simp only [power, hexponent, Option.elim_some, Exponent.chars, List.mem_cons,
        List.mem_append, Option.mem_toList] at hc
      rcases hc with rfl | hc | hc
      · obtain hmark | hmark := hmark <;> rw [hmark] <;> exact .inr (by decide)
      · obtain rfl | rfl := hsign c hc <;> exact .inr (by decide)
      · exact .inl (hdigits c hc)

theorem WellFormed.takeWhile_chars (h : d.WellFormed) :
    d.chars.takeWhile Char.isDigit = d.whole :=
  takeWhile_digits h.isDigit_whole fun c hc => (h.head?_tail c hc).2

theorem WellFormed.dropWhile_chars (h : d.WellFormed) :
    d.chars.dropWhile Char.isDigit = d.fraction ++ d.power :=
  dropWhile_digits h.isDigit_whole fun c hc => (h.head?_tail c hc).2

/-- A point is no exponent. -/
theorem WellFormed.power_ne_point (h : d.WellFormed) (rest : List Char) :
    d.power ≠ '.' :: rest := by
  intro heq
  have hhead := (h.head?_power '.' (by rw [heq]; rfl)).1
  exact absurd hhead (by decide)

theorem WellFormed.exponent_eq (h : d.WellFormed) (h' : d'.WellFormed)
    (heq : d.power = d'.power) : d.exponent = d'.exponent := by
  rw [power, power] at heq
  cases hexponent : d.exponent with
  | none =>
    cases hexponent' : d'.exponent with
    | none => rfl
    | some e' =>
      rw [hexponent, hexponent'] at heq
      cases heq
  | some e =>
    cases hexponent' : d'.exponent with
    | none =>
      rw [hexponent, hexponent'] at heq
      cases heq
    | some e' =>
      rw [hexponent, hexponent'] at heq
      rw [(h.exponent e hexponent).eq (h'.exponent e' hexponent') heq]

/-- A text is that of one number only. -/
theorem WellFormed.eq (h : d.WellFormed) (h' : d'.WellFormed) (heq : d.chars = d'.chars) :
    d = d' := by
  have hwhole : d.whole = d'.whole := by rw [← h.takeWhile_chars, heq, h'.takeWhile_chars]
  have htail : d.fraction ++ d.power = d'.fraction ++ d'.power := by
    rw [← h.dropWhile_chars, heq, h'.dropWhile_chars]
  have hparts : d.places = d'.places ∧ d.power = d'.power := by
    rw [fraction, fraction] at htail
    cases hplaces : d.places with
    | none =>
      cases hplaces' : d'.places with
      | none => simpa [hplaces, hplaces'] using htail
      | some places' =>
        rw [hplaces, hplaces'] at htail
        exact absurd htail (h.power_ne_point _)
    | some places =>
      cases hplaces' : d'.places with
      | none =>
        rw [hplaces, hplaces'] at htail
        exact absurd htail.symm (h'.power_ne_point _)
      | some places' =>
        rw [hplaces, hplaces'] at htail
        obtain ⟨hsame, hpower⟩ := append_digits_inj (h.isDigit_places hplaces)
          (fun c hc => (h.head?_power c hc).2) (h'.isDigit_places hplaces')
          (fun c hc => (h'.head?_power c hc).2) (List.cons.inj htail).2
        exact ⟨congrArg some hsame, hpower⟩
  have hexponent := h.exponent_eq h' hparts.2
  cases d
  cases d'
  simp_all

theorem WellFormed.isDecimalNumber (h : d.WellFormed) : isDecimalNumber d.chars = true := by
  have hpower : isExponentPart d.power = true := isExponentPart_iff.mpr ⟨_, h.exponent, rfl⟩
  have hdigits := h.digits_ne_nil
  rw [Constant.isDecimalNumber, h.takeWhile_chars, h.dropWhile_chars]
  cases hplaces : d.places with
  | none =>
    have hwhole : d.whole.isEmpty = false := by
      simpa [digits, hplaces] using hdigits
    rw [fraction, hplaces, Option.elim_none, List.nil_append]
    split
    · next heq => exact absurd heq (h.power_ne_point _)
    · rw [hwhole, hpower]
      rfl
  | some places =>
    have hrest : ∀ c ∈ d.power.head?, c.isDigit = false := fun c hc => (h.head?_power c hc).2
    have hempty : (d.whole.isEmpty && places.isEmpty) = false := by
      simpa [digits, hplaces, Bool.and_eq_false_iff] using hdigits
    simp only [fraction, hplaces, Option.elim_some, List.cons_append,
      takeWhile_digits (h.isDigit_places hplaces) hrest,
      dropWhile_digits (h.isDigit_places hplaces) hrest, hempty, hpower]
    rfl

end Decimal

theorem isDecimalNumber_iff :
    isDecimalNumber cs = true ↔ ∃ d : Decimal, d.WellFormed ∧ cs = d.chars := by
  constructor
  · intro h
    have hwhole : ∀ c ∈ cs.takeWhile Char.isDigit, c.isDigit = true :=
      fun _ => List.mem_takeWhile_imp
    have hcs : cs = cs.takeWhile Char.isDigit ++ cs.dropWhile Char.isDigit :=
      List.takeWhile_append_dropWhile.symm
    simp only [isDecimalNumber] at h
    split at h
    · next rest hrest =>
      simp only [Bool.and_eq_true, Bool.not_eq_true', Bool.and_eq_false_iff] at h
      obtain ⟨hdigits, hpower⟩ := h
      obtain ⟨exponent, hexponent, hpower⟩ := isExponentPart_iff.mp hpower
      refine ⟨⟨cs.takeWhile Char.isDigit, some (rest.takeWhile Char.isDigit), exponent⟩,
        ⟨?_, ?_, hexponent⟩, ?_⟩
      · simpa [Decimal.digits, imp_iff_not_or] using hdigits
      · intro c hc
        rcases List.mem_append.mp hc with hc | hc
        · exact hwhole c hc
        · exact List.mem_takeWhile_imp hc
      · rw [hrest, ← List.takeWhile_append_dropWhile (p := Char.isDigit) (l := rest), hpower] at hcs
        exact hcs
    · simp only [Bool.and_eq_true, Bool.not_eq_true'] at h
      obtain ⟨hdigits, hpower⟩ := h
      obtain ⟨exponent, hexponent, hpower⟩ := isExponentPart_iff.mp hpower
      refine ⟨⟨cs.takeWhile Char.isDigit, none, exponent⟩, ⟨?_, ?_, hexponent⟩, ?_⟩
      · simpa [Decimal.digits] using hdigits
      · simpa [Decimal.digits] using hwhole
      · rw [hpower] at hcs
        exact hcs
  · rintro ⟨d, hd, rfl⟩
    exact hd.isDecimalNumber

end AbiBridge.Constant
