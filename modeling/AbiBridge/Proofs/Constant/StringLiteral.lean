import AbiBridge.Generate.Constants
import AbiBridge.Proofs.Constant.IntegerLiteral
import Mathlib.Algebra.Ring.Parity

/-!
# Literals of string constants

A string constant has a literal if its text is put between quotes or has none, and no backslash in
it stands in front of a zero. The literal is one of the generated module if, besides, the contents
have a backslash in front of every quote, and only such escapes as the module knows.
-/

namespace AbiBridge.Constant

variable {c : Char} {cs e front back inner : List Char} {n : Option Nat} {raw lit : String}

def simpleEscapes : List (String × Nat) :=
  [("n", 10), ("r", 13), ("t", 9), ("0", 0), ("\\", 92), ("\"", 34), ("'", 39)]

def specialChars : List Char :=
  ['"', '\\', '\r', '\x00']

/-- The characters behind a backslash, and the code of the character that they stand for. A line
break stands for none. -/
inductive IsEscape : List Char → Option Nat → Prop
  | simple {text : String} {n : Nat} : (text, n) ∈ simpleEscapes → IsEscape text.toList (some n)
  | byte {a b : Char} {n : Nat} : Text.Numeral 16 [a, b] n → IsEscape ['x', a, b] (some n)
  | unicode {digits : List Char} {n : Nat} : Text.Numeral 16 (digits.filter (· != '_')) n →
      (digits.filter (· != '_')).length ≤ 6 → digits.head? ≠ some '_' → n.isValidChar →
      IsEscape ('u' :: '\x7b' :: digits ++ ['\x7d']) (some n)
  | lineBreak : IsEscape ['\n'] none
  | carriageReturn : IsEscape ['\r', '\n'] none

/-- The characters between the quotes of a C string literal of the generated module. -/
inductive IsBody : List Char → Prop
  | nil : IsBody []
  | char {c : Char} {cs : List Char} : c ∉ specialChars → IsBody cs → IsBody (c :: cs)
  | lineBreak {cs : List Char} : IsBody cs → IsBody ('\r' :: '\n' :: cs)
  | escape {e cs : List Char} {n : Option Nat} : IsEscape e n → n ≠ some 0 → IsBody cs →
      IsBody ('\\' :: e ++ cs)

/-- One C string literal of the generated module, from the first character to the last. -/
def IsCStringLiteral (cs : List Char) : Prop :=
  ∃ body, cs = 'c' :: '"' :: body ++ ['"'] ∧ IsBody body

/-- An odd number of backslashes at the end: the last one escapes what comes next. -/
def EndsInEscape (cs : List Char) : Prop :=
  Odd (cs.rtakeWhile (· == '\\')).length

theorem not_endsInEscape_nil : ¬ EndsInEscape [] := by
  simp [EndsInEscape]

@[simp] theorem endsInEscape_concat : EndsInEscape (cs ++ [c]) ↔ c = '\\' ∧ ¬ EndsInEscape cs := by
  by_cases hc : c = '\\'
  · simp [EndsInEscape, hc, Nat.odd_add_one]
  · simp [EndsInEscape, hc]

theorem not_endsInEscape_concat (hc : c ≠ '\\') : ¬ EndsInEscape (cs ++ [c]) :=
  fun h => hc (endsInEscape_concat.mp h).1

theorem endsInEscape_backslash : EndsInEscape ['\\'] :=
  (@endsInEscape_concat '\\' []).mpr ⟨rfl, not_endsInEscape_nil⟩

theorem endsInEscape_append (he : ¬ EndsInEscape e) :
    EndsInEscape (e ++ cs) ↔ EndsInEscape cs := by
  induction cs using List.reverseRecOn with
  | nil =>
    rw [List.append_nil]
    exact iff_of_false he not_endsInEscape_nil
  | append_singleton cs c ih =>
    simp [← List.append_assoc, ih]

theorem not_endsInEscape_of_notMem (h : '\\' ∉ cs) : ¬ EndsInEscape cs := by
  rcases List.eq_nil_or_concat' cs with rfl | ⟨front, c, rfl⟩
  · exact not_endsInEscape_nil
  · refine not_endsInEscape_concat ?_
    rintro rfl
    exact h (by simp)

/-- The contents of a string can be put between the quotes of a literal. A backslash escapes every
quote in them but not the one behind them, so that this is the first one that is not escaped. Every
backslash that is not escaped begins an escape for something other than a zero byte. There is no
zero byte, and no carriage return without a line feed. -/
structure IsTranslatable (cs : List Char) : Prop where
  quote : ∀ front back, cs = front ++ '"' :: back → EndsInEscape front
  closing : ¬ EndsInEscape cs
  escape : ∀ front back, cs = front ++ '\\' :: back → ¬ EndsInEscape front →
    ∃ e n rest, IsEscape e n ∧ n ≠ some 0 ∧ back = e ++ rest
  zero : '\x00' ∉ cs
  carriageReturn : ∀ front back, cs = front ++ '\r' :: back → back.head? = some '\n'

/-- A character of two texts is one of the first or of the second. -/
theorem append_eq_append_cons (h : e ++ cs = front ++ c :: back) :
    (∃ rest, e = front ++ c :: rest ∧ back = rest ++ cs)
      ∨ ∃ rest, front = e ++ rest ∧ cs = rest ++ c :: back := by
  rcases List.append_eq_append_iff.mp h with ⟨rest, hfront, hcs⟩ | ⟨rest, he, hback⟩
  · exact .inr ⟨rest, hfront, hcs⟩
  · cases rest with
    | nil => exact .inr ⟨[], by simpa using he.symm, hback.symm⟩
    | cons c' rest =>
      rw [List.cons_append, List.cons.injEq] at hback
      obtain ⟨rfl, rfl⟩ := hback
      exact .inl ⟨rest, he, rfl⟩

theorem singleton_eq_append_cons {a : Char} (h : [a] = front ++ c :: back) :
    front = [] ∧ a = c ∧ back = [] := by
  cases front <;> simp_all

namespace IsTranslatable

theorem nil : IsTranslatable [] :=
  ⟨by simp, not_endsInEscape_nil, by simp, by simp, by simp⟩

theorem of_append (h : IsTranslatable (e ++ cs)) (he : ¬ EndsInEscape e) : IsTranslatable cs := by
  refine ⟨fun front back hcs => ?_, mt (endsInEscape_append he).mpr h.closing,
    fun front back hcs hfront => ?_, fun hzero => ?_, fun front back hcs => ?_⟩
  · rw [hcs, ← List.append_assoc] at h
    exact (endsInEscape_append he).mp (h.quote _ _ rfl)
  · rw [hcs, ← List.append_assoc] at h
    exact h.escape _ _ rfl (mt (endsInEscape_append he).mp hfront)
  · exact h.zero (List.mem_append_right _ hzero)
  · rw [hcs, ← List.append_assoc] at h
    exact h.carriageReturn _ _ rfl

theorem append (h : IsTranslatable e) (hcs : IsTranslatable cs) (he : ¬ EndsInEscape e) :
    IsTranslatable (e ++ cs) := by
  refine ⟨fun front back heq => ?_, mt (endsInEscape_append he).mp hcs.closing,
    fun front back heq hfront => ?_, fun hzero => ?_, fun front back heq => ?_⟩
  · obtain ⟨rest, hfirst, -⟩ | ⟨rest, rfl, hsecond⟩ := append_eq_append_cons heq
    · exact h.quote _ _ hfirst
    · exact (endsInEscape_append he).mpr (hcs.quote _ _ hsecond)
  · obtain ⟨rest, hfirst, rfl⟩ | ⟨rest, rfl, hsecond⟩ := append_eq_append_cons heq
    · obtain ⟨e', n, rest', hescape, hn, rfl⟩ := h.escape _ _ hfirst hfront
      exact ⟨e', n, rest' ++ cs, hescape, hn, List.append_assoc _ _ _⟩
    · exact hcs.escape _ _ hsecond (mt (endsInEscape_append he).mpr hfront)
  · rcases List.mem_append.mp hzero with hzero | hzero
    · exact h.zero hzero
    · exact hcs.zero hzero
  · obtain ⟨rest, hfirst, rfl⟩ | ⟨rest, -, hsecond⟩ := append_eq_append_cons heq
    · rw [List.head?_append, h.carriageReturn _ _ hfirst]
      rfl
    · exact hcs.carriageReturn _ _ hsecond

/-- Characters that mean nothing special can stand anywhere. -/
theorem of_forall (h : ∀ c ∈ cs, c ∉ specialChars) : IsTranslatable cs := by
  have hno : ∀ c ∈ specialChars, ∀ front back, cs ≠ front ++ c :: back := by
    rintro c hc front back rfl
    exact h c (List.mem_append_right _ List.mem_cons_self) hc
  refine ⟨fun front back heq => ?_, not_endsInEscape_of_notMem fun hc => ?_,
    fun front back heq => ?_, fun hzero => ?_, fun front back heq => ?_⟩
  · exact absurd heq (hno '"' (by decide) _ _)
  · exact h '\\' hc (by decide)
  · exact absurd heq (hno '\\' (by decide) _ _)
  · exact h '\x00' hzero (by decide)
  · exact absurd heq (hno '\r' (by decide) _ _)

end IsTranslatable

theorem isDigitOf_not_special {d : Nat} (h : Text.IsDigitOf 16 c d) : c ∉ specialChars := by
  rw [Text.isDigitOf_iff_toNat (by decide)] at h
  simp only [specialChars, List.mem_cons, List.not_mem_nil, or_false]
  rintro (rfl | rfl | rfl | rfl) <;> simp at h <;> omega

namespace IsEscape

/-- Three escapes have a character that means something elsewhere. -/
theorem cases (h : IsEscape e n) : e = ['"'] ∨ e = ['\\'] ∨ e = ['\r', '\n']
    ∨ e ≠ [] ∧ ∀ c ∈ e, c ∉ specialChars := by
  cases h with
  | @simple text n hmem =>
    have hall : ∀ p ∈ simpleEscapes, p.1.toList = ['"'] ∨ p.1.toList = ['\\']
        ∨ p.1.toList ≠ [] ∧ ∀ c ∈ p.1.toList, c ∉ specialChars := by
      simp [simpleEscapes, specialChars]
    exact (hall (text, n) hmem).imp_right fun h => h.imp_right .inr
  | @byte a b n hnumeral =>
    refine .inr (.inr (.inr ⟨List.cons_ne_nil _ _, fun c hc => ?_⟩))
    rcases List.mem_cons.mp hc with rfl | hc
    · decide
    · obtain ⟨d, hd⟩ := hnumeral.exists_digit hc
      exact isDigitOf_not_special hd
  | @unicode digits n hnumeral =>
    refine .inr (.inr (.inr ⟨List.cons_ne_nil _ _, fun c hc => ?_⟩))
    simp only [List.cons_append, List.mem_cons, List.mem_append, List.not_mem_nil, or_false] at hc
    rcases hc with rfl | rfl | hc | rfl
    · decide
    · decide
    · by_cases hc' : c = '_'
      · rw [hc']
        decide
      · have hdigit : c ∈ digits.filter (· != '_') := List.mem_filter.mpr ⟨hc, by simpa using hc'⟩
        obtain ⟨d, hd⟩ := hnumeral.exists_digit hdigit
        exact isDigitOf_not_special hd
    · decide
  | lineBreak => exact .inr (.inr (.inr ⟨List.cons_ne_nil _ _, by simp [specialChars]⟩))
  | carriageReturn => exact .inr (.inr (.inl rfl))

/-- A character of an escape that means something elsewhere is the first one. -/
theorem special (h : IsEscape e n) (he : e = front ++ c :: back) (hc : c ∈ specialChars) :
    front = [] ∧ c ≠ '\x00' ∧ (c = '\r' → back = ['\n']) := by
  have hmem : c ∈ e := by rw [he]; exact List.mem_append_right _ List.mem_cons_self
  rcases h.cases with rfl | rfl | rfl | ⟨-, hall⟩
  · obtain ⟨rfl, rfl, -⟩ := singleton_eq_append_cons he
    exact ⟨rfl, by decide, fun h => absurd h (by decide)⟩
  · obtain ⟨rfl, rfl, -⟩ := singleton_eq_append_cons he
    exact ⟨rfl, by decide, fun h => absurd h (by decide)⟩
  · cases front with
    | nil =>
      obtain ⟨rfl, rfl⟩ := List.cons.inj he
      exact ⟨rfl, by decide, fun _ => rfl⟩
    | cons c' front =>
      -- the line feed means nothing elsewhere
      obtain ⟨-, rfl, -⟩ := singleton_eq_append_cons (List.cons.inj he).2
      exact absurd hc (by decide)
  · exact absurd hc (hall c hmem)

/-- What comes behind an escape is not escaped. -/
theorem not_endsInEscape (h : IsEscape e n) : ¬ EndsInEscape ('\\' :: e) := by
  rcases h.cases with rfl | rfl | rfl | ⟨hne, hall⟩
  · exact @not_endsInEscape_concat '"' ['\\'] (by decide)
  · exact fun hends => (@endsInEscape_concat '\\' ['\\']).mp hends |>.2 endsInEscape_backslash
  · exact @not_endsInEscape_concat '\n' ['\\', '\r'] (by decide)
  · obtain ⟨front, c, rfl⟩ := (List.eq_nil_or_concat' e).resolve_left hne
    refine @not_endsInEscape_concat c ('\\' :: front) ?_
    rintro rfl
    exact hall '\\' (by simp) (by decide)

theorem isTranslatable (h : IsEscape e n) (hn : n ≠ some 0) : IsTranslatable ('\\' :: e) := by
  refine ⟨fun front back heq => ?_, h.not_endsInEscape, fun front back heq hfront => ?_,
    fun hzero => ?_, fun front back heq => ?_⟩
  · cases front with
    | nil => exact absurd (List.cons.inj heq).1 (by decide)
    | cons c front =>
      obtain ⟨rfl, he⟩ := List.cons.inj heq
      obtain ⟨rfl, -⟩ := h.special he (by decide)
      exact endsInEscape_backslash
  · cases front with
    | nil => exact ⟨e, n, [], h, hn, by rw [List.append_nil]; exact (List.cons.inj heq).2.symm⟩
    | cons c front =>
      obtain ⟨rfl, he⟩ := List.cons.inj heq
      obtain ⟨rfl, -⟩ := h.special he (by decide)
      exact absurd endsInEscape_backslash hfront
  · rcases List.mem_cons.mp hzero with hzero | hzero
    · exact absurd hzero (by decide)
    · obtain ⟨front, back, he⟩ := List.append_of_mem hzero
      exact (h.special he (by decide)).2.1 rfl
  · cases front with
    | nil => exact absurd (List.cons.inj heq).1 (by decide)
    | cons c front =>
      obtain ⟨rfl, he⟩ := List.cons.inj heq
      rw [(h.special he (by decide)).2.2 rfl]
      rfl

end IsEscape

theorem isTranslatable_lineBreak : IsTranslatable ['\r', '\n'] := by
  refine ⟨fun front back heq => ?_, not_endsInEscape_of_notMem (by decide),
    fun front back heq => ?_, by decide, fun front back heq => ?_⟩
  · have hmem : '"' ∈ ['\r', '\n'] := by rw [heq]; simp
    exact absurd hmem (by decide)
  · have hmem : '\\' ∈ ['\r', '\n'] := by rw [heq]; simp
    exact absurd hmem (by decide)
  · rw [(IsEscape.carriageReturn.special heq (by decide)).2.2 rfl]
    rfl

theorem IsBody.isTranslatable (h : IsBody cs) : IsTranslatable cs := by
  induction h with
  | nil => exact .nil
  | @char c cs hc _ ih =>
    have hends : ¬ EndsInEscape [c] := by
      refine @not_endsInEscape_concat c [] ?_
      rintro rfl
      exact hc (by decide)
    have hfirst : IsTranslatable [c] := .of_forall (by simpa using hc)
    exact hfirst.append ih hends
  | lineBreak _ ih =>
    exact isTranslatable_lineBreak.append ih (@not_endsInEscape_concat '\n' ['\r'] (by decide))
  | escape he hn _ ih => exact (he.isTranslatable hn).append ih he.not_endsInEscape

theorem IsTranslatable.isBody (h : IsTranslatable cs) : IsBody cs := by
  induction hlength : cs.length using Nat.strongRecOn generalizing cs with
  | ind k ih =>
    cases cs with
    | nil => exact .nil
    | cons c cs =>
      have hrest : ∀ front rest, c :: cs = front ++ rest → front ≠ [] → ¬ EndsInEscape front →
          IsBody rest := by
        intro front rest heq hne hfront
        rw [heq] at h hlength
        rw [List.length_append] at hlength
        have hpos := List.length_pos_of_ne_nil hne
        exact ih rest.length (by omega) (h.of_append hfront) rfl
      by_cases hquote : c = '"'
      · exact absurd (h.quote [] cs (by rw [hquote]; rfl)) not_endsInEscape_nil
      by_cases hbackslash : c = '\\'
      · subst hbackslash
        obtain ⟨e, n, rest, he, hn, rfl⟩ := h.escape [] cs rfl not_endsInEscape_nil
        exact .escape he hn (hrest ('\\' :: e) rest rfl (List.cons_ne_nil _ _) he.not_endsInEscape)
      by_cases hreturn : c = '\r'
      · subst hreturn
        have hfeed := h.carriageReturn [] cs rfl
        cases cs with
        | nil => cases hfeed
        | cons c cs =>
          cases hfeed
          exact .lineBreak (hrest ['\r', '\n'] cs rfl (List.cons_ne_nil _ _)
            (@not_endsInEscape_concat '\n' ['\r'] (by decide)))
      · have hzero : c ≠ '\x00' := by
          rintro rfl
          exact h.zero List.mem_cons_self
        exact .char (by simp [specialChars, *]) (hrest [c] cs rfl (List.cons_ne_nil _ _)
          (@not_endsInEscape_concat c [] hbackslash))

theorem isCStringLiteral_iff :
    IsCStringLiteral ('c' :: '"' :: inner ++ ['"']) ↔ IsTranslatable inner := by
  constructor
  · rintro ⟨body, heq, hbody⟩
    obtain rfl : inner = body := by simpa using heq
    exact hbody.isTranslatable
  · exact fun h => ⟨inner, rfl, h.isBody⟩

/-- The contents of a string as it is written: the characters between a quote at each end, or all
of them if none is a quote. -/
def IsContents (cs inner : List Char) : Prop :=
  cs = '"' :: inner ++ ['"'] ∨ '"' ∉ cs ∧ inner = cs

@[simp] theorem unquote?_eq_some_iff : unquote? cs = some inner ↔ cs = '"' :: inner ++ ['"'] := by
  constructor
  · intro h
    unfold unquote? at h
    split at h
    · next rest =>
      split at h
      · next hrest =>
        cases h
        rw [← List.reverse_reverse rest, hrest]
        simp
      · cases h
    · cases h
  · rintro rfl
    simp [unquote?]

theorem stringContents?_eq_some_iff :
    stringContents? raw = some inner ↔ IsContents (Text.trim raw.toList) inner := by
  simp only [stringContents?, IsContents, ← unquote?_eq_some_iff]
  cases hquoted : unquote? (Text.trim raw.toList) with
  | none => simp [eq_comm]
  | some inner' =>
    have hquote : '"' ∈ Text.trim raw.toList := by
      rw [unquote?_eq_some_iff.mp hquoted]
      simp
    simp [hquote]

theorem stringLiteral?_eq_some_iff : stringLiteral? raw = some lit
    ↔ ∃ inner, IsContents (Text.trim raw.toList) inner ∧ ¬ ['\\', '0'] <:+: inner
      ∧ lit.toList = 'c' :: '"' :: inner ++ ['"'] := by
  simp only [stringLiteral?, Option.bind_eq_some_iff, stringContents?_eq_some_iff,
    Option.ite_none_left_eq_some, Text.isSome_after?_iff, Option.some.injEq, ← String.toList_inj]
  refine exists_congr fun inner => and_congr_right fun _ => and_congr_right fun _ => ?_
  rw [eq_comm]
  simp [String.toList_append]

/-- A string constant has a literal exactly if it has contents in which no backslash stands in front
of a zero, and the literal has these contents between its quotes. It is one of the generated module
exactly if the contents can be put there. A constant that has no literal is reported. -/
theorem stringLiteral?_isCStringLiteral (raw : String) :
    ((stringLiteral? raw).isSome = true
        ↔ ∃ inner, IsContents (Text.trim raw.toList) inner ∧ ¬ ['\\', '0'] <:+: inner)
      ∧ (∀ lit, stringLiteral? raw = some lit →
        ∃ inner, IsContents (Text.trim raw.toList) inner
          ∧ lit.toList = 'c' :: '"' :: inner ++ ['"']
          ∧ (IsCStringLiteral lit.toList ↔ IsTranslatable inner))
      ∧ ∀ (scope : Scope) (dropped : List String) (owner : Option String) (name type : String)
          (pointer : CType), scope.constantType dropped owner ⟨name, type, raw⟩ = .ok pointer →
        isBytePointer pointer = true →
        scope.constItem dropped owner ⟨name, type, raw⟩
          = match stringLiteral? raw with
            | some lit => .ok ⟨name, "&::core::ffi::CStr", lit⟩
            | none => .error (.untranslatableConstant name raw) := by
  refine ⟨?_, fun lit hlit => ?_, fun scope dropped owner name type pointer hpointer hbytes => ?_⟩
  · simp only [Option.isSome_iff_exists, stringLiteral?_eq_some_iff]
    constructor
    · rintro ⟨_, inner, hinner, hzero, -⟩
      exact ⟨inner, hinner, hzero⟩
    · rintro ⟨inner, hinner, hzero⟩
      exact ⟨_, inner, hinner, hzero, String.toList_ofList⟩
  · obtain ⟨inner, hinner, -, hlit⟩ := stringLiteral?_eq_some_iff.mp hlit
    refine ⟨inner, hinner, hlit, ?_⟩
    rw [hlit]
    exact isCStringLiteral_iff
  · simp only [Scope.constItem, hpointer, Scope.constantText?, hbytes, bind, Except.bind, if_true]
    cases stringLiteral? raw <;> rfl

def namesScope : Scope where
  index := .ofApi {} .empty []
  resolver := .ofOverrides .empty
  retypers := []
  boolMarker := "m_b"
  skippedConstants := []

/-- A string with an escaped quote and an escaped backslash at its end. -/
theorem stringLiteral?_isCStringLiteral_escapes :
    IsCStringLiteral "c\"\\\"a\\\\\"".toList
      ∧ namesScope.constItem [] none ⟨"k_pszName", "const char *", "\"\\\"a\\\\\""⟩
        = .ok ⟨"k_pszName", "&::core::ffi::CStr", "c\"\\\"a\\\\\""⟩ := by
  have hlit : stringLiteral? "\"\\\"a\\\\\"" = some "c\"\\\"a\\\\\"" := by decide
  have htype : (namesScope.constantType [] none
      ⟨"k_pszName", "const char *", "\"\\\"a\\\\\""⟩).toOption.any isBytePointer = true := by
    decide +kernel
  obtain ⟨-, hliterals, hitems⟩ := stringLiteral?_isCStringLiteral "\"\\\"a\\\\\""
  constructor
  · obtain ⟨inner, -, hinner, hiff⟩ := hliterals _ hlit
    have hsame : ['\\', '"', 'a', '\\', '\\'] ++ ['"'] = inner ++ ['"'] :=
      (List.cons.inj (List.cons.inj hinner).2).2
    obtain rfl := List.append_cancel_right hsame
    have hend : IsBody (['\\', '\\'] ++ []) :=
      .escape (@IsEscape.simple "\\" 92 (by decide)) (by decide) .nil
    have hbody : IsBody (['\\', '"'] ++ ['a', '\\', '\\']) :=
      .escape (@IsEscape.simple "\"" 34 (by decide)) (by decide) (.char (by decide) hend)
    exact hiff.mpr hbody.isTranslatable
  · cases hpointer : namesScope.constantType [] none
        ⟨"k_pszName", "const char *", "\"\\\"a\\\\\""⟩ with
    | error issue =>
      rw [hpointer] at htype
      cases htype
    | ok pointer =>
      rw [hpointer] at htype
      rw [hitems _ _ _ _ _ _ hpointer htype, hlit]

/-- Two strings side by side are taken for one. -/
theorem not_forall_isCStringLiteral : ¬ ∀ raw lit, stringLiteral? raw = some lit →
    IsCStringLiteral lit.toList := by
  intro h
  have hliteral := h "\"a\" \"b\"" "c\"a\" \"b\"" (by decide)
  have hinner : IsTranslatable ['a', '"', ' ', '"', 'b'] := isCStringLiteral_iff.mp hliteral
  exact @not_endsInEscape_concat 'a' [] (by decide) (hinner.quote ['a'] _ rfl)

end AbiBridge.Constant
