import AbiBridge.CType.Spelling
import AbiBridge.Proofs.CType.Separator
import AbiBridge.Proofs.Text.Numeral

/-!
# The tokens of a written type

Two texts that meet at a mark or a blank are read one after the other, so the tokens of a
C spelling are put together from those of its parts.
-/

namespace AbiBridge.CType

theorem Token.scan_append (pending front back : List Char)
    (h : ∀ c ∈ back.head?, isSeparator c = true) :
    scan pending (front ++ back) = scan pending front ++ scan [] back := by
  induction front generalizing pending with
  | nil =>
    cases back with
    | nil => simp [scan, ofPending]
    | cons c cs =>
      have hc : isSeparator c = true := h c rfl
      simp only [isSeparator, Bool.or_eq_true] at hc
      cases hmark : ofMark? c with
      | some mark => simp [scan, hmark, ofPending]
      | none =>
        rw [hmark] at hc
        simp [scan, hmark, ofPending, hc.resolve_left (by simp)]
  | cons d front ih =>
    cases hmark : ofMark? d with
    | some mark => simp [scan, hmark, ih]
    | none => by_cases hblank : Text.isBlank d = true <;> simp [scan, hmark, hblank, ih]

theorem Token.scan_append_separator (pending front back : List Char) {c : Char}
    (h : isSeparator c = true) :
    scan pending (front ++ c :: back) = scan pending (front ++ [c]) ++ scan [] back := by
  have hhead : ∀ back', ∀ d ∈ (c :: back').head?, isSeparator d = true := by
    intro back' d hd
    cases hd
    exact h
  rw [scan_append _ _ _ (hhead back), scan_append _ _ _ (hhead []), List.append_assoc]
  congr 1
  simp only [isSeparator, Bool.or_eq_true] at h
  cases hmark : ofMark? c with
  | some mark => simp [scan, hmark, ofPending]
  | none =>
    rw [hmark] at h
    simp [scan, hmark, ofPending, h.resolve_left (by simp)]

/-- Where two texts meet, no word runs on from the first into the second. -/
def Apart (front back : String) : Prop :=
  (∀ c ∈ back.toList.head?, isSeparator c = true)
    ∨ ∃ cs c, front.toList = cs ++ [c] ∧ isSeparator c = true

theorem Apart.of_head {front back : String} (h : back.toList.head?.all isSeparator = true) :
    Apart front back := by
  refine .inl fun c hc => ?_
  rw [Option.mem_def.mp hc] at h
  exact h

theorem tokens_append {front back : String} (h : Apart front back) :
    tokens (front ++ back) = tokens front ++ tokens back := by
  simp only [tokens, String.toList_append]
  rcases h with h | ⟨cs, c, heq, hc⟩
  · exact Token.scan_append [] _ _ h
  · rw [heq, List.append_assoc, List.singleton_append, Token.scan_append_separator [] _ _ hc]

theorem Token.scan_word {word : List Char} (h : ∀ c ∈ word, isSeparator c = false)
    (pending : List Char) : scan pending word = ofPending (pending ++ word) := by
  induction word generalizing pending with
  | nil => simp [scan]
  | cons c cs ih =>
    have hc : isSeparator c = false := h c List.mem_cons_self
    simp only [isSeparator, Bool.or_eq_false_iff, Option.isSome_eq_false_iff,
      Option.isNone_iff_eq_none] at hc
    have hcs : ∀ d ∈ cs, isSeparator d = false := fun d hd => h d (List.mem_cons_of_mem _ hd)
    simp [scan, hc.1, hc.2, ih hcs]

theorem tokens_word {word : String} (hne : word.toList ≠ [])
    (h : ∀ c ∈ word.toList, isSeparator c = false) : tokens word = [.word word] := by
  rw [tokens, Token.scan_word h, List.nil_append]
  cases hs : word.toList with
  | nil => exact absurd hs hne
  | cons c cs =>
    have hword : String.ofList (c :: cs) = word := by rw [← hs, String.ofList_toList]
    exact congrArg (fun text => [Token.word text]) hword

/-- A name is a single token. -/
theorem tokens_of_isName {name : String} (h : isName name = true) :
    tokens name = [.word name] :=
  tokens_word (toList_ne_nil_of_isPointeeWord (isPointeeWord_of_isName h))
    (fun _ => isSeparator_of_mem_pointeeWord (isPointeeWord_of_isName h))

@[simp] theorem tokens_cName (p : Primitive) : tokens p.cName = [.word p.cName] := by
  cases p <;> rfl

def lengthsText (lengths : List Nat) : String :=
  lengths.foldr (fun length text => "[" ++ toString length ++ "]" ++ text) ""

def lengthTokens : List Nat → List Token
  | [] => []
  | length :: lengths =>
    .openBracket :: .word (toString length) :: .closeBracket :: lengthTokens lengths

@[simp] theorem tokens_toString (n : Nat) : tokens (toString n) = [.word (toString n)] :=
  tokens_word (Text.toList_toString_ne_nil n)
    (fun _ h => isSeparator_of_isDigit (Text.isDigit_of_mem_toString h))

@[simp] theorem tokens_lengthsText (lengths : List Nat) :
    tokens (lengthsText lengths) = lengthTokens lengths := by
  induction lengths with
  | nil => rfl
  | cons length lengths ih =>
    have hclose : Apart ("[" ++ toString length ++ "]") (lengthsText lengths) :=
      .inr ⟨"[".toList ++ (toString length).toList, ']', by simp, by decide⟩
    have hnumber : Apart ("[" ++ toString length) "]" := .of_head (by decide)
    have hopen : Apart "[" (toString length) := .inr ⟨[], '[', by simp, by decide⟩
    have hbrackets : tokens "[" = [.openBracket] ∧ tokens "]" = [.closeBracket] := by decide
    calc tokens (lengthsText (length :: lengths))
        = tokens ("[" ++ toString length ++ "]" ++ lengthsText lengths) := rfl
      _ = lengthTokens (length :: lengths) := by
        rw [tokens_append hclose, tokens_append hnumber, tokens_append hopen, tokens_toString,
          hbrackets.1, hbrackets.2, ih]
        rfl

/-- Only the lengths of an array stand behind a suffix. -/
theorem spell_eq_append {type : CType} (h : ∀ element length, type ≠ .array element length)
    (suffix : String) : type.spell suffix = type.cText ++ suffix := by
  cases type with
  | primitive p => simp [cText, spell]
  | named name => simp [cText, spell]
  | pointer target nullable isConst => cases target <;> simp [cText, spell, String.append_assoc]
  | array element length => exact absurd rfl (h element length)
  | zeroTerminated element => simp [cText, spell, String.append_assoc]
  | slice element isConst => simp [cText, spell, String.append_assoc]
  | function params result nullable => simp [cText, spell, String.append_assoc]

@[simp] theorem spell_nest (base : CType) (lengths : List Nat) (suffix : String) :
    (nest base lengths).spell suffix = base.spell (suffix ++ lengthsText lengths) := by
  induction lengths generalizing suffix with
  | nil => simp [nest, lengthsText]
  | cons length lengths ih =>
    have hstep : (nest base (length :: lengths)).spell suffix
        = (nest base lengths).spell (suffix ++ "[" ++ toString length ++ "]") := by
      simp [nest, spell, String.append_assoc]
    rw [hstep, ih]
    simp [lengthsText, String.append_assoc]

def sigilToken (nullable : Bool) : Token :=
  if nullable then .star else .ampersand

def constTokens (isConst : Bool) : List Token :=
  if isConst then [.word "const"] else []

def pointedTokens (nullable : Bool) : List Token :=
  [.openParen, sigilToken nullable, .closeParen]

@[simp] theorem tokens_constWord_append (isConst : Bool) (text : String) :
    tokens (constWord isConst ++ text) = constTokens isConst ++ tokens text := by
  cases isConst with
  | false => simp [constWord, constTokens]
  | true =>
    have happart : Apart (constWord true) text := .inr ⟨"const".toList, ' ', by decide, by decide⟩
    rw [tokens_append happart]
    rfl

@[simp] theorem tokens_append_sigil (text : String) (nullable : Bool) :
    tokens (text ++ if nullable then "*" else "&") = tokens text ++ [sigilToken nullable] := by
  cases nullable with
  | false => exact tokens_append (.of_head (by decide))
  | true => exact tokens_append (.of_head (by decide))

theorem tokens_nest {base : CType} (hbase : ∀ element length, base ≠ .array element length)
    (lengths : List Nat) :
    tokens (nest base lengths).cText = tokens base.cText ++ lengthTokens lengths := by
  have happart : Apart base.cText (lengthsText lengths) := by
    refine .inl fun c hc => ?_
    cases lengths with
    | nil => simp [lengthsText] at hc
    | cons length lengths =>
      simp only [lengthsText, List.foldr_cons, String.toList_append, String.reduceToList,
        List.cons_append, List.head?_cons, Option.mem_def, Option.some.injEq] at hc
      rw [← hc]
      decide
  calc tokens (nest base lengths).cText
      = tokens (base.cText ++ lengthsText lengths) := by
        rw [cText, spell_nest, spell_eq_append hbase]
        simp
    _ = tokens base.cText ++ lengthTokens lengths := by
        rw [tokens_append happart, tokens_lengthsText]

/-- A pointer to a pointer has its qualifier behind the first sigil. -/
theorem cText_pointer_pointer (target : CType) (nullable isConst nullable' isConst' : Bool) :
    (pointer (pointer target nullable isConst) nullable' isConst').cText
      = (pointer target nullable isConst).cText ++ (constWord isConst'
        ++ if nullable' then "*" else "&") := by
  simp [cText, spell, String.append_assoc]

section Pointers

variable {target : CType} (harray : ∀ element length, target ≠ .array element length)
include harray

theorem cText_pointer (hpointer : ∀ t n c, target ≠ .pointer t n c) (nullable isConst : Bool) :
    (pointer target nullable isConst).cText
      = constWord isConst ++ (target.cText ++ " " ++ if nullable then "*" else "&") := by
  cases target with
  | pointer t n c => exact absurd rfl (hpointer t n c)
  | array element length => exact absurd rfl (harray element length)
  | _ => simp [cText, spell, String.append_assoc]

theorem tokens_pointer (hpointer : ∀ t n c, target ≠ .pointer t n c) (nullable isConst : Bool) :
    tokens (pointer target nullable isConst).cText
      = constTokens isConst ++ tokens target.cText ++ [sigilToken nullable] := by
  have hblank : tokens (target.cText ++ " ") = tokens target.cText := by
    rw [tokens_append (.of_head (by decide))]
    exact List.append_nil _
  rw [cText_pointer harray hpointer, tokens_constWord_append, tokens_append_sigil, hblank,
    List.append_assoc]

/-- A pointer to anything but an array is written with its sigil at the end. -/
theorem separator_of_cText_pointer (nullable isConst : Bool) :
    ∃ cs c, (pointer target nullable isConst).cText.toList = cs ++ [c] ∧ isSeparator c = true := by
  by_cases hpointer : ∃ t n c, target = .pointer t n c
  · obtain ⟨t, n, c, rfl⟩ := hpointer
    rw [cText_pointer_pointer]
    cases nullable with
    | false => exact ⟨((pointer t n c).cText ++ constWord isConst).toList, '&', by simp, by decide⟩
    | true => exact ⟨((pointer t n c).cText ++ constWord isConst).toList, '*', by simp, by decide⟩
  · rw [cText_pointer harray fun t n c heq => hpointer ⟨t, n, c, heq⟩]
    cases nullable with
    | false => exact ⟨(constWord isConst ++ (target.cText ++ " ")).toList, '&', by simp, by decide⟩
    | true => exact ⟨(constWord isConst ++ (target.cText ++ " ")).toList, '*', by simp, by decide⟩

theorem tokens_pointer_pointer (nullable isConst nullable' isConst' : Bool) :
    tokens (pointer (pointer target nullable isConst) nullable' isConst').cText
      = tokens (pointer target nullable isConst).cText ++ constTokens isConst'
        ++ [sigilToken nullable'] := by
  have hsigil : tokens (if nullable' then "*" else "&") = [sigilToken nullable'] := by
    cases nullable' <;> rfl
  rw [cText_pointer_pointer,
    tokens_append (.inr (separator_of_cText_pointer harray nullable isConst)),
    tokens_constWord_append, hsigil, List.append_assoc]

end Pointers

/-- The text of a pointer in front of the lengths of the array that it points to. -/
def pointedText (nullable : Bool) : String :=
  " (" ++ (if nullable then "*" else "&") ++ ")"

@[simp] theorem tokens_pointedText (nullable : Bool) :
    tokens (pointedText nullable) = pointedTokens nullable := by
  cases nullable <;> decide

/-- A pointer to an array is written as a declarator, `T (*)[n]`. -/
theorem cText_pointer_nest {base : CType} (hbase : ∀ element length, base ≠ .array element length)
    {lengths : List Nat} (hne : lengths ≠ []) (nullable isConst : Bool) :
    (pointer (nest base lengths) nullable isConst).cText
      = constWord isConst ++ (base.cText ++ (pointedText nullable ++ lengthsText lengths)) := by
  have hspell : (pointer (nest base lengths) nullable isConst).cText
      = constWord isConst ++ (nest base lengths).spell (pointedText nullable) := by
    cases lengths with
    | nil => exact absurd rfl hne
    | cons length lengths => simp [nest, cText, spell, pointedText]
  rw [hspell, spell_nest, spell_eq_append hbase]

theorem tokens_pointer_nest {base : CType} (hbase : ∀ element length, base ≠ .array element length)
    {lengths : List Nat} (hne : lengths ≠ []) (nullable isConst : Bool) :
    tokens (pointer (nest base lengths) nullable isConst).cText
      = constTokens isConst ++ tokens base.cText ++ pointedTokens nullable
        ++ lengthTokens lengths := by
  have hfirst : Apart base.cText (pointedText nullable ++ lengthsText lengths) := by
    refine .of_head ?_
    rw [pointedText, String.append_assoc, String.append_assoc, String.toList_append]
    rfl
  have hlast : Apart (pointedText nullable) (lengthsText lengths) :=
    .inr ⟨(" (" ++ if nullable then "*" else "&").toList, ')', by simp [pointedText], by decide⟩
  rw [cText_pointer_nest hbase hne, tokens_constWord_append, tokens_append hfirst,
    tokens_append hlast, tokens_pointedText, tokens_lengthsText, List.append_assoc,
    List.append_assoc]

/-- The tokens of a result; `void` is written for none. -/
def resultTokens : Option CType → List Token
  | none => [.word "void"]
  | some type => tokens type.cText

def paramTokens (params : List CType) : List Token :=
  [Token.comma].intercalate (params.map fun type => tokens type.cText)

@[simp] theorem tokens_spellResult (result : Option CType) :
    tokens (spellResult result) = resultTokens result := by
  cases result with
  | none => decide
  | some type => simp [spellResult, resultTokens, cText]

@[simp] theorem tokens_spellParams (params : List CType) :
    tokens (spellParams params) = paramTokens params := by
  induction params with
  | nil => rfl
  | cons type types ih =>
    cases types with
    | nil => simp [spellParams, paramTokens, cText]
    | cons type' types =>
      have hcomma : Apart (type.cText ++ ", ") (spellParams (type' :: types)) :=
        .inr ⟨type.cText.toList ++ [','], ' ', by simp, by decide⟩
      have htext : Apart type.cText ", " := .of_head (by decide)
      calc tokens (spellParams (type :: type' :: types))
          = tokens (type.cText ++ ", " ++ spellParams (type' :: types)) := rfl
        _ = tokens type.cText ++ tokens ", " ++ paramTokens (type' :: types) := by
          rw [tokens_append hcomma, tokens_append htext, ih]
        _ = paramTokens (type :: type' :: types) := by
          simp [paramTokens, List.intercalate]
          rfl

theorem cText_function (params : List CType) (result : Option CType) (nullable : Bool) :
    (function params result nullable).cText
      = spellResult result ++ (" (*)(" ++ (spellParams params ++ ")")) := by
  simp [cText, spell, String.append_assoc]

theorem tokens_function (params : List CType) (result : Option CType) (nullable : Bool) :
    tokens (function params result nullable).cText
      = resultTokens result
        ++ Token.openParen :: .star :: .closeParen :: .openParen :: (paramTokens params
          ++ [Token.closeParen]) := by
  have hresult : Apart (spellResult result) (" (*)(" ++ (spellParams params ++ ")")) := by
    refine .of_head ?_
    rw [String.toList_append]
    rfl
  have hopen : Apart " (*)(" (spellParams params ++ ")") :=
    .inr ⟨" (*)".toList, '(', by decide, by decide⟩
  have hclose : Apart (spellParams params) ")" := .of_head (by decide)
  rw [cText_function, tokens_append hresult, tokens_append hopen, tokens_append hclose,
    tokens_spellResult, tokens_spellParams]
  rfl

end AbiBridge.CType
