import AbiBridge.Proofs.CType.Resolved

/-!
# Reading of pointer forms

Behind words, the end of the tokens alone selects the pointer forms that can fit. Two of them
may share an end, the one with a leading `const` standing first, so for a value type that is
not qualified by itself the `const` in front of it decides which form applies.
-/

namespace AbiBridge.CType

@[simp] theorem wordTexts?_eq_some_iff {tokens : List Token} {words : List String} :
    wordTexts? tokens = some words ↔ tokens = words.map .word := by
  induction tokens generalizing words with
  | nil => cases words <;> simp [wordTexts?]
  | cons token tokens ih =>
    cases token with
    | word text =>
      rw [wordTexts?, Option.map_eq_some_iff]
      constructor
      · rintro ⟨rest, hrest, rfl⟩
        rw [ih.mp hrest, List.map_cons]
      · intro heq
        cases words with
        | nil => cases heq
        | cons word words =>
          obtain ⟨hword, hrest⟩ := List.cons.inj heq
          exact ⟨words, ih.mpr hrest, by rw [Token.word.inj hword]⟩
    | _ => cases words <;> simp [wordTexts?]

def StartsWithMark (tokens : List Token) : Prop :=
  ∃ mark rest, tokens = mark :: rest ∧ ∀ text, mark ≠ .word text

/-- Words are told from the mark behind them. -/
theorem words_append_inj {words words' : List String} {back back' : List Token}
    (hback : StartsWithMark back) (hback' : StartsWithMark back')
    (h : words.map Token.word ++ back = words'.map Token.word ++ back') :
    words = words' ∧ back = back' := by
  obtain ⟨mark, rest, rfl, hmark⟩ := hback
  obtain ⟨mark', rest', rfl, hmark'⟩ := hback'
  induction words generalizing words' with
  | nil =>
    cases words' with
    | nil => exact ⟨rfl, h⟩
    | cons word' words' => exact absurd (List.cons.inj h).1 (hmark word')
  | cons word words ih =>
    cases words' with
    | nil => exact absurd (List.cons.inj h).1.symm (hmark' word)
    | cons word' words' =>
      obtain ⟨hword, hrest⟩ := List.cons.inj h
      obtain ⟨rfl, hback⟩ := ih hrest
      exact ⟨by rw [Token.word.inj hword], hback⟩

/-- The words of a pointee among those in front of the end of a pointer form. -/
def pointeeWords? (leadingConst : Bool) (words : List String) : Option (List String) :=
  (if leadingConst then ["const"].isPrefixOf? words else some words).filter fun rest =>
    rest ≠ [] ∧ rest.all isPointeeWord

/-- What stands in front of an end is words only if the end is the whole of what follows them. -/
theorem isSuffixOf?_bind_wordTexts? {ending back : List Token} (hending : StartsWithMark ending)
    (hback : StartsWithMark back) (words : List String) :
    (ending.isSuffixOf? (words.map Token.word ++ back)).bind wordTexts?
      = if ending = back then some words else none := by
  refine Option.ext fun words' => ?_
  rw [Option.bind_eq_some_iff]
  constructor
  · rintro ⟨front, hfront, hwords⟩
    rw [List.isSuffixOf?_eq_some_iff_append_eq, wordTexts?_eq_some_iff.mp hwords] at hfront
    obtain ⟨rfl, heq⟩ := words_append_inj hending hback hfront
    rw [if_pos heq]
  · intro h
    split at h
    · next heq =>
      cases h
      exact ⟨words.map .word, by rw [List.isSuffixOf?_eq_some_iff_append_eq, heq],
        wordTexts?_eq_some_iff.mpr rfl⟩
    · cases h

theorem PointerForm.pointee?_eq (form : PointerForm) (tokens : List Token) :
    form.pointee? tokens
      = (if form.leadingConst then [Token.word "const"].isPrefixOf? tokens
          else some tokens).bind fun rest =>
        (form.ending.isSuffixOf? rest).bind fun front =>
          (wordTexts? front).bind fun words =>
            if words ≠ [] ∧ words.all isPointeeWord then some words else none := by
  unfold pointee?
  cases form.leadingConst <;> rfl

theorem PointerForm.eq_append_of_pointee? {form : PointerForm} {tokens : List Token}
    {words : List String} (h : form.pointee? tokens = some words) :
    tokens = constTokens form.leadingConst ++ (words.map .word ++ form.ending) := by
  rw [pointee?_eq] at h
  obtain ⟨rest, hrest, h⟩ := Option.bind_eq_some_iff.mp h
  obtain ⟨front, hfront, h⟩ := Option.bind_eq_some_iff.mp h
  obtain ⟨words', hwords, h⟩ := Option.bind_eq_some_iff.mp h
  split at h
  · cases h
    rw [List.isSuffixOf?_eq_some_iff_append_eq, wordTexts?_eq_some_iff.mp hwords] at hfront
    rw [hfront]
    cases hconst : form.leadingConst with
    | false => simpa [hconst, constTokens, eq_comm] using hrest
    | true =>
      rw [hconst, if_pos rfl, List.isPrefixOf?_eq_some_iff_append_eq] at hrest
      exact hrest.symm
  · cases h

/-- Tokens that are words and an end have the forms with that end and no others. -/
theorem PointerForm.pointee?_append {form : PointerForm} {words : List String}
    {back : List Token} (hform : StartsWithMark form.ending) (hback : StartsWithMark back) :
    form.pointee? (words.map .word ++ back)
      = if form.ending = back then pointeeWords? form.leadingConst words else none := by
  have hkeep : ∀ words : List String,
      ((form.ending.isSuffixOf? (words.map Token.word ++ back)).bind fun front =>
          (wordTexts? front).bind fun words =>
            if words ≠ [] ∧ words.all isPointeeWord then some words else none)
        = if form.ending = back then
            (some words).filter fun rest => rest ≠ [] ∧ rest.all isPointeeWord
          else none := by
    intro words
    rw [← Option.bind_assoc, isSuffixOf?_bind_wordTexts? hform hback]
    split
    · rw [Option.bind_some, Option.filter_some]
      simp only [decide_eq_true_eq]
    · rfl
  obtain ⟨mark, rest, rfl, hmark⟩ := id hback
  cases hconst : form.leadingConst with
  | false =>
    have hall := hkeep words
    simpa [PointerForm.pointee?, pointeeWords?, hconst] using hall
  | true =>
    cases words with
    | nil =>
      simp [PointerForm.pointee?, pointeeWords?, hconst, List.isPrefixOf?, (hmark "const").symm]
    | cons word words =>
      by_cases hword : "const" = word
      · have hall := hkeep words
        simpa [PointerForm.pointee?, pointeeWords?, hconst, List.isPrefixOf?, hword] using hall
      · simp [PointerForm.pointee?, pointeeWords?, hconst, List.isPrefixOf?, hword]

@[simp] theorem startsWithMark_star (rest : List Token) : StartsWithMark (.star :: rest) :=
  ⟨.star, rest, rfl, by simp⟩

@[simp] theorem startsWithMark_ampersand (rest : List Token) :
    StartsWithMark (.ampersand :: rest) :=
  ⟨.ampersand, rest, rfl, by simp⟩

theorem findSome?_pointee?_append {forms : List PointerForm} {words : List String}
    {back : List Token} (hforms : ∀ form ∈ forms, StartsWithMark form.ending)
    (hback : StartsWithMark back) :
    (forms.findSome? fun form =>
        (form.pointee? (words.map .word ++ back)).map fun words => (form, words))
      = (forms.filter fun form => form.ending = back).findSome? fun form =>
          (pointeeWords? form.leadingConst words).map fun words => (form, words) := by
  induction forms with
  | nil => rfl
  | cons form forms ih =>
    have hrest := ih fun form hform => hforms form (List.mem_cons_of_mem _ hform)
    rw [List.findSome?_cons, hrest,
      PointerForm.pointee?_append (hforms form List.mem_cons_self) hback]
    by_cases hending : form.ending = back
    · rw [if_pos hending, List.filter_cons_of_pos (by simpa using hending), List.findSome?_cons]
    · rw [if_neg hending, List.filter_cons_of_neg (by simpa using hending)]
      rfl

section Pointers

variable {isConst : Bool} {words : List String} {back : List Token} {base type : CType}

/-- The forms with the end of the tokens decide. -/
theorem ofPlainTokens?_append (hback : StartsWithMark back)
    (hmark : Token.star ∈ back ∨ Token.ampersand ∈ back) :
    ofPlainTokens? (words.map .word ++ back)
      = ((pointerForms.filter fun form => form.ending = back).findSome? fun form =>
          (pointeeWords? form.leadingConst words).map fun words => (form, words)).bind
            fun (form, words) => (pointeeOfWords? words).map form.wrap := by
  have hforms : ∀ form ∈ pointerForms, StartsWithMark form.ending := by simp [pointerForms]
  have hmem : Token.star ∈ words.map Token.word ++ back
      ∨ Token.ampersand ∈ words.map Token.word ++ back :=
    hmark.imp (List.mem_append_right _) (List.mem_append_right _)
  rw [ofPlainTokens?, if_pos hmem, findSome?_pointee?_append hforms hback]
  rfl

def constWords (isConst : Bool) : List String :=
  if isConst then ["const"] else []

theorem constTokens_append (isConst : Bool) (words : List String) :
    constTokens isConst ++ words.map .word = (constWords isConst ++ words).map .word := by
  cases isConst <;> rfl

theorem ne_nil_of_pointeeOfWords? (hbase : pointeeOfWords? words = some base) : words ≠ [] := by
  rintro rfl
  cases hbase

/-- Behind a pointer a value type is what it is by itself, and `void` stands for bytes. -/
theorem eq_of_ofWords? (hbase : pointeeOfWords? words = some base)
    (h : ofWords? words = some type) : type = base := by
  rw [pointeeOfWords?] at hbase
  split at hbase
  · next hvoid =>
    rw [hvoid] at h
    cases h
  · rw [h] at hbase
    exact Option.some.inj hbase

theorem ofWords?_constWords (hne : words ≠ []) (isConst : Bool) :
    ofWords? (constWords isConst ++ words) = ofWords? words := by
  cases isConst with
  | false => rfl
  | true =>
    cases words with
    | nil => exact absurd rfl hne
    | cons word words => rfl

/-- No `const` is taken off a value type that is not qualified. -/
theorem pointeeWords?_true_eq_none (hbare : "const" ∉ words.dropLast) :
    pointeeWords? true words = none := by
  match words with
  | [] => rfl
  | [word] =>
    by_cases hword : "const" = word <;> simp [pointeeWords?, List.isPrefixOf?, hword]
  | word :: next :: rest =>
    have hword : "const" ≠ word := by
      rintro rfl
      exact hbare List.mem_cons_self
    simp [pointeeWords?, List.isPrefixOf?, hword]

theorem pointeeWords?_false (hne : words ≠ []) :
    pointeeWords? false words = if words.all isPointeeWord then some words else none := by
  simp [pointeeWords?, hne, Option.filter_some]

theorem pointeeWords?_true_const (hne : words ≠ []) :
    pointeeWords? true ("const" :: words)
      = if words.all isPointeeWord then some words else none := by
  simp [pointeeWords?, List.isPrefixOf?, hne, Option.filter_some]

/-- Where a form with `const` and one without it have the same end, the `const` decides. -/
theorem eq_wrap_of_ofPlainTokens? (wrap : Bool → CType → CType) (hback : StartsWithMark back)
    (hmark : Token.star ∈ back ∨ Token.ampersand ∈ back)
    (hforms : pointerForms.filter (fun form => form.ending = back)
      = [⟨true, back, wrap true⟩, ⟨false, back, wrap false⟩])
    (hbase : pointeeOfWords? words = some base) (hbare : "const" ∉ words.dropLast)
    (h : ofPlainTokens? ((constWords isConst ++ words).map .word ++ back) = some type) :
    type = wrap isConst base := by
  have hne := ne_nil_of_pointeeOfWords? hbase
  rw [ofPlainTokens?_append hback hmark, hforms, List.findSome?_cons, List.findSome?_cons] at h
  cases isConst with
  | false =>
    rw [constWords, if_neg (by simp), List.nil_append, pointeeWords?_true_eq_none hbare,
      pointeeWords?_false hne] at h
    cases hall : words.all isPointeeWord with
    | false => simp [hall] at h
    | true => simpa [hall, hbase, eq_comm] using h
  | true =>
    rw [constWords, if_pos rfl, List.singleton_append, pointeeWords?_true_const hne,
      pointeeWords?_false (by simp)] at h
    cases hall : words.all isPointeeWord with
    | false => simp [hall] at h
    | true => simpa [hall, hbase, eq_comm] using h

/-- Where only a form without `const` has the end, a `const` goes with the words, where it counts
for nothing. -/
theorem eq_wrap_of_ofPlainTokens?_of_single (wrap : CType → CType) (hback : StartsWithMark back)
    (hmark : Token.star ∈ back ∨ Token.ampersand ∈ back)
    (hforms : pointerForms.filter (fun form => form.ending = back) = [⟨false, back, wrap⟩])
    (hbase : pointeeOfWords? words = some base)
    (h : ofPlainTokens? ((constWords isConst ++ words).map .word ++ back) = some type) :
    type = wrap base := by
  have hne := ne_nil_of_pointeeOfWords? hbase
  rw [ofPlainTokens?_append hback hmark, hforms, List.findSome?_cons,
    pointeeWords?_false (List.append_ne_nil_of_right_ne_nil _ hne)] at h
  cases hall : (constWords isConst ++ words).all isPointeeWord with
  | false => simp [hall] at h
  | true =>
    rw [hall, if_pos rfl] at h
    obtain ⟨target, htarget, rfl⟩ := Option.map_eq_some_iff.mp h
    cases isConst with
    | false =>
      rw [constWords, if_neg (by simp), List.nil_append, hbase] at htarget
      rw [Option.some.inj htarget]
    | true =>
      have hwords : ofWords? (constWords true ++ words) = some target := by
        rwa [pointeeOfWords?, if_neg (by simp [constWords])] at htarget
      rw [ofWords?_constWords hne] at hwords
      rw [eq_of_ofWords? hbase hwords]

end Pointers

end AbiBridge.CType
