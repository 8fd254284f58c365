import AbiBridge.Proofs.CType.Canonical

/-!
# The shapes of denoted types

More types are read from spellings than have a canonical spelling of their own, because an
array decays to a pointer to whatever its elements are. The tokens of the C spelling of any
such type still hang together: they make one parameter, they end in a way that tells a pointer
from an array, and their first `const` can be told from that of the text.
-/

namespace AbiBridge.CType

/-- A type that one word denotes. On its own `const` is the name of an entity. -/
inductive IsWord : CType → Prop
  | atom {type : CType} : IsAtom type → IsWord type
  | const : IsWord (.named "const")

/-- The types that spellings denote, arrays aside. Behind anything but a word a pointer is
nullable, and constant only if it is the outer one of two around a word. -/
inductive Denoted : CType → Prop
  | word {type : CType} : IsWord type → Denoted type
  | pointer {target : CType} {nullable isConst : Bool} : Denoted target →
      ¬ PointsToArray target →
      (¬ IsWord target → nullable = true
        ∧ (isConst = true → ∃ word, IsWord word ∧ target = pointerTo word false)) →
      Denoted (.pointer target nullable isConst)
  | function {params : List CType} {result : Option CType} :
      (∀ param ∈ params, Denoted param) → (∀ type, result = some type → Denoted type) →
      (∀ type, result = some type → type.mentionsFunction = false) →
      Denoted (.function params result true)
  | pointerToArray {base : CType} {lengths : List Nat} {isConst : Bool} : Denoted base →
      AreLengths lengths → Denoted (pointerTo (nest base lengths) isConst)

/-! ## Words -/

namespace IsWord

variable {type : CType}

theorem tokens_eq (h : IsWord type) : tokens type.cText = [.word type.cText] := by
  cases h with
  | atom h => exact h.spelledAs.tokens_eq
  | const => decide

theorem ne_void (h : IsWord type) : type.cText ≠ "void" := by
  cases h with
  | atom h => exact h.spelledAs.ne_void
  | const => decide

theorem ne_array (h : IsWord type) (element : CType) (length : Nat) :
    type ≠ array element length := by
  cases h with
  | atom h => exact h.spelledAs.ne_array element length
  | const => intro heq; cases heq

theorem isPointerLike_eq_false (h : IsWord type) : type.isPointerLike = false := by
  cases h with
  | atom h => cases h <;> rfl
  | const => rfl

theorem ne_pointer (h : IsWord type) (target : CType) (nullable isConst : Bool) :
    type ≠ pointer target nullable isConst := by
  rintro rfl
  cases h.isPointerLike_eq_false

theorem mentionsFunction_eq_false (h : IsWord type) : type.mentionsFunction = false := by
  cases h with
  | atom h => exact h.spelledAs.not_function
  | const => rfl

theorem not_pointsToArray (h : IsWord type) : ¬ PointsToArray type := by
  rintro ⟨element, length, nullable, isConst, rfl⟩
  exact h.ne_pointer _ _ _ rfl

theorem tokens_pointer (h : IsWord type) (nullable isConst : Bool) :
    tokens (pointer type nullable isConst).cText
      = constTokens isConst ++ [Token.word type.cText, sigilToken nullable] := by
  rw [CType.tokens_pointer h.ne_array h.ne_pointer, h.tokens_eq]
  simp

theorem tokens_pointerToPointer (h : IsWord type) (inner outer : Bool) :
    tokens (pointerTo (pointerTo type inner) outer).cText
      = constTokens inner ++ [Token.word type.cText, .star] ++ constTokens outer
        ++ [Token.star] := by
  rw [pointerTo, pointerTo, tokens_pointer_pointer h.ne_array, h.tokens_pointer]
  rfl

theorem denoted_pointer (h : IsWord type) (nullable isConst : Bool) :
    Denoted (pointer type nullable isConst) :=
  .pointer (.word h) h.not_pointsToArray fun hnot => absurd h hnot

theorem denoted_pointerToPointer (h : IsWord type) {inner outer : Bool}
    (hconst : ¬ (inner = true ∧ outer = true)) :
    Denoted (pointerTo (pointerTo type inner) outer) := by
  refine .pointer (h.denoted_pointer true inner) ?_ fun _ => ⟨rfl, fun houter => ⟨type, h, ?_⟩⟩
  · rintro ⟨element, length, nullable, isConst, heq⟩
    exact h.ne_array _ _ (CType.pointer.inj heq).1
  · cases inner with
    | false => rfl
    | true => exact absurd ⟨rfl, houter⟩ hconst

end IsWord

/-! ## Parts of spellings -/

theorem constTokens_subset {isConst : Bool} {token : Token} (h : token ∈ constTokens isConst) :
    token = .word "const" := by
  cases isConst with
  | false => cases h
  | true => exact List.mem_singleton.mp h

theorem eq_word_or_bracket_of_mem_lengthTokens {lengths : List Nat} {token : Token}
    (h : token ∈ lengthTokens lengths) :
    token = .openBracket ∨ token = .closeBracket ∨ ∃ word, token = .word word := by
  induction lengths with
  | nil => cases h
  | cons length lengths ih =>
    simp only [lengthTokens, List.mem_cons] at h
    rcases h with rfl | rfl | rfl | h
    · exact .inl rfl
    · exact .inr (.inr ⟨_, rfl⟩)
    · exact .inr (.inl rfl)
    · exact ih h

theorem exists_suffix_paramTokens {params : List CType} (hne : params ≠ []) :
    ∃ param ∈ params, tokens param.cText <:+ paramTokens params := by
  induction params with
  | nil => exact absurd rfl hne
  | cons param params ih =>
    cases params with
    | nil => exact ⟨param, List.mem_cons_self, by simp [paramTokens]⟩
    | cons param' params =>
      obtain ⟨last, hlast, hsuffix⟩ := ih (by simp)
      refine ⟨last, List.mem_cons_of_mem _ hlast, hsuffix.trans ?_⟩
      simp only [paramTokens, List.map_cons, List.intercalate_cons_cons]
      exact List.suffix_append _ _

theorem StaysTogether.of_forall {least : Nat} {tokens : List Token}
    (h : ∀ token ∈ tokens, token ≠ .openParen ∧ token ≠ .closeParen ∧ token ≠ .comma) :
    StaysTogether least tokens := by
  induction tokens with
  | nil => exact .nil
  | cons token tokens ih =>
    obtain ⟨hopen, hclose, hcomma⟩ := h token List.mem_cons_self
    exact (StaysTogether.singleton hopen hclose hcomma).append
      (ih fun other hother => h other (List.mem_cons_of_mem _ hother))

theorem staysTogether_lengthTokens (lengths : List Nat) :
    StaysTogether 0 (lengthTokens lengths) := by
  refine .of_forall fun token h => ?_
  rcases eq_word_or_bracket_of_mem_lengthTokens h with rfl | rfl | ⟨word, rfl⟩ <;> simp

theorem staysTogether_constTokens (isConst : Bool) : StaysTogether 0 (constTokens isConst) := by
  refine .of_forall fun token h => ?_
  rw [constTokens_subset h]
  simp

theorem staysTogether_pointed : StaysTogether 0 [.openParen, .star, .closeParen] := by
  have hstar : StaysTogether 1 [.star] := .singleton (by simp) (by simp) (by simp)
  exact hstar.parens

@[simp] theorem mentionsFunction_nest (base : CType) (lengths : List Nat) :
    (nest base lengths).mentionsFunction = base.mentionsFunction := by
  induction lengths with
  | nil => rfl
  | cons length lengths ih => simpa [nest, mentionsFunction] using ih

@[simp] theorem constWord_false_append (text : String) : constWord false ++ text = text := by
  simp [constWord]

theorem startsConst_constWord_append (text : String) : StartsConst (constWord true ++ text) := by
  rw [StartsConst, String.toList_append]
  exact List.prefix_append _ _

theorem StartsConst.append {text : String} (h : StartsConst text) (back : String) :
    StartsConst (text ++ back) := by
  rw [StartsConst, String.toList_append]
  exact h.trans (List.prefix_append _ _)

/-- The qualifier also shows if the word `const` stands in front of a blank. -/
theorem startsConst_append {text back : String} (h : text = "const" ∨ StartsConst text)
    (hback : back.toList.head? = some ' ') : StartsConst (text ++ back) := by
  rcases h with rfl | h
  · obtain ⟨rest, hrest⟩ := List.head?_eq_some_iff.mp hback
    exact ⟨rest, by rw [String.toList_append, hrest]; rfl⟩
  · exact h.append back

namespace Denoted

variable {type target base : CType}

theorem ne_array (h : Denoted type) (element : CType) (length : Nat) :
    type ≠ array element length := by
  cases h with
  | word h => exact h.ne_array element length
  | pointer => intro heq; cases heq
  | function => intro heq; cases heq
  | pointerToArray => intro heq; cases heq

theorem isWord (h : Denoted type) (hplain : type.isPointerLike = false) : IsWord type := by
  cases h with
  | word h => exact h
  | pointer => cases hplain
  | function => cases hplain
  | pointerToArray => cases hplain

theorem eq_nil_of_not_pointsToArray {lengths : List Nat} {isConst : Bool}
    (h : ¬ PointsToArray (pointerTo (nest base lengths) isConst)) : lengths = [] := by
  cases lengths with
  | nil => rfl
  | cons length lengths => exact absurd ⟨_, _, _, _, rfl⟩ h

/-! ## Tokens -/

/-- The qualifier of a pointer stands in front of its target, or behind it if that is a pointer
as well. -/
theorem tokens_pointer (h : Denoted target) (hpoints : ¬ PointsToArray target)
    (nullable isConst : Bool) :
    ∃ before behind, tokens (CType.pointer target nullable isConst).cText
      = constTokens before ++ tokens target.cText ++ constTokens behind
        ++ [sigilToken nullable] := by
  have hplain (hpointer : ∀ t n c, target ≠ .pointer t n c) :
      ∃ before behind, tokens (CType.pointer target nullable isConst).cText
        = constTokens before ++ tokens target.cText ++ constTokens behind
          ++ [sigilToken nullable] := by
    refine ⟨isConst, false, ?_⟩
    rw [CType.tokens_pointer h.ne_array hpointer]
    simp [constTokens]
  cases h with
  | word h => exact hplain h.ne_pointer
  | pointer h =>
    refine ⟨false, isConst, ?_⟩
    rw [tokens_pointer_pointer h.ne_array]
    simp [constTokens]
  | function => exact hplain (by intro _ _ _ heq; cases heq)
  | pointerToArray h hlengths => exact absurd (eq_nil_of_not_pointsToArray hpoints) hlengths.1

theorem tokens_pointerToArray (h : Denoted base) {lengths : List Nat}
    (hlengths : AreLengths lengths) (isConst : Bool) :
    tokens (pointerTo (nest base lengths) isConst).cText
      = constTokens isConst ++ tokens base.cText
        ++ Token.openParen :: .star :: .closeParen :: lengthTokens lengths := by
  rw [pointerTo, tokens_pointer_nest h.ne_array hlengths.1]
  simp [pointedTokens, sigilToken]

theorem tokens_ne_nil (h : Denoted type) : tokens type.cText ≠ [] := by
  cases h with
  | word h => simp [h.tokens_eq]
  | @pointer _ nullable isConst h hpoints =>
    obtain ⟨before, behind, htokens⟩ := h.tokens_pointer hpoints nullable isConst
    simp [htokens]
  | function => simp [tokens_function]
  | pointerToArray h hlengths => simp [h.tokens_pointerToArray hlengths]

/-- Only a word is written with one token. -/
theorem isWord_of_tokens_eq (h : Denoted type) {word : String}
    (htokens : tokens type.cText = [.word word]) : IsWord type ∧ type.cText = word := by
  have hlast : (tokens type.cText).getLast? = some (.word word) := by rw [htokens]; rfl
  cases h with
  | word h =>
    rw [h.tokens_eq] at htokens
    exact ⟨h, Token.word.inj (List.cons.inj htokens).1⟩
  | @pointer _ nullable isConst h hpoints =>
    obtain ⟨before, behind, hpointer⟩ := h.tokens_pointer hpoints nullable isConst
    cases nullable <;> simp [hpointer, sigilToken] at hlast
  | function => simp [tokens_function, List.getLast?_cons] at hlast
  | pointerToArray h hlengths =>
    rw [h.tokens_pointerToArray hlengths, List.getLast?_append_of_ne_nil _ (by simp)] at hlast
    simp [List.getLast?_cons, getLast?_lengthTokens hlengths.1] at hlast

theorem tokens_ne_void (h : Denoted type) : tokens type.cText ≠ [.word "void"] := by
  intro htokens
  obtain ⟨hword, hvoid⟩ := h.isWord_of_tokens_eq htokens
  exact hword.ne_void hvoid

theorem getLast?_tokens_ne_openParen (h : Denoted type) :
    (tokens type.cText).getLast? ≠ some .openParen := by
  cases h with
  | word h => simp [h.tokens_eq]
  | @pointer _ nullable isConst h hpoints =>
    obtain ⟨before, behind, htokens⟩ := h.tokens_pointer hpoints nullable isConst
    cases nullable <;> simp [htokens, sigilToken]
  | function => simp [tokens_function, List.getLast?_cons]
  | pointerToArray h hlengths =>
    rw [h.tokens_pointerToArray hlengths, List.getLast?_append_of_ne_nil _ (by simp)]
    simp [List.getLast?_cons, getLast?_lengthTokens hlengths.1]

/-- A spelling does not end in the middle of `(*)`. -/
theorem not_openParen_star_suffix (h : Denoted type) (front : List Token) :
    ¬ [Token.openParen, .star] <:+ front ++ tokens type.cText := by
  intro hsuffix
  have hlast : (front ++ tokens type.cText).getLast? = some .star := by
    obtain ⟨rest, hrest⟩ := hsuffix
    rw [← hrest, List.getLast?_append_of_ne_nil _ (by simp)]
    rfl
  cases h with
  | word h => simp [h.tokens_eq] at hlast
  | @pointer target nullable isConst h hpoints =>
    obtain ⟨before, behind, htokens⟩ := h.tokens_pointer hpoints nullable isConst
    obtain ⟨rest, hrest⟩ := hsuffix
    have hinit : rest ++ [Token.openParen]
        = front ++ (constTokens before ++ tokens target.cText ++ constTokens behind) := by
      have hclosed : rest ++ [Token.openParen] ++ [Token.star]
          = front ++ (constTokens before ++ tokens target.cText ++ constTokens behind)
            ++ [sigilToken nullable] := by
        rw [htokens] at hrest
        simpa using hrest
      exact (List.append_inj' hclosed rfl).1
    -- The token in front of the sigil is the target's last one or a qualifier.
    have hends := congrArg List.getLast? hinit
    rw [List.getLast?_append_of_ne_nil _ (by simp), List.getLast?_append_of_ne_nil _
      (by simp [h.tokens_ne_nil])] at hends
    cases behind with
    | true => simp [constTokens] at hends
    | false =>
      simp only [constTokens, Bool.false_eq_true, if_false, List.append_nil] at hends
      rw [List.getLast?_append_of_ne_nil _ h.tokens_ne_nil] at hends
      exact h.getLast?_tokens_ne_openParen hends.symm
  | function => simp [tokens_function, List.getLast?_cons] at hlast
  | pointerToArray h hlengths =>
    rw [h.tokens_pointerToArray hlengths, ← List.append_assoc,
      List.getLast?_append_of_ne_nil _ (by simp)] at hlast
    simp [List.getLast?_cons, getLast?_lengthTokens hlengths.1] at hlast

theorem getLast?_tokens_ne_closeBracket (h : Denoted type) (hpoints : ¬ PointsToArray type) :
    (tokens type.cText).getLast? ≠ some .closeBracket := by
  cases h with
  | word h => simp [h.tokens_eq]
  | @pointer _ nullable isConst h htarget =>
    obtain ⟨before, behind, htokens⟩ := h.tokens_pointer htarget nullable isConst
    cases nullable <;> simp [htokens, sigilToken]
  | function => simp [tokens_function, List.getLast?_cons]
  | pointerToArray h hlengths => exact absurd (eq_nil_of_not_pointsToArray hpoints) hlengths.1

/-- The only `(*)` at the end of a spelling belongs to an array behind it. -/
theorem not_pointed_suffix (h : Denoted type) (hpoints : ¬ PointsToArray type) :
    ¬ [Token.openParen, .star, .closeParen] <:+ tokens type.cText := by
  rintro ⟨front, hfront⟩
  have hlast : (tokens type.cText).getLast? = some .closeParen := by
    rw [← hfront, List.getLast?_append_of_ne_nil _ (by simp)]
    rfl
  cases h with
  | word h => simp [h.tokens_eq] at hlast
  | @pointer _ nullable isConst h htarget =>
    obtain ⟨before, behind, htokens⟩ := h.tokens_pointer htarget nullable isConst
    cases nullable <;> simp [htokens, sigilToken] at hlast
  | @function params result hparams hresult hfree =>
    rw [tokens_function] at hfront
    have hinit : front ++ [Token.openParen, .star]
        = resultTokens result ++ [Token.openParen, .star, .closeParen, .openParen]
          ++ paramTokens params := by
      have hclosed : front ++ [Token.openParen, .star] ++ [Token.closeParen]
          = resultTokens result ++ [Token.openParen, .star, .closeParen, .openParen]
            ++ paramTokens params ++ [Token.closeParen] := by simpa using hfront
      exact List.append_cancel_right hclosed
    -- The tokens before the last parenthesis would end with the last parameter.
    by_cases hne : params = []
    · have hends := congrArg List.getLast? hinit
      simp [hne, paramTokens] at hends
    · obtain ⟨param, hparam, front', hfront'⟩ := exists_suffix_paramTokens hne
      refine (hparams param hparam).not_openParen_star_suffix
        (resultTokens result ++ [Token.openParen, .star, .closeParen, .openParen] ++ front')
        ⟨front, ?_⟩
      rw [hinit, ← hfront', ← List.append_assoc]
  | pointerToArray h hlengths => exact absurd (eq_nil_of_not_pointsToArray hpoints) hlengths.1

/-- A spelling is one parameter. -/
theorem staysTogether (h : Denoted type) : StaysTogether 0 (tokens type.cText) := by
  induction h with
  | word h =>
    rw [h.tokens_eq]
    exact .singleton (by simp) (by simp) (by simp)
  | @pointer target nullable isConst h hpoints _ ih =>
    obtain ⟨before, behind, htokens⟩ := h.tokens_pointer hpoints nullable isConst
    have hsigil : StaysTogether 0 [sigilToken nullable] := by
      cases nullable <;> exact .singleton (by decide) (by decide) (by decide)
    rw [htokens]
    exact (((staysTogether_constTokens before).append ih).append
      (staysTogether_constTokens behind)).append hsigil
  | @function params result _ _ _ ihparams ihresult =>
    rw [tokens_function]
    have hresult : StaysTogether 0 (resultTokens result) := by
      cases result with
      | none => exact .singleton (by simp) (by simp) (by simp)
      | some type => exact ihresult type rfl
    have hparams : StaysTogether 1 (paramTokens params) := by
      refine .intercalate fun piece hpiece => ?_
      obtain ⟨param, hparam, rfl⟩ := List.mem_map.mp hpiece
      exact ihparams param hparam
    exact hresult.append (staysTogether_pointed.append hparams.parens)
  | @pointerToArray base lengths isConst h hlengths ih =>
    rw [h.tokens_pointerToArray hlengths]
    exact ((staysTogether_constTokens isConst).append ih).append
      (staysTogether_pointed.append (staysTogether_lengthTokens lengths))

/-- Without functions, parentheses occur only in front of the lengths of an array. -/
theorem onlyPointsToArrays (h : Denoted type) (hfree : type.mentionsFunction = false) :
    OnlyPointsToArrays (tokens type.cText) := by
  have hconst (isConst : Bool) : OnlyPointsToArrays (constTokens isConst) :=
    onlyPointsToArrays_of_not_mem (by cases isConst <;> simp [constTokens])
  induction h with
  | word h => exact onlyPointsToArrays_of_not_mem (by simp [h.tokens_eq])
  | @pointer target nullable isConst h hpoints _ ih =>
    obtain ⟨before, behind, htokens⟩ := h.tokens_pointer hpoints nullable isConst
    have hsigil : OnlyPointsToArrays [sigilToken nullable] :=
      onlyPointsToArrays_of_not_mem (by cases nullable <;> simp [sigilToken])
    rw [htokens]
    exact (((hconst before).append (ih hfree)).append (hconst behind)).append hsigil
  | function => cases hfree
  | @pointerToArray base lengths isConst h hlengths ih =>
    rw [pointerTo, mentionsFunction, mentionsFunction_nest] at hfree
    rw [h.tokens_pointerToArray hlengths]
    refine ((hconst isConst).append (ih hfree)).append ?_
    intro front back heq
    cases front with
    | nil =>
      obtain ⟨-, rfl⟩ := List.cons.inj heq
      obtain ⟨digits, rest, hshape⟩ := lengthWords?_eq_some (lengthWords?_lengthTokens hlengths.1)
      exact ⟨_, by rw [hshape]⟩
    | cons token front =>
      have hmem : Token.openParen ∈ Token.star :: .closeParen :: lengthTokens lengths := by
        rw [(List.cons.inj heq).2]
        simp
      simp only [List.mem_cons, reduceCtorEq, false_or] at hmem
      exact absurd hmem (not_paren_mem_of_lengthWords? (lengthWords?_lengthTokens hlengths.1)).1

/-! ## The leading qualifier -/

/-- A spelling whose first token is `const` is that word or starts with that qualifier. -/
theorem eq_const_or_startsConst (h : Denoted type) {rest : List Token}
    (htokens : tokens type.cText = .word "const" :: rest) :
    type.cText = "const" ∨ StartsConst type.cText := by
  -- A part that stands in front has the same first token.
  have hpart {part back rest : List Token} (hne : part ≠ [])
      (hwhole : part ++ back = .word "const" :: rest) :
      ∃ rest', part = .word "const" :: rest' := by
    cases part with
    | nil => exact absurd rfl hne
    | cons token rest' =>
      rw [(List.cons.inj hwhole).1]
      exact ⟨rest', rfl⟩
  induction h generalizing rest with
  | word h =>
    rw [h.tokens_eq] at htokens
    exact .inl (Token.word.inj (List.cons.inj htokens).1)
  | @pointer target nullable isConst h hpoints _ ih =>
    right
    by_cases hpointer : ∃ t n c, target = .pointer t n c
    · obtain ⟨t, n, c, rfl⟩ := hpointer
      have harray : ∀ element length, t ≠ .array element length :=
        fun element length heq => hpoints ⟨element, length, n, c, by rw [heq]⟩
      rw [tokens_pointer_pointer harray, List.append_assoc] at htokens
      obtain ⟨rest', hfirst⟩ := hpart h.tokens_ne_nil htokens
      rw [cText_pointer_pointer]
      rcases ih hfirst with hword | hstarts
      · have hconst : tokens (CType.pointer t n c).cText = [.word "const"] := by
          rw [hword]
          decide
        exact absurd rfl ((h.isWord_of_tokens_eq hconst).1.ne_pointer t n c)
      · exact hstarts.append _
    · have hplain : ∀ t n c, target ≠ .pointer t n c := fun t n c heq => hpointer ⟨t, n, c, heq⟩
      rw [cText_pointer h.ne_array hplain, String.append_assoc]
      cases isConst with
      | true => exact startsConst_constWord_append _
      | false =>
        rw [CType.tokens_pointer h.ne_array hplain, constTokens] at htokens
        obtain ⟨rest', hfirst⟩ := hpart h.tokens_ne_nil htokens
        rw [constWord_false_append]
        exact startsConst_append (ih hfirst) (by simp)
  | @function params result _ hresult _ _ ih =>
    right
    rw [tokens_function] at htokens
    rw [cText_function]
    cases result with
    | none =>
      have hword := Token.word.inj (List.cons.inj htokens).1
      exact absurd hword (by decide)
    | some type =>
      obtain ⟨rest', hfirst⟩ := hpart (hresult type rfl).tokens_ne_nil htokens
      exact startsConst_append (ih type rfl hfirst) (by simp)
  | @pointerToArray base lengths isConst h hlengths ih =>
    right
    rw [pointerTo, cText_pointer_nest h.ne_array hlengths.1]
    cases isConst with
    | true => exact startsConst_constWord_append _
    | false =>
      rw [h.tokens_pointerToArray hlengths, constTokens] at htokens
      obtain ⟨rest', hfirst⟩ := hpart h.tokens_ne_nil htokens
      rw [constWord_false_append]
      exact startsConst_append (ih hfirst) (by simp [pointedText])

/-- The qualifier in front of a pointer to an array is told from the base's own. -/
theorem stripConst_tokens (h : Denoted base) {isConst : Bool}
    (hconst : isConst = false → ¬ StartsConst base.cText) :
    stripConst (constTokens isConst ++ tokens base.cText) = (isConst, tokens base.cText) := by
  cases hhead : tokens base.cText with
  | nil => exact absurd hhead h.tokens_ne_nil
  | cons token rest =>
    cases isConst with
    | true => rfl
    | false =>
      show stripConst (token :: rest) = _
      unfold stripConst
      split
      · next token' rest' heq =>
        rw [heq] at hhead
        rcases h.eq_const_or_startsConst hhead with hword | hstarts
        · have htokens : tokens base.cText = [.word "const"] := by
            rw [hword]
            decide
          rw [htokens] at hhead
          cases hhead
        · exact absurd hstarts (hconst rfl)
      · rfl

/-- Without a qualifier of the pointer, that of the base is taken for it. -/
theorem stripConst_tokens_of_startsConst (h : Denoted base) (hstarts : StartsConst base.cText) :
    (stripConst (tokens base.cText)).1 = true := by
  obtain ⟨rest, hrest⟩ := id hstarts
  have htext : base.cText = constWord true ++ String.ofList rest := by
    rw [← String.toList_inj, String.toList_append, String.toList_ofList, ← hrest]
    rfl
  have htokens : tokens base.cText = .word "const" :: tokens (String.ofList rest) := by
    rw [htext, tokens_constWord_append]
    rfl
  cases hback : tokens (String.ofList rest) with
  | nil =>
    rw [hback] at htokens
    rw [(h.isWord_of_tokens_eq htokens).2] at hstarts
    exact absurd hstarts (by unfold StartsConst; decide)
  | cons token rest' =>
    rw [htokens, hback]
    rfl

end Denoted

end AbiBridge.CType
