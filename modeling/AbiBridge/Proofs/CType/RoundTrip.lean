import AbiBridge.Proofs.CType.Reading

/-!
# Reading a spelling back

Reading the C spelling of a type that spellings denote gives the type again, unless somewhere
in it a pointer has no form of its own or a `const` changes its owner. Canonical types have no
such part.
-/

namespace AbiBridge.CType

instance (text : String) : Decidable (StartsConst text) :=
  inferInstanceAs (Decidable ("const ".toList <+: text.toList))

mutual

/-- The C spelling of the type is read as the type itself. A pointer must be to a word or to a
nullable pointer to a word, and a pointer to an array without `const` must not leave that word
of its element in front. -/
def readsBack : CType → Bool
  | .pointer (.array element _) _ isConst =>
    element.readsBack && (isConst || !decide (StartsConst element.cText))
  | .pointer target _ _ => !target.isPointerLike || target.isBuffer
  | .array element _ => element.readsBack
  | .function params result _ => readsBackAll params && readsBackResult result
  | _ => true

def readsBackAll : List CType → Bool
  | [] => true
  | type :: types => type.readsBack && readsBackAll types

def readsBackResult : Option CType → Bool
  | none => true
  | some type => type.readsBack

end

@[simp] theorem readsBackAll_eq_true_iff {types : List CType} :
    readsBackAll types = true ↔ ∀ type ∈ types, type.readsBack = true := by
  induction types with
  | nil => simp [readsBackAll]
  | cons type types ih => simp [readsBackAll, ih]

@[simp] theorem readsBackResult_eq_true_iff {result : Option CType} :
    readsBackResult result = true ↔ ∀ type, result = some type → type.readsBack = true := by
  cases result <;> simp [readsBackResult]

theorem IsWord.readsBack {type : CType} (h : IsWord type) : type.readsBack = true := by
  cases h with
  | atom h => cases h <;> simp [CType.readsBack]
  | const => simp [CType.readsBack]

theorem readsBack_pointer {target : CType} (h : ∀ element length, target ≠ .array element length)
    (nullable isConst : Bool) :
    (pointer target nullable isConst).readsBack = (!target.isPointerLike || target.isBuffer) := by
  rw [CType.readsBack]
  exact h

theorem IsWord.readsBack_pointer {type : CType} (h : IsWord type) (nullable isConst : Bool) :
    (pointer type nullable isConst).readsBack = true := by
  rw [CType.readsBack_pointer h.ne_array, h.isPointerLike_eq_false]
  rfl

theorem IsWord.readsBack_pointerToPointer {type : CType} (h : IsWord type) (inner outer : Bool) :
    (pointerTo (pointerTo type inner) outer).readsBack = true := by
  rw [pointerTo, CType.readsBack_pointer (by intro _ _ heq; cases heq)]
  simp [pointerTo, isBuffer, h.isPointerLike_eq_false]

@[simp] theorem readsBack_nest (base : CType) (lengths : List Nat) :
    (nest base lengths).readsBack = base.readsBack := by
  induction lengths with
  | nil => rfl
  | cons length lengths ih => rw [← ih]; simp [nest, readsBack]

/-- The lengths of an array begin with no character of the qualifier. -/
theorem startsConst_nest {base : CType} (h : ∀ element length, base ≠ .array element length)
    (lengths : List Nat) : StartsConst (nest base lengths).cText ↔ StartsConst base.cText := by
  have htext : (nest base lengths).cText = base.cText ++ lengthsText lengths := by
    rw [cText, spell_nest, spell_eq_append h, String.empty_append]
  rw [htext]
  refine ⟨fun hstarts => ?_, fun hstarts => hstarts.append _⟩
  rw [StartsConst, String.toList_append] at hstarts
  rcases List.prefix_or_prefix_of_prefix hstarts (List.prefix_append _ _) with hshort | hlong
  · exact hshort
  · obtain ⟨rest, hrest⟩ := hlong
    rw [← hrest, List.prefix_append_right_inj] at hstarts
    cases rest with
    | nil => exact ⟨[], by simpa using hrest.symm⟩
    | cons c rest =>
      have hc : c ∈ "const ".toList := by
        rw [← hrest]
        simp
      cases lengths with
      | nil => simp [lengthsText] at hstarts
      | cons length lengths =>
        have hbracket : c = '[' := by
          simp only [lengthsText, List.foldr_cons, String.toList_append, String.reduceToList,
            List.cons_append] at hstarts
          exact (List.cons_prefix_cons.mp hstarts).1
        rw [hbracket] at hc
        exact absurd hc (by decide)

theorem readsBack_pointer_nest {base : CType} (h : ∀ element length, base ≠ .array element length)
    {lengths : List Nat} (hne : lengths ≠ []) (nullable isConst : Bool) :
    (pointer (nest base lengths) nullable isConst).readsBack
      = (base.readsBack && (isConst || !decide (StartsConst base.cText))) := by
  cases lengths with
  | nil => exact absurd rfl hne
  | cons length lengths =>
    have hconst := startsConst_nest h lengths
    have helement := readsBack_nest base lengths
    rw [nest, List.foldr_cons, readsBack]
    rw [nest] at hconst helement
    simp only [helement, hconst]

theorem nest_inj {base base' : CType} {lengths : List Nat} (h : nest base lengths = nest base' lengths) :
    base = base' := by
  induction lengths with
  | nil => exact h
  | cons length lengths ih => exact ih (array.inj h).1

/-- The parameters are told apart by the commas between them. -/
theorem parameterPieces_paramTokens {params : List CType} (h : ∀ param ∈ params, Denoted param) :
    parameterPieces (paramTokens params) = params.map fun param => tokens param.cText := by
  cases params with
  | nil => rfl
  | cons param params =>
    have hpieces : ∀ piece ∈ (param :: params).map fun param => tokens param.cText,
        StaysTogether 0 piece := by
      intro piece hpiece
      obtain ⟨param', hparam', rfl⟩ := List.mem_map.mp hpiece
      exact (h param' hparam').staysTogether
    have hfirst := h param List.mem_cons_self
    -- `void` alone would be read as an empty list of parameters.
    have hnot : ¬ (paramTokens (param :: params) = []
        ∨ paramTokens (param :: params) = [.word "void"]) := by
      cases params with
      | nil => simp [paramTokens, hfirst.tokens_ne_nil, hfirst.tokens_ne_void]
      | cons param' params =>
        have hmem : Token.comma ∈ paramTokens (param :: param' :: params) := by
          simp [paramTokens, List.intercalate_cons_cons]
        rintro (heq | heq)
        · rw [heq] at hmem
          cases hmem
        · rw [heq] at hmem
          simp at hmem
    rw [parameterPieces, if_neg hnot]
    exact splitCommas_intercalate (by simp) hpieces

theorem mapM_ofTokens?_eq_some_iff {params : List CType} :
    (params.map fun param => tokens param.cText).mapM (ofTokens? · .signature) = some params
      ↔ ∀ param ∈ params, ofTokens? (tokens param.cText) .signature = some param := by
  induction params with
  | nil => simp
  | cons param params ih =>
    rw [List.map_cons, List.mapM_cons, List.forall_mem_cons, ← ih]
    simp [Option.bind_eq_some_iff]

namespace Denoted

variable {type base : CType}

theorem resultTokens_ne_nil {result : Option CType}
    (h : ∀ type, result = some type → Denoted type) : resultTokens result ≠ [] := by
  cases result with
  | none => simp [resultTokens]
  | some type => exact (h type rfl).tokens_ne_nil

theorem ofTokens?_function {params : List CType} {result : Option CType}
    (hparams : ∀ param ∈ params, Denoted param) (hresult : ∀ type, result = some type → Denoted type)
    (hfree : ∀ type, result = some type → type.mentionsFunction = false) (position : Position) :
    ofTokens? (tokens (CType.function params result true).cText) position
        = some (.function params result true)
      ↔ (∀ param ∈ params, ofTokens? (tokens param.cText) .signature = some param)
        ∧ ∀ type, result = some type → ofTokens? (tokens type.cText) .signature = some type := by
  -- No `(*)(` of the result comes before that of the pointer itself.
  have honly : OnlyPointsToArrays (resultTokens result) := by
    cases result with
    | none => exact onlyPointsToArrays_of_not_mem (by simp [resultTokens])
    | some type => exact (hresult type rfl).onlyPointsToArrays (hfree type rfl)
  have hshape := Declarator.ofTokens_function (resultTokens_ne_nil hresult) honly
    (paramTokens params)
  rw [parameterPieces_paramTokens hparams] at hshape
  rw [tokens_function, ofTokens?_of_function hshape, ← mapM_ofTokens?_eq_some_iff]
  cases result with
  | none => simp [resultTokens]
  | some type =>
    rw [resultTokens, if_neg (hresult type rfl).tokens_ne_void]
    simp [Option.bind_eq_some_iff, and_comm]

theorem ofTokens?_pointerToArray (h : Denoted base) {lengths : List Nat}
    (hlengths : AreLengths lengths) (isConst : Bool) (position : Position) :
    ofTokens? (tokens (pointerTo (nest base lengths) isConst).cText) position
        = some (pointerTo (nest base lengths) isConst)
      ↔ ofTokens? (tokens base.cText) .value = some base
        ∧ (isConst = true ∨ ¬ StartsConst base.cText) := by
  have hhead : constTokens isConst ++ tokens base.cText ≠ [] :=
    List.append_ne_nil_of_right_ne_nil _ h.tokens_ne_nil
  have hshape := Declarator.ofTokens_pointerToArray hhead hlengths.1
  rw [h.tokens_pointerToArray hlengths, ofTokens?_of_pointerToArray hshape,
    lengths?_map_toString hlengths.2]
  simp only [Option.map_some, Option.bind_eq_some_iff, Option.some.injEq]
  constructor
  · rintro ⟨element, hread, heq⟩
    obtain ⟨hnest, -, hfirst⟩ := CType.pointer.inj heq
    have hconst : isConst = true ∨ ¬ StartsConst base.cText := by
      refine or_iff_not_imp_left.mpr fun hfalse hstarts => hfalse ?_
      rw [Bool.not_eq_true] at hfalse
      rw [← hfirst, hfalse]
      exact h.stripConst_tokens_of_startsConst hstarts
    rw [h.stripConst_tokens fun hfalse => hconst.resolve_left (by simp [hfalse])] at hread
    rw [nest_inj hnest] at hread
    exact ⟨hread, hconst⟩
  · rintro ⟨hread, hconst⟩
    rw [h.stripConst_tokens fun hfalse => hconst.resolve_left (by simp [hfalse])]
    exact ⟨base, hread, rfl⟩

theorem ofTokens?_array (h : Denoted base) (hpoints : ¬ PointsToArray base) {lengths : List Nat}
    (hlengths : AreLengths lengths) :
    ofTokens? (tokens (nest base lengths).cText) .value = some (nest base lengths)
      ↔ ofTokens? (tokens base.cText) .value = some base := by
  have hshape := Declarator.ofTokens_array h.tokens_ne_nil
    (h.getLast?_tokens_ne_closeBracket hpoints) (h.not_pointed_suffix hpoints) hlengths.1
  rw [tokens_nest h.ne_array, ofTokens?_of_array hshape, lengths?_map_toString hlengths.2]
  simp only [Option.map_some, Option.bind_eq_some_iff, Option.some.injEq, arrayAt]
  constructor
  · rintro ⟨element, hread, heq⟩
    rw [nest_inj heq] at hread
    exact hread
  · intro hread
    exact ⟨base, hread, rfl⟩

/-- A pointer to anything but an array is read by one of the pointer forms. -/
theorem ofTokens?_pointer {target : CType} {nullable isConst : Bool} (h : Denoted target)
    (hpoints : ¬ PointsToArray target)
    (hlevels : ¬ IsWord target → nullable = true
      ∧ (isConst = true → ∃ word, IsWord word ∧ target = pointerTo word false))
    (position : Position) :
    ofTokens? (tokens (CType.pointer target nullable isConst).cText) position
        = some (.pointer target nullable isConst)
      ↔ (!target.isPointerLike || target.isBuffer) = true := by
  have hplain : ofTokens? (tokens (CType.pointer target nullable isConst).cText) position
      = ofPlainTokens? (tokens (CType.pointer target nullable isConst).cText) := by
    obtain ⟨before, behind, htokens⟩ := h.tokens_pointer hpoints nullable isConst
    refine ofTokens?_of_other (Declarator.ofTokens_eq_other ?_ ?_)
    · cases nullable <;> simp [htokens, sigilToken]
    · cases nullable <;> simp [htokens, sigilToken]
  rw [hplain]
  constructor
  · intro hread
    rcases of_ofPlainTokens? hread with hword | ⟨word, n, c, hword, heq⟩
      | ⟨word, inner, outer, hword, -, heq⟩
    · exact absurd rfl (hword.ne_pointer _ _ _)
    · rw [(CType.pointer.inj heq).1, hword.isPointerLike_eq_false]
      rfl
    · rw [(CType.pointer.inj heq).1]
      simp [pointerTo, isBuffer, hword.isPointerLike_eq_false]
  · intro hfits
    cases h with
    | word h =>
      rw [h.tokens_pointer]
      exact h.ofPlainTokens?_pointer nullable isConst
    | @pointer word inner innerConst h =>
      simp only [isPointerLike, isBuffer, Bool.not_true, Bool.false_or, Bool.and_eq_true,
        Bool.not_eq_true'] at hfits
      have hword := h.isWord hfits.2
      obtain ⟨rfl, hconst⟩ := hlevels fun hpointer => hpointer.ne_pointer _ _ _ rfl
      have hlevel : ¬ (innerConst = true ∧ isConst = true) := by
        rintro ⟨hinner, houter⟩
        obtain ⟨word', -, heq⟩ := hconst houter
        rw [(CType.pointer.inj heq).2.2] at hinner
        cases hinner
      have htokens := hword.tokens_pointerToPointer innerConst isConst
      have hread := hword.ofPlainTokens?_pointerToPointer hlevel
      rw [pointerTo, pointerTo] at htokens hread
      rw [hfits.1, htokens]
      exact hread
    | function => cases hfits
    | pointerToArray h hlengths => exact absurd (eq_nil_of_not_pointsToArray hpoints) hlengths.1

/-- The spelling of a denoted type is read as the type exactly if the type reads back. -/
theorem ofTokens?_tokens_iff (h : Denoted type) (position : Position) :
    ofTokens? (tokens type.cText) position = some type ↔ type.readsBack = true := by
  induction h generalizing position with
  | word h =>
    rw [h.tokens_eq, ofTokens?_of_other (Declarator.ofTokens_eq_other (by simp) (by simp)),
      h.ofPlainTokens?_word, h.readsBack]
    simp
  | pointer h hpoints hlevels =>
    rw [ofTokens?_pointer h hpoints hlevels, readsBack_pointer h.ne_array]
  | @function params result hparams hresult hfree ihparams ihresult =>
    rw [ofTokens?_function hparams hresult hfree, readsBack, Bool.and_eq_true,
      readsBackAll_eq_true_iff, readsBackResult_eq_true_iff]
    refine and_congr (forall₂_congr fun param hparam => ihparams param hparam .signature) ?_
    exact forall₂_congr fun type htype => ihresult type htype .signature
  | @pointerToArray base lengths isConst h hlengths ih =>
    rw [ofTokens?_pointerToArray h hlengths, ih, pointerTo,
      readsBack_pointer_nest h.ne_array hlengths.1]
    simp

end Denoted

theorem Canonical.denoted {type : CType} (h : Canonical type) : Denoted type := by
  induction h with
  | atom h => exact .word (.atom h)
  | pointer nullable isConst h => exact (IsWord.atom h).denoted_pointer nullable isConst
  | pointerToPointer inner outer h hconst => exact (IsWord.atom h).denoted_pointerToPointer hconst
  | function _ _ hfree ihparams ihresult => exact .function ihparams ihresult hfree
  | pointerToArray _ hlengths _ ih => exact .pointerToArray ih hlengths

theorem Canonical.readsBack {type : CType} (h : Canonical type) : type.readsBack = true := by
  induction h with
  | atom h => exact (IsWord.atom h).readsBack
  | pointer nullable isConst h => exact (IsWord.atom h).readsBack_pointer nullable isConst
  | pointerToPointer inner outer h => exact (IsWord.atom h).readsBack_pointerToPointer inner outer
  | function _ _ _ ihparams ihresult =>
    rw [CType.readsBack, Bool.and_eq_true, readsBackAll_eq_true_iff, readsBackResult_eq_true_iff]
    exact ⟨ihparams, ihresult⟩
  | @pointerToArray base lengths isConst h hlengths hconst ih =>
    rw [pointerTo, readsBack_pointer_nest h.denoted.ne_array hlengths.1, ih, Bool.true_and]
    cases isConst with
    | true => rfl
    | false => simpa using hconst rfl

theorem Canonical.ofTokens?_tokens {type : CType} (h : Canonical type) (position : Position) :
    ofTokens? (tokens type.cText) position = some type :=
  (h.denoted.ofTokens?_tokens_iff position).mpr h.readsBack

theorem CanonicalAt.ofTokens?_tokens {position : Position} {type : CType}
    (h : CanonicalAt position type) : ofTokens? (tokens type.cText) position = some type := by
  cases h with
  | plain h => exact h.ofTokens?_tokens position
  | array h hpoints hlengths =>
    exact (h.denoted.ofTokens?_array hpoints hlengths).mpr (h.ofTokens?_tokens .value)

/-- A canonical type is what its own C spelling denotes. -/
theorem resolve_cText {position : Position} {type : CType} (h : CanonicalAt position type) :
    resolve type.cText position = .ok type := by
  rw [resolve, h.ofTokens?_tokens]

theorem resolve_cText_callbackTable :
    ∃ type, CanonicalAt .value type
      ∧ type.cText = "Item_t * (*)(const uint8_t * (*)[2][3], void (*)(Owner::EKind))[4]"
      ∧ resolve type.cText .value = .ok type := by
  have hitem : Canonical (pointerTo (named "Item_t") false) :=
    .pointer true false (.named (by simp only [IsPlainName]; decide))
  have hkind : Canonical (named "Owner::EKind") :=
    .atom (.named (by simp only [IsPlainName]; decide))
  have hrows : Canonical (pointerTo (nest (pointerTo (primitive .u8) false) [2, 3]) true) :=
    .pointerToArray (.pointer true false (.primitive .u8)) ⟨by decide, by decide⟩ (by simp)
  have hnotify : Canonical (function [named "Owner::EKind"] none true) :=
    .function (by simpa using hkind) (by simp) (by simp)
  have hcallback : Canonical (function
      [pointerTo (nest (pointerTo (primitive .u8) false) [2, 3]) true,
        function [named "Owner::EKind"] none true]
      (some (pointerTo (named "Item_t") false)) true) :=
    .function (by simpa using ⟨hrows, hnotify⟩) (by simpa using hitem)
      (by simp [mentionsFunction, pointerTo])
  have hlengths : AreLengths [4] := ⟨by decide, by decide⟩
  have htable : CanonicalAt .value _ :=
    .array hcallback (by rintro ⟨_, _, _, _, heq⟩; cases heq) hlengths
  exact ⟨_, htable, rfl, resolve_cText htable⟩

end AbiBridge.CType
