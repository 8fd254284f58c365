import AbiBridge.Proofs.CType.RoundTrip

/-!
# What spellings denote

Every type that the reader makes has the shape of a denoted type, or is an array of such in
value position. The first split of a spelling decides what its parts can be: the result of a
function has no function in it, and the element of an array is neither an array nor a pointer
to one.
-/

namespace AbiBridge.CType

inductive DenotedAt : Position → CType → Prop
  | plain {position : Position} {type : CType} : Denoted type → DenotedAt position type
  | array {base : CType} {lengths : List Nat} : Denoted base → ¬ PointsToArray base →
      AreLengths lengths → DenotedAt .value (nest base lengths)

/-! ## One step of the reader -/

theorem eq_append_of_stripConst {head element : List Token} {isConst : Bool}
    (h : stripConst head = (isConst, element)) : head = constTokens isConst ++ element := by
  unfold stripConst at h
  split at h <;> cases h <;> rfl

namespace Declarator

variable {tokens : List Token}

theorem splitBefore?_of_function {result : List Token} {parts : List (List Token)}
    (h : ofTokens tokens = .function result parts) :
    ∃ body, splitBefore? functionBody? tokens = some (result, body)
      ∧ parts = parameterPieces body := by
  unfold ofTokens at h
  split at h
  · next result' body hsplit =>
    cases h
    exact ⟨body, hsplit, rfl⟩
  · split at h
    · cases h
    · split at h <;> cases h

theorem splitBefore?_of_pointerToArray {isConst : Bool} {element : List Token}
    {words : List String} (h : ofTokens tokens = .pointerToArray isConst element words) :
    ∃ head, splitBefore? pointedLengthWords? tokens = some (head, words)
      ∧ stripConst head = (isConst, element) := by
  unfold ofTokens at h
  split at h
  · cases h
  · split at h
    · next head words' hsplit =>
      cases h
      exact ⟨head, hsplit, rfl⟩
    · split at h <;> cases h

theorem splitBefore?_of_array {element : List Token} {words : List String}
    (h : ofTokens tokens = .array element words) :
    splitBefore? pointedLengthWords? tokens = none
      ∧ splitBefore? lengthWords? tokens = some (element, words) := by
  unfold ofTokens at h
  split at h
  · cases h
  · split at h
    · cases h
    · next hpointed =>
      split at h
      · next element' words' hsplit =>
        cases h
        exact ⟨hpointed, hsplit⟩
      · cases h

/-- The tokens of a function are its result, the marks, and its parameters. -/
theorem eq_append_of_function {result : List Token} {parts : List (List Token)}
    (h : ofTokens tokens = .function result parts) :
    result ≠ [] ∧ ∃ body, parts = parameterPieces body
      ∧ tokens = result
        ++ .openParen :: .star :: .closeParen :: .openParen :: (body ++ [Token.closeParen]) := by
  obtain ⟨body, hsplit, hparts⟩ := splitBefore?_of_function h
  obtain ⟨hne, rest, hrest, heq, -⟩ := of_splitBefore?_eq_some hsplit
  exact ⟨hne, body, hparts, by rw [heq, functionBody?_eq_some_iff.mp hrest]⟩

theorem eq_append_of_pointerToArray {isConst : Bool} {element : List Token}
    {words : List String} (h : ofTokens tokens = .pointerToArray isConst element words) :
    words ≠ [] ∧ (∀ word ∈ words, word.toList.all Text.isDecimalDigit = true)
      ∧ tokens = constTokens isConst ++ element
        ++ .openParen :: .star :: .closeParen :: bracketed words := by
  obtain ⟨head, hsplit, hstrip⟩ := splitBefore?_of_pointerToArray h
  obtain ⟨-, rest, hrest, heq, -⟩ := of_splitBefore?_eq_some hsplit
  obtain ⟨rest', rfl, hwords⟩ := pointedLengthWords?_eq_some_iff.mp hrest
  obtain ⟨hne, hdigits, rfl⟩ := lengthWords?_eq_some_iff.mp hwords
  exact ⟨hne, hdigits, by rw [heq, eq_append_of_stripConst hstrip]⟩

theorem eq_append_of_array {element : List Token} {words : List String}
    (h : ofTokens tokens = .array element words) :
    words ≠ [] ∧ (∀ word ∈ words, word.toList.all Text.isDecimalDigit = true)
      ∧ tokens = element ++ bracketed words := by
  obtain ⟨-, hsplit⟩ := splitBefore?_of_array h
  obtain ⟨-, rest, hrest, heq, -⟩ := of_splitBefore?_eq_some hsplit
  obtain ⟨hne, hdigits, rfl⟩ := lengthWords?_eq_some_iff.mp hrest
  exact ⟨hne, hdigits, heq⟩

end Declarator

/-- One step of the reader: what it makes of the tokens by their outermost form. -/
inductive Step (tokens : List Token) (position : Position) : CType → Prop
  | procedure {parts : List (List Token)} {params : List CType} :
      Declarator.ofTokens tokens = .function [.word "void"] parts →
      parts.mapM (ofTokens? · .signature) = some params →
      Step tokens position (.function params none true)
  | function {result : List Token} {parts : List (List Token)} {type : CType}
      {params : List CType} :
      Declarator.ofTokens tokens = .function result parts →
      ofTokens? result .signature = some type →
      parts.mapM (ofTokens? · .signature) = some params →
      Step tokens position (.function params (some type) true)
  | pointerToArray {isConst : Bool} {element : List Token} {words : List String} {base : CType}
      {lengths : List Nat} :
      Declarator.ofTokens tokens = .pointerToArray isConst element words →
      ofTokens? element .value = some base → lengths? words = some lengths →
      Step tokens position (pointerTo (nest base lengths) isConst)
  | array {element : List Token} {words : List String} {base : CType} {lengths : List Nat} :
      Declarator.ofTokens tokens = .array element words →
      ofTokens? element .value = some base → lengths? words = some lengths →
      Step tokens position (arrayAt position (nest base lengths))
  | plain {type : CType} : ofPlainTokens? tokens = some type → Step tokens position type

theorem step_of_ofTokens? {tokens : List Token} {position : Position} {type : CType}
    (h : ofTokens? tokens position = some type) : Step tokens position type := by
  cases hshape : Declarator.ofTokens tokens with
  | function result parts =>
    rw [ofTokens?_of_function hshape] at h
    split at h
    · next hvoid =>
      rw [hvoid] at hshape
      obtain ⟨params, hparams, rfl⟩ := Option.map_eq_some_iff.mp h
      exact .procedure hshape hparams
    · obtain ⟨type, htype, h⟩ := Option.bind_eq_some_iff.mp h
      obtain ⟨params, hparams, rfl⟩ := Option.map_eq_some_iff.mp h
      exact .function hshape htype hparams
  | pointerToArray isConst element words =>
    rw [ofTokens?_of_pointerToArray hshape] at h
    obtain ⟨base, hbase, h⟩ := Option.bind_eq_some_iff.mp h
    obtain ⟨lengths, hlengths, rfl⟩ := Option.map_eq_some_iff.mp h
    exact .pointerToArray hshape hbase hlengths
  | array element words =>
    rw [ofTokens?_of_array hshape] at h
    obtain ⟨base, hbase, h⟩ := Option.bind_eq_some_iff.mp h
    obtain ⟨lengths, hlengths, rfl⟩ := Option.map_eq_some_iff.mp h
    exact .array hshape hbase hlengths
  | other =>
    rw [ofTokens?_of_other hshape] at h
    exact .plain h

theorem exists_of_mem_mapM_option {α β : Type} {f : α → Option β} {items : List α} {made : List β}
    (h : items.mapM f = some made) {b : β} (hb : b ∈ made) : ∃ a ∈ items, f a = some b := by
  induction items generalizing made with
  | nil =>
    cases h
    cases hb
  | cons a items ih =>
    rw [List.mapM_cons] at h
    obtain ⟨c, hc, h⟩ := Option.bind_eq_some_iff.mp h
    obtain ⟨rest, hrest, h⟩ := Option.bind_eq_some_iff.mp h
    cases h
    rcases List.mem_cons.mp hb with rfl | hb
    · exact ⟨a, List.mem_cons_self, hc⟩
    · obtain ⟨a', ha', heq⟩ := ih hrest hb
      exact ⟨a', List.mem_cons_of_mem _ ha', heq⟩

theorem exists_of_mapM_option {α β : Type} {f : α → Option β} {items : List α} {made : List β}
    (h : items.mapM f = some made) {a : α} (ha : a ∈ items) : ∃ b, f a = some b := by
  induction items generalizing made with
  | nil => cases ha
  | cons a' items ih =>
    rw [List.mapM_cons] at h
    obtain ⟨b, hb, h⟩ := Option.bind_eq_some_iff.mp h
    obtain ⟨rest, hrest, -⟩ := Option.bind_eq_some_iff.mp h
    rcases List.mem_cons.mp ha with rfl | ha
    · exact ⟨b, hb⟩
    · exact ih hrest ha

/-- What holds of a spelling if it holds of its parts holds of all that can be read. -/
theorem ofTokens?_induction {P : List Token → Position → CType → Prop}
    (procedure : ∀ {tokens position parts params},
      Declarator.ofTokens tokens = .function [.word "void"] parts →
      (∀ param ∈ params, ∃ part ∈ parts, P part .signature param) →
      P tokens position (.function params none true))
    (function : ∀ {tokens position result parts type params},
      Declarator.ofTokens tokens = .function result parts →
      ofTokens? result .signature = some type → P result .signature type →
      (∀ param ∈ params, ∃ part ∈ parts, P part .signature param) →
      P tokens position (.function params (some type) true))
    (pointerToArray : ∀ {tokens position isConst element words base lengths},
      Declarator.ofTokens tokens = .pointerToArray isConst element words →
      P element .value base → lengths? words = some lengths →
      P tokens position (pointerTo (nest base lengths) isConst))
    (array : ∀ {tokens position element words base lengths},
      Declarator.ofTokens tokens = .array element words →
      ofTokens? element .value = some base → P element .value base →
      lengths? words = some lengths → P tokens position (arrayAt position (nest base lengths)))
    (plain : ∀ {tokens position type}, ofPlainTokens? tokens = some type →
      P tokens position type)
    {tokens : List Token} {position : Position} {type : CType}
    (h : ofTokens? tokens position = some type) : P tokens position type := by
  induction hn : tokens.length using Nat.strongRecOn generalizing tokens position type with
  | ind n ih =>
    subst hn
    have hparams {result : List Token} {parts : List (List Token)} {params : List CType}
        (hshape : Declarator.ofTokens tokens = .function result parts)
        (hmade : parts.mapM (ofTokens? · .signature) = some params) :
        ∀ param ∈ params, ∃ part ∈ parts, P part .signature param := by
      intro param hparam
      obtain ⟨part, hpart, hread⟩ := exists_of_mem_mapM_option hmade hparam
      exact ⟨part, hpart, ih _ ((Declarator.length_lt_of_function hshape).2 part hpart) hread rfl⟩
    cases step_of_ofTokens? h with
    | procedure hshape hmade => exact procedure hshape (hparams hshape hmade)
    | function hshape htype hmade =>
      have hresult := ih _ (Declarator.length_lt_of_function hshape).1 htype rfl
      exact function hshape htype hresult (hparams hshape hmade)
    | pointerToArray hshape hbase hlengths =>
      have helement := ih _ (Declarator.length_lt_of_pointerToArray hshape) hbase rfl
      exact pointerToArray hshape helement hlengths
    | array hshape hbase hlengths =>
      have helement := ih _ (Declarator.length_lt_of_array hshape) hbase rfl
      exact array hshape hbase helement hlengths
    | plain h => exact plain h

/-! ## Lengths -/

theorem areLengths_of_lengths? {words : List String} {lengths : List Nat} (hne : words ≠ [])
    (h : lengths? words = some lengths) : AreLengths lengths := by
  constructor
  · rintro rfl
    cases words with
    | nil => exact absurd rfl hne
    | cons word words =>
      rw [lengths?, List.mapM_cons] at h
      obtain ⟨length, -, h⟩ := Option.bind_eq_some_iff.mp h
      obtain ⟨rest, -, h⟩ := Option.bind_eq_some_iff.mp h
      cases h
  · intro length hlength
    obtain ⟨word, -, hword⟩ := exists_of_mem_mapM_option h hlength
    exact Text.lt_of_word64? hword

@[simp] theorem nest_nest (base : CType) (outer inner : List Nat) :
    nest (nest base inner) outer = nest base (outer ++ inner) := by
  rw [nest, nest, nest, List.foldr_append]

theorem AreLengths.append {outer inner : List Nat} (houter : AreLengths outer)
    (hinner : AreLengths inner) : AreLengths (outer ++ inner) := by
  refine ⟨List.append_ne_nil_of_left_ne_nil houter.1 _, fun length hlength => ?_⟩
  rcases List.mem_append.mp hlength with h | h
  · exact houter.2 length h
  · exact hinner.2 length h

theorem AreLengths.exists_nest {lengths : List Nat} (h : AreLengths lengths) (base : CType) :
    ∃ element length, nest base lengths = array element length := by
  cases lengths with
  | nil => exact absurd rfl h.1
  | cons length lengths => exact ⟨nest base lengths, length, rfl⟩

/-! ## What the shapes of types tell of their tokens -/

section Shapes

variable {tokens : List Token} {position : Position} {type : CType}

theorem lengths_of_pointerToArray {isConst : Bool} {element : List Token} {words : List String}
    {lengths : List Nat} (h : Declarator.ofTokens tokens = .pointerToArray isConst element words)
    (hlengths : lengths? words = some lengths) : AreLengths lengths := by
  obtain ⟨hne, -⟩ := Declarator.eq_append_of_pointerToArray h
  exact areLengths_of_lengths? hne hlengths

theorem lengths_of_array {element : List Token} {words : List String} {lengths : List Nat}
    (h : Declarator.ofTokens tokens = .array element words)
    (hlengths : lengths? words = some lengths) : AreLengths lengths := by
  obtain ⟨hne, -⟩ := Declarator.eq_append_of_array h
  exact areLengths_of_lengths? hne hlengths

@[simp] theorem mentionsFunction_arrayAt (position : Position) (type : CType) :
    (arrayAt position type).mentionsFunction = type.mentionsFunction := by
  cases position with
  | value => rfl
  | signature => cases type <;> rfl

/-- A `(*)(` that is not in front. -/
def HasFunctionEnd (tokens : List Token) : Prop :=
  ∃ front back, front ≠ []
    ∧ tokens = front ++ .openParen :: .star :: .closeParen :: .openParen :: back

theorem hasFunctionEnd_of_function {result : List Token} {parts : List (List Token)}
    (hshape : Declarator.ofTokens tokens = .function result parts) : HasFunctionEnd tokens := by
  obtain ⟨hne, body, -, rfl⟩ := Declarator.eq_append_of_function hshape
  exact ⟨result, _, hne, rfl⟩

theorem HasFunctionEnd.append (h : HasFunctionEnd tokens) (before behind : List Token) :
    HasFunctionEnd (before ++ tokens ++ behind) := by
  obtain ⟨front, back, hne, rfl⟩ := h
  exact ⟨before ++ front, back ++ behind, by simp [hne], by simp⟩

theorem hasFunctionEnd_of_mentionsFunction (h : ofTokens? tokens position = some type) :
    type.mentionsFunction = true → HasFunctionEnd tokens := by
  refine ofTokens?_induction (P := fun tokens _ type => type.mentionsFunction = true →
    HasFunctionEnd tokens) ?procedure ?function ?pointerToArray ?array ?plain h
  case procedure => exact fun hshape _ _ => hasFunctionEnd_of_function hshape
  case function => exact fun hshape _ _ _ _ => hasFunctionEnd_of_function hshape
  case pointerToArray =>
    intro tokens position isConst element words base lengths hshape ih _ hmentions
    rw [pointerTo, mentionsFunction, mentionsFunction_nest] at hmentions
    obtain ⟨-, -, rfl⟩ := Declarator.eq_append_of_pointerToArray hshape
    exact (ih hmentions).append _ _
  case array =>
    intro tokens position element words base lengths hshape _ ih _ hmentions
    rw [mentionsFunction_arrayAt, mentionsFunction_nest] at hmentions
    obtain ⟨-, -, rfl⟩ := Declarator.eq_append_of_array hshape
    exact (ih hmentions).append [] _
  case plain =>
    intro tokens position type hplain hmentions
    rcases of_ofPlainTokens? hplain with hword | ⟨word, _, _, hword, rfl⟩
      | ⟨word, _, _, hword, -, rfl⟩
    · rw [hword.mentionsFunction_eq_false] at hmentions
      cases hmentions
    · rw [mentionsFunction, hword.mentionsFunction_eq_false] at hmentions
      cases hmentions
    · rw [pointerTo, pointerTo, mentionsFunction, mentionsFunction,
        hword.mentionsFunction_eq_false] at hmentions
      cases hmentions

/-- In value position an array, or a pointer to one, comes from tokens that end with lengths. -/
theorem value_cases (h : ofTokens? tokens .value = some type) :
    ((∀ element length, type ≠ array element length) ∧ ¬ PointsToArray type)
      ∨ ∃ front back words, front ≠ [] ∧ tokens = front ++ back
          ∧ (lengthWords? back = some words ∨ pointedLengthWords? back = some words) := by
  cases step_of_ofTokens? h with
  | procedure =>
    refine .inl ⟨(by intro _ _ heq; cases heq), ?_⟩
    rintro ⟨_, _, _, _, heq⟩
    cases heq
  | function =>
    refine .inl ⟨(by intro _ _ heq; cases heq), ?_⟩
    rintro ⟨_, _, _, _, heq⟩
    cases heq
  | @pointerToArray _ _ words _ _ hshape =>
    obtain ⟨head, hsplit, -⟩ := Declarator.splitBefore?_of_pointerToArray hshape
    obtain ⟨hne, rest, hfound, rfl, -⟩ := of_splitBefore?_eq_some hsplit
    exact .inr ⟨head, rest, words, hne, rfl, .inr hfound⟩
  | @array element words _ _ hshape =>
    obtain ⟨-, hsplit⟩ := Declarator.splitBefore?_of_array hshape
    obtain ⟨hne, rest, hfound, rfl, -⟩ := of_splitBefore?_eq_some hsplit
    exact .inr ⟨element, rest, words, hne, rfl, .inl hfound⟩
  | plain h =>
    left
    rcases of_ofPlainTokens? h with hword | ⟨word, _, _, hword, rfl⟩ | ⟨word, _, _, hword, -, rfl⟩
    · exact ⟨hword.ne_array, hword.not_pointsToArray⟩
    · refine ⟨(by intro _ _ heq; cases heq), ?_⟩
      rintro ⟨element, length, _, _, heq⟩
      exact hword.ne_array element length (CType.pointer.inj heq).1
    · refine ⟨(by intro _ _ heq; cases heq), ?_⟩
      rintro ⟨_, _, _, _, heq⟩
      cases heq

/-- The element of an array is neither an array nor a pointer to one: the split would have
fallen in front of its lengths. -/
theorem element_of_array {element : List Token} {words : List String} {base : CType}
    (hshape : Declarator.ofTokens tokens = .array element words)
    (hbase : ofTokens? element .value = some base) :
    (∀ element length, base ≠ array element length) ∧ ¬ PointsToArray base := by
  obtain ⟨hpointed, hsplit⟩ := Declarator.splitBefore?_of_array hshape
  obtain ⟨-, rest, hrest, rfl, hearly⟩ := of_splitBefore?_eq_some hsplit
  rcases value_cases hbase with hplain | ⟨front, back, words', hfront, rfl, hwords | hwords⟩
  · exact hplain
  · have hnone := hearly front back hfront (ne_nil_of_lengthWords? hwords) rfl
    rw [lengthWords?_append hwords hrest] at hnone
    cases hnone
  · obtain ⟨lengths, rfl, hlengths⟩ := pointedLengthWords?_eq_some_iff.mp hwords
    have hfound := pointedLengthWords?_eq_some_iff.mpr
      ⟨lengths ++ rest, rfl, lengthWords?_append hlengths hrest⟩
    have hnone := splitBefore?_eq_none_iff.mp hpointed front
      (.openParen :: .star :: .closeParen :: (lengths ++ rest)) hfront (by simp)
    rw [hfound] at hnone
    cases hnone

/-- The result of a function mentions none: the split would have fallen in front of it. -/
theorem mentionsFunction_result {result : List Token} {parts : List (List Token)} {type : CType}
    (hshape : Declarator.ofTokens tokens = .function result parts)
    (htype : ofTokens? result .signature = some type) : type.mentionsFunction = false := by
  obtain ⟨body, hsplit, -⟩ := Declarator.splitBefore?_of_function hshape
  obtain ⟨-, rest, hrest, rfl, hearly⟩ := of_splitBefore?_eq_some hsplit
  refine Bool.eq_false_iff.mpr fun hmentions => ?_
  obtain ⟨front, back, hfront, rfl⟩ := hasFunctionEnd_of_mentionsFunction htype hmentions
  have hnone := hearly front _ hfront (by simp) rfl
  have hfound : functionBody? (.openParen :: .star :: .closeParen :: .openParen :: back ++ rest)
      = some (back ++ Token.openParen :: .star :: .closeParen :: .openParen :: body) := by
    rw [functionBody?_eq_some_iff.mp hrest]
    exact functionBody?_eq_some_iff.mpr (by simp)
  rw [hfound] at hnone
  cases hnone

end Shapes

/-! ## The types of spellings -/

theorem DenotedAt.denoted {type : CType} (h : DenotedAt .signature type) : Denoted type := by
  cases h with
  | plain h => exact h

/-- An array in a signature is a pointer to its first element. -/
theorem denotedAt_arrayAt {base : CType} {lengths : List Nat} (h : Denoted base)
    (hpoints : ¬ PointsToArray base) (hlengths : AreLengths lengths) (position : Position) :
    DenotedAt position (arrayAt position (nest base lengths)) := by
  cases position with
  | value => exact .array h hpoints hlengths
  | signature =>
    cases lengths with
    | nil => exact absurd rfl hlengths.1
    | cons length lengths =>
      cases lengths with
      | nil => exact .plain (.pointer h hpoints fun _ => ⟨rfl, by simp⟩)
      | cons length' lengths =>
        have hrest : AreLengths (length' :: lengths) :=
          ⟨by simp, fun n hn => hlengths.2 n (List.mem_cons_of_mem _ hn)⟩
        exact .plain (.pointerToArray h hrest)

theorem denotedAt_of_ofTokens? {tokens : List Token} {position : Position} {type : CType}
    (h : ofTokens? tokens position = some type) : DenotedAt position type := by
  have hparams {parts : List (List Token)} {params : List CType}
      (hmade : ∀ param ∈ params, ∃ part ∈ parts, DenotedAt .signature param) :
      ∀ param ∈ params, Denoted param := by
    intro param hparam
    obtain ⟨part, -, hread⟩ := hmade param hparam
    exact hread.denoted
  refine ofTokens?_induction (P := fun _ position type => DenotedAt position type)
    ?procedure ?function ?pointerToArray ?array ?plain h
  case procedure =>
    intro tokens position parts params _ hmade
    exact .plain (.function (hparams hmade) (by simp) (by simp))
  case function =>
    intro tokens position result parts type params hshape htype ih hmade
    have hdenoted := ih.denoted
    have hfree := mentionsFunction_result hshape htype
    exact .plain (.function (hparams hmade) (by simpa using hdenoted) (by simpa using hfree))
  case pointerToArray =>
    intro tokens position isConst element words base lengths hshape ih hlengths
    have houter := lengths_of_pointerToArray hshape hlengths
    cases ih with
    | plain helement => exact .plain (.pointerToArray helement houter)
    | array helement _ hinner =>
      rw [nest_nest]
      exact .plain (.pointerToArray helement (houter.append hinner))
  case array =>
    intro tokens position element words base lengths hshape hbase ih hlengths
    obtain ⟨harray, hpoints⟩ := element_of_array hshape hbase
    cases ih with
    | plain helement =>
      exact denotedAt_arrayAt helement hpoints (lengths_of_array hshape hlengths) position
    | array _ _ hinner =>
      obtain ⟨element, length, heq⟩ := hinner.exists_nest _
      exact absurd heq (harray element length)
  case plain =>
    intro tokens position type hplain
    rcases of_ofPlainTokens? hplain with hword | ⟨word, nullable, isConst, hword, rfl⟩
      | ⟨word, inner, outer, hword, hconst, rfl⟩
    · exact .plain (.word hword)
    · exact .plain (hword.denoted_pointer nullable isConst)
    · exact .plain (hword.denoted_pointerToPointer hconst)

/-! ## Spellings without arrays -/

theorem mem_of_mem_splitCommas {depth : Nat} {piece tokens part : List Token} {token : Token}
    (hpart : part ∈ splitCommas depth piece tokens) (htoken : token ∈ part) :
    token ∈ piece ++ tokens := by
  fun_induction splitCommas depth piece tokens with
  | case1 => simp_all
  | case2 _ _ _ ih => simpa using ih hpart
  | case3 _ _ _ ih => simpa using ih hpart
  | case4 piece rest ih =>
    rcases List.mem_cons.mp hpart with rfl | hpart
    · exact List.mem_append_left _ htoken
    · have := ih hpart
      simp_all
  | case5 _ _ _ _ ih => simpa using ih hpart
  | case6 _ _ _ _ _ _ _ ih => simpa using ih hpart

theorem mem_of_mem_parameterPieces {body part : List Token} {token : Token}
    (hpart : part ∈ parameterPieces body) (htoken : token ∈ part) : token ∈ body := by
  unfold parameterPieces at hpart
  split at hpart
  · cases hpart
  · simpa using mem_of_mem_splitCommas hpart htoken

/-- Only arrays decay and have pointers to them, so without brackets all is well. -/
theorem readsBack_of_ofTokens? {tokens : List Token} {position : Position} {type : CType}
    (h : ofTokens? tokens position = some type) :
    Token.openBracket ∉ tokens → type.readsBack = true := by
  have hparams {tokens result : List Token} {parts : List (List Token)} {params : List CType}
      (hshape : Declarator.ofTokens tokens = .function result parts)
      (hmade : ∀ param ∈ params, ∃ part ∈ parts,
        Token.openBracket ∉ part → param.readsBack = true)
      (hbracket : Token.openBracket ∉ tokens) : readsBackAll params = true := by
    refine readsBackAll_eq_true_iff.mpr fun param hparam => ?_
    obtain ⟨part, hpart, hread⟩ := hmade param hparam
    refine hread fun hmem => hbracket ?_
    obtain ⟨-, body, rfl, rfl⟩ := Declarator.eq_append_of_function hshape
    simp [mem_of_mem_parameterPieces hpart hmem]
  refine ofTokens?_induction (P := fun tokens _ type => Token.openBracket ∉ tokens →
    type.readsBack = true) ?procedure ?function ?pointerToArray ?array ?plain h
  case procedure =>
    intro tokens position parts params hshape hmade hbracket
    rw [CType.readsBack, hparams hshape hmade hbracket]
    rfl
  case function =>
    intro tokens position result parts type params hshape _ ih hmade hbracket
    have hresult : type.readsBack = true := by
      refine ih fun hmem => hbracket ?_
      obtain ⟨-, body, -, rfl⟩ := Declarator.eq_append_of_function hshape
      exact List.mem_append_left _ hmem
    rw [CType.readsBack, hparams hshape hmade hbracket, readsBackResult, hresult]
    rfl
  case pointerToArray =>
    intro tokens position isConst element words base lengths hshape _ _ hbracket
    obtain ⟨hne, -, rfl⟩ := Declarator.eq_append_of_pointerToArray hshape
    simp [openBracket_mem_bracketed hne] at hbracket
  case array =>
    intro tokens position element words base lengths hshape _ _ _ hbracket
    obtain ⟨hne, -, rfl⟩ := Declarator.eq_append_of_array hshape
    simp [openBracket_mem_bracketed hne] at hbracket
  case plain =>
    intro tokens position type hplain _
    rcases of_ofPlainTokens? hplain with hword | ⟨word, nullable, isConst, hword, rfl⟩
      | ⟨word, inner, outer, hword, -, rfl⟩
    · exact hword.readsBack
    · exact hword.readsBack_pointer nullable isConst
    · exact hword.readsBack_pointerToPointer inner outer

/-! ## The round trip -/

theorem DenotedAt.ofTokens?_tokens_iff {position : Position} {type : CType}
    (h : DenotedAt position type) :
    ofTokens? (tokens type.cText) position = some type ↔ type.readsBack = true := by
  cases h with
  | plain h => exact h.ofTokens?_tokens_iff position
  | array h hpoints hlengths =>
    rw [h.ofTokens?_array hpoints hlengths, h.ofTokens?_tokens_iff, readsBack_nest]

theorem resolve_eq_ok_iff {raw : String} {position : Position} {type : CType} :
    resolve raw position = .ok type ↔ ofTokens? (tokens raw) position = some type := by
  unfold resolve
  cases ofTokens? (tokens raw) position <;> simp

theorem resolve_of_other {raw : String} {position : Position} {type : CType}
    (hshape : Declarator.ofTokens (tokens raw) = .other)
    (htype : ofPlainTokens? (tokens raw) = some type) : resolve raw position = .ok type := by
  rw [resolve_eq_ok_iff, ofTokens?_of_other hshape]
  exact htype

theorem resolve_of_array {raw : String} {position : Position} {element : List Token}
    {words : List String} {base type : CType} {lengths : List Nat}
    (hshape : Declarator.ofTokens (tokens raw) = .array element words)
    (helement : Declarator.ofTokens element = .other)
    (hbase : ofPlainTokens? element = some base) (hlengths : lengths? words = some lengths)
    (htype : arrayAt position (nest base lengths) = type) : resolve raw position = .ok type := by
  rw [resolve_eq_ok_iff, ofTokens?_of_array hshape, ofTokens?_of_other helement, hbase, hlengths,
    ← htype]
  rfl

/-- A resolved type is what its own C spelling denotes exactly if it reads back, and every type
from a spelling without brackets does. -/
theorem resolve_cText_eq_ok_iff {raw : String} {position : Position} {type : CType}
    (h : resolve raw position = .ok type) :
    (resolve type.cText position = .ok type ↔ type.readsBack = true)
      ∧ (Token.openBracket ∉ tokens raw → type.readsBack = true) := by
  rw [resolve_eq_ok_iff] at h
  constructor
  · rw [resolve_eq_ok_iff]
    exact (denotedAt_of_ofTokens? h).ofTokens?_tokens_iff
  · exact readsBack_of_ofTokens? h

/-- An array of double pointers decays to a third level, for which there is no pointer form. -/
theorem resolve_tripleLevel : resolve "char **[3]" .signature
    = .ok (pointerTo (pointerTo (pointerTo (primitive .u8) false) false) false) :=
  resolve_of_array rfl rfl rfl rfl rfl

theorem resolve_constLevel : resolve "Item_t *const *" .value
    = .ok (pointerTo (pointerTo (named "Item_t") false) true) :=
  resolve_of_other rfl rfl

theorem resolve_cText_eq_ok_iff_levels :
    (∃ type, resolve "char **[3]" .signature = .ok type ∧ type.cText = "uint8_t ***"
      ∧ (resolve type.cText .signature = .ok type ↔ type.readsBack = true)
      ∧ type.readsBack = false)
    ∧ ∃ type, resolve "Item_t *const *" .value = .ok type ∧ type.cText = "Item_t *const *"
      ∧ resolve type.cText .value = .ok type := by
  have hbroken := resolve_cText_eq_ok_iff resolve_tripleLevel
  have hkept := resolve_cText_eq_ok_iff resolve_constLevel
  have hbracket : Token.openBracket ∉ tokens "Item_t *const *" := by decide
  exact ⟨⟨_, resolve_tripleLevel, rfl, hbroken.1, rfl⟩,
    ⟨_, resolve_constLevel, rfl, hkept.1.mpr (hkept.2 hbracket)⟩⟩

/-- The rows of a matrix of strings. -/
theorem resolve_stringRows : resolve "const char *[3][4]" .signature
    = .ok (pointerTo (array (pointerTo (primitive .u8) true) 4) false) :=
  resolve_of_array rfl rfl rfl rfl rfl

/-- In the spelling of the rows the qualifier of the strings is taken for that of the rows. -/
theorem resolve_cText_stringRows : resolve "const uint8_t * (*)[4]" .signature
    = .ok (pointerTo (array (pointerTo (primitive .u8) false) 4) true) := by
  have hrow : Declarator.ofTokens (tokens "const uint8_t * (*)[4]")
      = .pointerToArray true [.word "uint8_t", .star] ["4"] := rfl
  have hstring : Declarator.ofTokens [.word "uint8_t", .star] = .other := rfl
  rw [resolve_eq_ok_iff, ofTokens?_of_pointerToArray hrow, ofTokens?_of_other hstring]
  rfl

theorem not_forall_resolve_cText :
    ¬ ∀ (raw : String) (position : Position) (type : CType),
      resolve raw position = .ok type → resolve type.cText position = .ok type := by
  intro hall
  have hback := hall _ _ _ resolve_stringRows
  have htext : (pointerTo (array (pointerTo (primitive .u8) true) 4) false).cText
      = "const uint8_t * (*)[4]" := rfl
  rw [htext, resolve_cText_stringRows] at hback
  cases hback

end AbiBridge.CType
