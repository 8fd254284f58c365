import AbiBridge.CType.Resolve
import AbiBridge.Proofs.CType.Denoted

/-!
# Reading by the outermost form

The reader takes one step by the outermost form of a spelling. Tokens of no such form denote a
word or at most two pointers around one.
-/

namespace AbiBridge.CType

section Forms

variable {tokens : List Token} {position : Position}

theorem ofTokens?_of_function {result : List Token} {params : List (List Token)}
    (h : Declarator.ofTokens tokens = .function result params) :
    ofTokens? tokens position
      = if result = [.word "void"] then
          (params.mapM (ofTokens? · .signature)).map fun params => .function params none true
        else
          (ofTokens? result .signature).bind fun result =>
            (params.mapM (ofTokens? · .signature)).map fun params =>
              .function params (some result) true := by
  have hattach : (params.attach.mapM fun part => ofTokens? part.1 .signature)
      = params.mapM (ofTokens? · .signature) := by
    rw [List.mapM_subtype (g := fun part => ofTokens? part .signature) (fun _ _ => rfl)]
    simp
  rw [ofTokens?]
  split
  · next shape =>
    rw [h] at shape
    cases shape
    simp only [hattach]
  · next shape => rw [h] at shape; cases shape
  · next shape => rw [h] at shape; cases shape
  · next shape => rw [h] at shape; cases shape

theorem ofTokens?_of_pointerToArray {isConst : Bool} {element : List Token} {words : List String}
    (h : Declarator.ofTokens tokens = .pointerToArray isConst element words) :
    ofTokens? tokens position
      = (ofTokens? element .value).bind fun element =>
          (lengths? words).map fun lengths => pointerTo (nest element lengths) isConst := by
  rw [ofTokens?]
  split
  · next shape => rw [h] at shape; cases shape
  · next shape =>
    rw [h] at shape
    cases shape
    rfl
  · next shape => rw [h] at shape; cases shape
  · next shape => rw [h] at shape; cases shape

theorem ofTokens?_of_array {element : List Token} {words : List String}
    (h : Declarator.ofTokens tokens = .array element words) :
    ofTokens? tokens position
      = (ofTokens? element .value).bind fun element =>
          (lengths? words).map fun lengths => arrayAt position (nest element lengths) := by
  rw [ofTokens?]
  split
  · next shape => rw [h] at shape; cases shape
  · next shape => rw [h] at shape; cases shape
  · next shape =>
    rw [h] at shape
    cases shape
    rfl
  · next shape => rw [h] at shape; cases shape

theorem ofTokens?_of_other (h : Declarator.ofTokens tokens = .other) :
    ofTokens? tokens position = ofPlainTokens? tokens := by
  rw [ofTokens?]
  split
  · next shape => rw [h] at shape; cases shape
  · next shape => rw [h] at shape; cases shape
  · next shape => rw [h] at shape; cases shape
  · rfl

end Forms

theorem lengths?_map_toString {lengths : List Nat} (h : ∀ length ∈ lengths, length < Word.count 64) :
    lengths? (lengths.map toString) = some lengths := by
  induction lengths with
  | nil => rfl
  | cons length lengths ih =>
    have hlength := Text.word64?_toString (h length List.mem_cons_self)
    have hlengths := ih fun n hn => h n (List.mem_cons_of_mem _ hn)
    rw [lengths?] at hlengths ⊢
    rw [List.map_cons, List.mapM_cons, hlength, hlengths]
    rfl

section Atoms

variable {type : CType} {word : String} (h : SpelledAs type word)
include h

theorem pointeeOfWords?_word : pointeeOfWords? [word] = some type := by
  rw [pointeeOfWords?, if_neg (by simp [h.ne_void]), h.ofWords?_eq]

theorem ofPlainTokens?_word : ofPlainTokens? [.word word] = some type := by
  rw [ofPlainTokens?, if_neg (by simp)]
  exact h.ofWords?_eq

theorem ofPlainTokens?_pointer (nullable isConst : Bool) :
    ofPlainTokens? (constTokens isConst ++ [Token.word word, sigilToken nullable])
      = some (pointer type nullable isConst) := by
  have hword := h.ne_const.symm
  have hpointee := h.isPointeeWord
  have htype := pointeeOfWords?_word h
  cases nullable <;> cases isConst <;>
    simp [ofPlainTokens?, pointerForms, PointerForm.pointee?, constTokens, sigilToken,
      List.isPrefixOf?, List.isSuffixOf?, wordTexts?, hword, hpointee, htype, pointerTo,
      referenceTo]

theorem ofPlainTokens?_pointerToPointer {inner outer : Bool}
    (hconst : ¬ (inner = true ∧ outer = true)) :
    ofPlainTokens?
        (constTokens inner ++ [Token.word word, .star] ++ constTokens outer ++ [Token.star])
      = some (pointerTo (pointerTo type inner) outer) := by
  have hword := h.ne_const.symm
  have hpointee := h.isPointeeWord
  have htype := pointeeOfWords?_word h
  cases inner <;> cases outer
  case true.true => exact absurd ⟨rfl, rfl⟩ hconst
  all_goals
    simp [ofPlainTokens?, pointerForms, PointerForm.pointee?, constTokens, List.isPrefixOf?,
      List.isSuffixOf?, wordTexts?, hword, hpointee, htype]

end Atoms

namespace IsWord

variable {type : CType}

theorem ofPlainTokens?_word (h : IsWord type) :
    ofPlainTokens? [.word type.cText] = some type := by
  cases h with
  | atom h => exact CType.ofPlainTokens?_word h.spelledAs
  | const => rfl

theorem ofPlainTokens?_pointer (h : IsWord type) (nullable isConst : Bool) :
    ofPlainTokens? (constTokens isConst ++ [Token.word type.cText, sigilToken nullable])
      = some (pointer type nullable isConst) := by
  cases h with
  | atom h => exact CType.ofPlainTokens?_pointer h.spelledAs nullable isConst
  | const => cases nullable <;> cases isConst <;> rfl

theorem ofPlainTokens?_pointerToPointer (h : IsWord type) {inner outer : Bool}
    (hconst : ¬ (inner = true ∧ outer = true)) :
    ofPlainTokens?
        (constTokens inner ++ [Token.word type.cText, .star] ++ constTokens outer ++ [Token.star])
      = some (pointerTo (pointerTo type inner) outer) := by
  cases h with
  | atom h => exact CType.ofPlainTokens?_pointerToPointer h.spelledAs hconst
  | const =>
    cases inner with
    | false => cases outer <;> rfl
    | true =>
      cases outer with
      | false => rfl
      | true => exact absurd ⟨rfl, rfl⟩ hconst

end IsWord

theorem isWord_of_ofBareWords? {words : List String} {type : CType}
    (h : ofBareWords? words = some type) : IsWord type := by
  unfold ofBareWords? at h
  simp only at h
  split at h
  · cases h
  · next hwidth =>
    split at h
    · cases h
      exact .atom (.primitive _)
    · next hprimitive =>
      split at h
      · next name =>
        split at h
        · next hname =>
          cases h
          by_cases hconst : name = "const"
          · rw [hconst]
            exact .const
          · rw [String.intercalate_singleton] at hwidth hprimitive
            exact .atom (.named ⟨hname.2, hname.1, hconst, hprimitive, hwidth⟩)
        · cases h
      · cases h

theorem isWord_of_ofWords? {words : List String} {type : CType} (h : ofWords? words = some type) :
    IsWord type := by
  fun_induction ofWords? words with
  | case1 word next rest hqualifier ih => exact ih h
  | case2 => exact isWord_of_ofBareWords? h
  | case3 => exact isWord_of_ofBareWords? h

theorem isWord_of_pointeeOfWords? {words : List String} {type : CType}
    (h : pointeeOfWords? words = some type) : IsWord type := by
  unfold pointeeOfWords? at h
  split at h
  · cases h
    exact .atom (.primitive _)
  · exact isWord_of_ofWords? h

/-- Plain tokens denote a word or at most two pointers around one. -/
theorem of_ofPlainTokens? {tokens : List Token} {type : CType}
    (h : ofPlainTokens? tokens = some type) :
    IsWord type
      ∨ (∃ word nullable isConst, IsWord word ∧ type = pointer word nullable isConst)
      ∨ ∃ word inner outer, IsWord word ∧ ¬ (inner = true ∧ outer = true)
          ∧ type = pointerTo (pointerTo word inner) outer := by
  unfold ofPlainTokens? at h
  split at h
  · obtain ⟨⟨form, words⟩, hform, h⟩ := Option.bind_eq_some_iff.mp h
    obtain ⟨word, hpointee, rfl⟩ := Option.map_eq_some_iff.mp h
    have hword := isWord_of_pointeeOfWords? hpointee
    obtain ⟨form', hmem, hfound⟩ := List.exists_of_findSome?_eq_some hform
    obtain ⟨words', -, heq⟩ := Option.map_eq_some_iff.mp hfound
    cases heq
    simp only [pointerForms, List.mem_cons, List.not_mem_nil, or_false] at hmem
    rcases hmem with rfl | rfl | rfl | rfl | rfl | rfl | rfl
    · exact .inr (.inr ⟨word, true, false, hword, by simp, rfl⟩)
    · exact .inr (.inr ⟨word, false, true, hword, by simp, rfl⟩)
    · exact .inr (.inr ⟨word, false, false, hword, by simp, rfl⟩)
    · exact .inr (.inl ⟨word, false, true, hword, rfl⟩)
    · exact .inr (.inl ⟨word, false, false, hword, rfl⟩)
    · exact .inr (.inl ⟨word, true, true, hword, rfl⟩)
    · exact .inr (.inl ⟨word, true, false, hword, rfl⟩)
  · obtain ⟨words, -, h⟩ := Option.bind_eq_some_iff.mp h
    exact .inl (isWord_of_ofWords? h)

end AbiBridge.CType
