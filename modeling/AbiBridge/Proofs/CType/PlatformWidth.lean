import AbiBridge.Proofs.CType.PointerForm

/-!
# Words of a spelling

The marks of a spelling cut it into runs of words: what it says of value types, of qualifiers
and of lengths. In a spelling that is read no run is a C type whose width depends on the
platform, however deep it stands and whatever qualifiers it has in front.
-/

namespace AbiBridge.CType

/-- The words between each two marks, in front of the first and behind the last. -/
def wordRuns : List Token → List (List String)
  | [] => [[]]
  | .word text :: rest => (wordRuns rest).modifyHead (text :: ·)
  | _ :: rest => [] :: wordRuns rest

def bareWords : List String → List String
  | word :: next :: rest =>
    if isQualifier word then bareWords (next :: rest) else word :: next :: rest
  | words => words

/-- No run of words is a type whose width depends on the platform. -/
def AvoidsPlatformWidth (tokens : List Token) : Prop :=
  ∀ run ∈ wordRuns tokens, " ".intercalate (bareWords run) ∉ platformWidthSpellings

instance (tokens : List Token) : Decidable (AvoidsPlatformWidth tokens) :=
  inferInstanceAs (Decidable (∀ run ∈ wordRuns tokens, _))

theorem wordRuns_ne_nil (tokens : List Token) : wordRuns tokens ≠ [] := by
  fun_induction wordRuns tokens with
  | case1 => simp
  | case2 text rest ih => simpa [List.modifyHead_eq_nil_iff] using ih
  | case3 => simp

theorem wordRuns_mark {mark : Token} (hmark : ∀ text, mark ≠ .word text) (rest : List Token) :
    wordRuns (mark :: rest) = [] :: wordRuns rest := by
  cases mark with
  | word text => exact absurd rfl (hmark text)
  | _ => rfl

theorem wordRuns_append {mark : Token} (hmark : ∀ text, mark ≠ .word text)
    (front rest : List Token) :
    wordRuns (front ++ mark :: rest) = wordRuns front ++ wordRuns rest := by
  fun_induction wordRuns front with
  | case1 => rw [List.nil_append, wordRuns_mark hmark, List.singleton_append]
  | case2 text front ih =>
    rw [List.cons_append, wordRuns, ih]
    obtain ⟨run, runs, heq⟩ := List.exists_cons_of_ne_nil (wordRuns_ne_nil front)
    rw [heq]
    rfl
  | case3 token front hword ih =>
    rw [List.cons_append, wordRuns_mark fun text heq => hword text heq, ih]
    rfl

@[simp] theorem wordRuns_map_word (words : List String) : wordRuns (words.map .word) = [words] := by
  induction words with
  | nil => rfl
  | cons word words ih => rw [List.map_cons, wordRuns, ih, List.modifyHead_cons]

namespace AvoidsPlatformWidth

theorem append_iff {mark : Token} (hmark : ∀ text, mark ≠ .word text) {front rest : List Token} :
    AvoidsPlatformWidth (front ++ mark :: rest)
      ↔ AvoidsPlatformWidth front ∧ AvoidsPlatformWidth rest := by
  rw [AvoidsPlatformWidth, wordRuns_append hmark, List.forall_mem_append]
  rfl

theorem map_word_iff (words : List String) :
    AvoidsPlatformWidth (words.map .word)
      ↔ " ".intercalate (bareWords words) ∉ platformWidthSpellings := by
  rw [AvoidsPlatformWidth, wordRuns_map_word, List.forall_mem_singleton]

theorem nil : AvoidsPlatformWidth [] :=
  (map_word_iff []).mpr (by decide)

theorem mark_iff {mark : Token} (hmark : ∀ text, mark ≠ .word text) {rest : List Token} :
    AvoidsPlatformWidth (mark :: rest) ↔ AvoidsPlatformWidth rest := by
  rw [← List.nil_append (mark :: rest), append_iff hmark, and_iff_right nil]

/-- A qualifier in front of a value type is passed over. -/
theorem const {tokens : List Token} (h : AvoidsPlatformWidth tokens) :
    AvoidsPlatformWidth (.word "const" :: tokens) := by
  obtain ⟨run, runs, heq⟩ := List.exists_cons_of_ne_nil (wordRuns_ne_nil tokens)
  rw [AvoidsPlatformWidth, heq, List.forall_mem_cons] at h
  rw [AvoidsPlatformWidth, wordRuns, heq, List.modifyHead_cons, List.forall_mem_cons]
  refine ⟨?_, h.2⟩
  cases run with
  | nil => decide
  | cons word run => exact h.1

theorem constTokens_append {tokens : List Token} (h : AvoidsPlatformWidth tokens)
    (isConst : Bool) : AvoidsPlatformWidth (constTokens isConst ++ tokens) := by
  cases isConst with
  | false => exact h
  | true => exact h.const

theorem append_bracketed {tokens : List Token} {words : List String}
    (h : AvoidsPlatformWidth tokens)
    (hdigits : ∀ word ∈ words, word.toList.all Text.isDecimalDigit = true) :
    AvoidsPlatformWidth (tokens ++ bracketed words) := by
  induction words generalizing tokens with
  | nil => rwa [bracketed, List.append_nil]
  | cons word words ih =>
    obtain ⟨hword, hwords⟩ := List.forall_mem_cons.mp hdigits
    have hrest := ih nil hwords
    rw [bracketed, append_iff (by simp), ← List.singleton_append, append_iff (by simp)]
    refine ⟨h, (map_word_iff [word]).mpr fun hmem => ?_, hrest⟩
    have hletters : ∀ spelling ∈ platformWidthSpellings,
        spelling.toList.all Text.isDecimalDigit = false := by decide
    have hnot := hletters word (by simpa [bareWords] using hmem)
    rw [hword] at hnot
    cases hnot

/-- The marks of a function around its parameters. -/
theorem parameters {body : List Token} (h : AvoidsPlatformWidth body) :
    AvoidsPlatformWidth (.star :: .closeParen :: .openParen :: (body ++ [Token.closeParen])) := by
  rw [mark_iff (by simp), mark_iff (by simp), mark_iff (by simp), append_iff (by simp)]
  exact ⟨h, nil⟩

end AvoidsPlatformWidth

theorem ofWords?_eq (words : List String) : ofWords? words = ofBareWords? (bareWords words) := by
  fun_induction bareWords words with
  | case1 word next rest hqualifier ih => rw [ofWords?, if_pos hqualifier, ih]
  | case2 word next rest hqualifier => rw [ofWords?, if_neg hqualifier]
  | case3 words hshort => rw [ofWords?]; exact hshort

theorem avoidsPlatformWidth_of_ofWords? {words : List String} {type : CType}
    (h : ofWords? words = some type) : AvoidsPlatformWidth (words.map .word) := by
  rw [ofWords?_eq] at h
  refine (AvoidsPlatformWidth.map_word_iff _).mpr fun hmem => ?_
  unfold ofBareWords? at h
  rw [if_pos hmem] at h
  cases h

theorem avoidsPlatformWidth_of_pointeeOfWords? {words : List String} {type : CType}
    (h : pointeeOfWords? words = some type) : AvoidsPlatformWidth (words.map .word) := by
  rw [pointeeOfWords?] at h
  split at h
  · next hvoid =>
    rw [hvoid]
    exact (AvoidsPlatformWidth.map_word_iff _).mpr (by decide)
  · exact avoidsPlatformWidth_of_ofWords? h

/-- The forms end with a mark, and but for that mark with nothing or with one more and `const`. -/
theorem exists_ending_of_mem_pointerForms {form : PointerForm} (h : form ∈ pointerForms) :
    ∃ mark rest, form.ending = mark :: rest ∧ (∀ text, mark ≠ .word text)
      ∧ AvoidsPlatformWidth rest := by
  simp only [pointerForms, List.mem_cons, List.not_mem_nil, or_false] at h
  rcases h with rfl | rfl | rfl | rfl | rfl | rfl | rfl
  all_goals exact ⟨_, _, rfl, by simp, by decide⟩

theorem avoidsPlatformWidth_of_ofPlainTokens? {tokens : List Token} {type : CType}
    (h : ofPlainTokens? tokens = some type) : AvoidsPlatformWidth tokens := by
  unfold ofPlainTokens? at h
  split at h
  · obtain ⟨⟨form, words⟩, hform, h⟩ := Option.bind_eq_some_iff.mp h
    obtain ⟨word, hpointee, rfl⟩ := Option.map_eq_some_iff.mp h
    have hwords := avoidsPlatformWidth_of_pointeeOfWords? hpointee
    obtain ⟨form', hmem, hfound⟩ := List.exists_of_findSome?_eq_some hform
    obtain ⟨words', hwords', heq⟩ := Option.map_eq_some_iff.mp hfound
    cases heq
    rw [form.eq_append_of_pointee? hwords']
    refine AvoidsPlatformWidth.constTokens_append ?_ _
    obtain ⟨mark, rest, heq, hmark, hrest⟩ := exists_ending_of_mem_pointerForms hmem
    rw [heq, AvoidsPlatformWidth.append_iff hmark]
    exact ⟨hwords, hrest⟩
  · obtain ⟨words, hwords, h⟩ := Option.bind_eq_some_iff.mp h
    rw [wordTexts?_eq_some_iff.mp hwords]
    exact avoidsPlatformWidth_of_ofWords? h

theorem avoidsPlatformWidth_of_splitCommas {depth : Nat} {piece tokens : List Token}
    (h : ∀ part ∈ splitCommas depth piece tokens, AvoidsPlatformWidth part) :
    AvoidsPlatformWidth (piece ++ tokens) := by
  fun_induction splitCommas depth piece tokens with
  | case1 => simpa using h
  | case2 _ _ _ ih => simpa using ih h
  | case3 _ _ _ ih => simpa using ih h
  | case4 piece rest ih =>
    obtain ⟨hpiece, hrest⟩ := List.forall_mem_cons.mp h
    exact (AvoidsPlatformWidth.append_iff (by simp)).mpr ⟨hpiece, ih hrest⟩
  | case5 _ _ _ _ ih => simpa using ih h
  | case6 _ _ _ _ _ _ _ ih => simpa using ih h

theorem avoidsPlatformWidth_of_parameterPieces {body : List Token}
    (h : ∀ part ∈ parameterPieces body, AvoidsPlatformWidth part) : AvoidsPlatformWidth body := by
  unfold parameterPieces at h
  split at h
  · next hbody =>
    rcases hbody with rfl | rfl
    · exact .nil
    · exact (AvoidsPlatformWidth.map_word_iff ["void"]).mpr (by decide)
  · simpa using avoidsPlatformWidth_of_splitCommas h

open AvoidsPlatformWidth in
/-- In tokens that are read no run of words is a type whose width depends on the platform. -/
theorem avoidsPlatformWidth_of_ofTokens? {tokens : List Token} {position : Position}
    {type : CType} (h : ofTokens? tokens position = some type) : AvoidsPlatformWidth tokens := by
  -- on the number of tokens, since every part of a form is shorter than the form
  induction hn : tokens.length using Nat.strongRecOn generalizing tokens position type with
  | ind n ih =>
    subst hn
    have hfunction {result : List Token} {parts : List (List Token)} {params : List CType}
        (hshape : Declarator.ofTokens tokens = .function result parts)
        (hmade : parts.mapM (ofTokens? · .signature) = some params)
        (hresult : AvoidsPlatformWidth result) : AvoidsPlatformWidth tokens := by
      have hparts : ∀ part ∈ parts, AvoidsPlatformWidth part := by
        intro part hpart
        obtain ⟨param, hparam⟩ := exists_of_mapM_option hmade hpart
        exact ih _ ((Declarator.length_lt_of_function hshape).2 part hpart) hparam rfl
      obtain ⟨-, body, rfl, rfl⟩ := Declarator.eq_append_of_function hshape
      have hbody := avoidsPlatformWidth_of_parameterPieces hparts
      exact (append_iff (by simp)).mpr ⟨hresult, hbody.parameters⟩
    cases step_of_ofTokens? h with
    | procedure hshape hmade =>
      exact hfunction hshape hmade ((map_word_iff ["void"]).mpr (by decide))
    | function hshape htype hmade =>
      have hresult := ih _ (Declarator.length_lt_of_function hshape).1 htype rfl
      exact hfunction hshape hmade hresult
    | pointerToArray hshape hbase hlengths =>
      have helement := ih _ (Declarator.length_lt_of_pointerToArray hshape) hbase rfl
      obtain ⟨-, hdigits, rfl⟩ := Declarator.eq_append_of_pointerToArray hshape
      rw [append_iff (by simp), mark_iff (by simp), mark_iff (by simp)]
      exact ⟨helement.constTokens_append _, nil.append_bracketed hdigits⟩
    | array hshape hbase hlengths =>
      have helement := ih _ (Declarator.length_lt_of_array hshape) hbase rfl
      obtain ⟨-, hdigits, rfl⟩ := Declarator.eq_append_of_array hshape
      exact helement.append_bracketed hdigits
    | plain h => exact avoidsPlatformWidth_of_ofPlainTokens? h

end AbiBridge.CType
