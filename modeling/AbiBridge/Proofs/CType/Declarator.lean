import AbiBridge.CType.Declarator
import AbiBridge.Proofs.CType.Tokens
import Mathlib.Data.List.Basic

/-!
# Recognizing the outer shape of a spelling

A shape is found at the first place where the remaining tokens have the shape of its end.
Here each kind of end is told exactly, and from that the outer shape of the tokens of a
function pointer, a pointer to an array, an array, and of tokens that end with no closing
mark.
-/

namespace AbiBridge.CType

/-! ## The first split -/

section Splitting

variable {α β : Type} {recognize : List α → Option β}

theorem splitBefore?_eq_none_iff {whole : List α} :
    splitBefore? recognize whole = none
      ↔ ∀ head rest, head ≠ [] → whole = head ++ rest → recognize rest = none := by
  induction whole with
  | nil =>
    refine ⟨fun _ head rest hne heq => ?_, fun _ => rfl⟩
    exact absurd (List.append_eq_nil_iff.mp heq.symm).1 hne
  | cons a whole ih =>
    constructor
    · intro hnone head rest hne heq
      cases head with
      | nil => exact absurd rfl hne
      | cons b head =>
        obtain ⟨rfl, htail⟩ := List.cons.inj heq
        simp only [splitBefore?] at hnone
        split at hnone
        · cases hnone
        · next hwhole =>
          cases head with
          | nil => exact (show whole = rest from htail) ▸ hwhole
          | cons c head =>
            exact ih.mp (Option.map_eq_none_iff.mp hnone) (c :: head) rest (by simp) htail
    · intro hall
      have hwhole : recognize whole = none := hall [a] whole (by simp) rfl
      have hrest : splitBefore? recognize whole = none := by
        refine ih.mpr fun head rest hne heq => hall (a :: head) rest (by simp) ?_
        rw [heq, List.cons_append]
      simp [splitBefore?, hwhole, hrest]

/-- The split falls behind `head` if the rest is recognized and no earlier place will do. -/
theorem splitBefore?_append {head rest : List α} {found : β} (hne : head ≠ [])
    (hfound : recognize rest = some found)
    (hearly : ∀ front back, front ≠ [] → back ≠ [] → head = front ++ back →
      recognize (back ++ rest) = none) :
    splitBefore? recognize (head ++ rest) = some (head, found) := by
  induction head with
  | nil => exact absurd rfl hne
  | cons a head ih =>
    cases head with
    | nil => simp [splitBefore?, hfound]
    | cons b head =>
      have hnow : recognize ((b :: head) ++ rest) = none :=
        hearly [a] (b :: head) (by simp) (by simp) rfl
      have hlater := ih (by simp) fun front back hfront hback heq =>
        hearly (a :: front) back (by simp) hback (by rw [heq, List.cons_append])
      simp only [List.cons_append] at hnow hlater ⊢
      rw [splitBefore?, hnow, hlater]
      rfl

/-- The head of a split is not empty, and no earlier place would do. -/
theorem of_splitBefore?_eq_some {whole head : List α} {found : β}
    (h : splitBefore? recognize whole = some (head, found)) :
    head ≠ [] ∧ ∃ rest, recognize rest = some found ∧ whole = head ++ rest
      ∧ ∀ front back, front ≠ [] → back ≠ [] → head = front ++ back →
        recognize (back ++ rest) = none := by
  induction whole generalizing head with
  | nil => cases h
  | cons a whole ih =>
    simp only [splitBefore?] at h
    split at h
    · next hwhole =>
      cases h
      refine ⟨by simp, whole, hwhole, rfl, fun front back hfront hback heq => ?_⟩
      have hlength := congrArg List.length heq
      have hfront := List.length_pos_iff.mpr hfront
      have hback := List.length_pos_iff.mpr hback
      simp only [List.length_singleton, List.length_append] at hlength
      omega
    · next hwhole =>
      obtain ⟨⟨head', found'⟩, hrest, heq⟩ := Option.map_eq_some_iff.mp h
      cases heq
      obtain ⟨-, rest, hfound, rfl, hearly⟩ := ih hrest
      refine ⟨by simp, rest, hfound, rfl, fun front back hfront hback heq => ?_⟩
      cases front with
      | nil => exact absurd rfl hfront
      | cons b front =>
        obtain ⟨-, rfl⟩ := List.cons.inj heq
        cases front with
        | nil => exact hwhole
        | cons c front => exact hearly (c :: front) back (by simp) hback rfl

end Splitting

/-! ## The ends of shapes -/

theorem functionBody?_eq_some_iff {tokens body : List Token} :
    functionBody? tokens = some body
      ↔ tokens
        = .openParen :: .star :: .closeParen :: .openParen :: (body ++ [Token.closeParen]) := by
  constructor
  · intro h
    unfold functionBody? at h
    split at h
    · next rest =>
      split at h
      · next reversed heq =>
        cases h
        have hrest : rest = reversed.reverse ++ [Token.closeParen] := by
          rw [← List.reverse_reverse rest, heq, List.reverse_cons]
        rw [hrest]
      · cases h
    · cases h
  · rintro rfl
    simp [functionBody?]

theorem pointedLengthWords?_eq_some_iff {tokens : List Token} {words : List String} :
    pointedLengthWords? tokens = some words
      ↔ ∃ rest, tokens = .openParen :: .star :: .closeParen :: rest
          ∧ lengthWords? rest = some words := by
  constructor
  · intro h
    unfold pointedLengthWords? at h
    split at h
    · next rest => exact ⟨rest, rfl, h⟩
    · cases h
  · rintro ⟨rest, rfl, h⟩
    exact h

def bracketed : List String → List Token
  | [] => []
  | word :: words => .openBracket :: .word word :: .closeBracket :: bracketed words

theorem lengthTokens_eq_bracketed (lengths : List Nat) :
    lengthTokens lengths = bracketed (lengths.map toString) := by
  induction lengths with
  | nil => rfl
  | cons length lengths ih => rw [lengthTokens, ih, List.map_cons, bracketed]

@[simp] theorem bracketed_append (words words' : List String) :
    bracketed (words ++ words') = bracketed words ++ bracketed words' := by
  induction words with
  | nil => rfl
  | cons word words ih => simp [bracketed, ih]

theorem lengthWords?_eq_some_iff {tokens : List Token} {words : List String} :
    lengthWords? tokens = some words
      ↔ words ≠ [] ∧ (∀ word ∈ words, word.toList.all Text.isDecimalDigit = true)
        ∧ tokens = bracketed words := by
  constructor
  · intro h
    fun_induction lengthWords? tokens generalizing words with
    | case1 digits hdigits =>
      cases h
      exact ⟨by simp, by simpa using hdigits, rfl⟩
    | case2 digits rest hdigits hrest ih =>
      obtain ⟨words', hwords', rfl⟩ := Option.map_eq_some_iff.mp h
      obtain ⟨-, hall, rfl⟩ := ih hwords'
      exact ⟨by simp, List.forall_mem_cons.mpr ⟨hdigits, hall⟩, rfl⟩
    | case3 => cases h
    | case4 => cases h
  · rintro ⟨hne, hall, rfl⟩
    induction words with
    | nil => exact absurd rfl hne
    | cons word words ih =>
      obtain ⟨hword, hwords⟩ := List.forall_mem_cons.mp hall
      cases words with
      | nil => rw [bracketed, bracketed, lengthWords?, if_pos hword]
      | cons word' words =>
        rw [bracketed, lengthWords?, if_pos hword, ih (by simp) hwords]
        · rfl
        · simp [bracketed]

theorem lengthWords?_append {left right : List Token} {words words' : List String}
    (hleft : lengthWords? left = some words) (hright : lengthWords? right = some words') :
    lengthWords? (left ++ right) = some (words ++ words') := by
  obtain ⟨hne, hall, rfl⟩ := lengthWords?_eq_some_iff.mp hleft
  obtain ⟨-, hall', rfl⟩ := lengthWords?_eq_some_iff.mp hright
  refine lengthWords?_eq_some_iff.mpr ⟨by simp [hne], fun word hword => ?_, by rw [bracketed_append]⟩
  rcases List.mem_append.mp hword with hword | hword
  · exact hall word hword
  · exact hall' word hword

/-- Lengths are written in groups of three tokens. -/
theorem lengthWords?_eq_some {tokens : List Token} {words : List String}
    (h : lengthWords? tokens = some words) :
    ∃ digits rest, tokens = .openBracket :: .word digits :: .closeBracket :: rest := by
  obtain ⟨hne, -, rfl⟩ := lengthWords?_eq_some_iff.mp h
  cases words with
  | nil => exact absurd rfl hne
  | cons word words => exact ⟨word, bracketed words, rfl⟩

theorem not_paren_mem_bracketed (words : List String) :
    Token.openParen ∉ bracketed words ∧ Token.closeParen ∉ bracketed words := by
  induction words with
  | nil => simp [bracketed]
  | cons word words ih => simp [bracketed, ih]

theorem not_paren_mem_of_lengthWords? {tokens : List Token} {words : List String}
    (h : lengthWords? tokens = some words) :
    Token.openParen ∉ tokens ∧ Token.closeParen ∉ tokens := by
  obtain ⟨-, -, rfl⟩ := lengthWords?_eq_some_iff.mp h
  exact not_paren_mem_bracketed words

theorem openBracket_mem_bracketed {words : List String} (hne : words ≠ []) :
    Token.openBracket ∈ bracketed words := by
  cases words with
  | nil => contradiction
  | cons word words => exact List.mem_cons_self

theorem getLast?_bracketed {words : List String} (hne : words ≠ []) :
    (bracketed words).getLast? = some .closeBracket := by
  induction words with
  | nil => exact absurd rfl hne
  | cons word words ih =>
    cases words with
    | nil => rfl
    | cons word' words =>
      have hrest := ih (by simp)
      simpa [bracketed, List.getLast?_cons] using hrest

theorem getLast?_of_lengthWords? {tokens : List Token} {words : List String}
    (h : lengthWords? tokens = some words) : tokens.getLast? = some .closeBracket := by
  obtain ⟨hne, -, rfl⟩ := lengthWords?_eq_some_iff.mp h
  exact getLast?_bracketed hne

/-- What stands in front of further lengths within a list of lengths is empty or ends with a
bracket. -/
theorem getLast?_of_bracketed_eq_append {words : List String} {front rest : List Token}
    (h : bracketed words = front ++ .openBracket :: rest) (hne : front ≠ []) :
    front.getLast? = some .closeBracket := by
  induction words generalizing front with
  | nil => simp [bracketed] at h
  | cons word words ih =>
    match front, hne with
    | [_], _ => simp [bracketed] at h
    | [_, _], _ => simp [bracketed] at h
    | [a, b, c], _ =>
      simp only [bracketed, List.cons_append, List.cons.injEq] at h
      rw [← h.2.2.1]
      rfl
    | a :: b :: c :: d :: front', _ =>
      simp only [bracketed, List.cons_append, List.cons.injEq] at h
      have hlast : (d :: front').getLast? = some .closeBracket := ih h.2.2.2 (by simp)
      simpa [List.getLast?_cons] using hlast

theorem getLast?_of_lengthWords?_append {front rest : List Token} {words : List String}
    (h : lengthWords? (front ++ .openBracket :: rest) = some words) (hne : front ≠ []) :
    front.getLast? = some .closeBracket :=
  getLast?_of_bracketed_eq_append (lengthWords?_eq_some_iff.mp h).2.2.symm hne

@[simp] theorem all_isDecimalDigit_toString (n : Nat) :
    (toString n).toList.all Text.isDecimalDigit = true := by
  refine List.all_eq_true.mpr fun c hc => ?_
  simp [Text.isDecimalDigit, Text.isDigit_of_mem_toString hc]

theorem lengthWords?_lengthTokens {lengths : List Nat} (hne : lengths ≠ []) :
    lengthWords? (lengthTokens lengths) = some (lengths.map toString) := by
  refine lengthWords?_eq_some_iff.mpr ⟨by simpa using hne, ?_, lengthTokens_eq_bracketed lengths⟩
  intro word hword
  obtain ⟨length, -, rfl⟩ := List.mem_map.mp hword
  exact all_isDecimalDigit_toString length

theorem getLast?_lengthTokens {lengths : List Nat} (hne : lengths ≠ []) :
    (lengthTokens lengths).getLast? = some .closeBracket :=
  getLast?_of_lengthWords? (lengthWords?_lengthTokens hne)

/-! ## Outer shapes -/

/-- Every opening parenthesis is that of a pointer to an array. -/
def OnlyPointsToArrays (tokens : List Token) : Prop :=
  ∀ front back, tokens = front ++ .openParen :: back →
    ∃ back', back = .star :: .closeParen :: .openBracket :: back'

theorem onlyPointsToArrays_of_not_mem {tokens : List Token} (h : Token.openParen ∉ tokens) :
    OnlyPointsToArrays tokens := by
  rintro front back rfl
  exact absurd (List.mem_append_right _ List.mem_cons_self) h

theorem OnlyPointsToArrays.append {left right : List Token} (hleft : OnlyPointsToArrays left)
    (hright : OnlyPointsToArrays right) : OnlyPointsToArrays (left ++ right) := by
  intro front back heq
  rcases List.append_eq_append_iff.mp heq with ⟨middle, rfl, hmiddle⟩ | ⟨middle, rfl, hmiddle⟩
  · exact hright middle back hmiddle
  · cases middle with
    | nil => exact hright [] back hmiddle.symm
    | cons token middle =>
      obtain ⟨rfl, rfl⟩ := List.cons.inj hmiddle
      obtain ⟨back', rfl⟩ := hleft front middle rfl
      exact ⟨back' ++ right, rfl⟩

namespace Declarator

theorem functionBody?_eq_none_of_getLast? {tokens : List Token}
    (h : tokens.getLast? = some .closeBracket) : functionBody? tokens = none := by
  refine Option.eq_none_iff_forall_ne_some.mpr fun body hbody => ?_
  rw [functionBody?_eq_some_iff.mp hbody] at h
  simp [List.getLast?_cons] at h

/-- Tokens that end with a bracket are no function pointer. -/
theorem splitBefore?_functionBody?_eq_none {tokens : List Token}
    (h : tokens.getLast? = some .closeBracket) : splitBefore? functionBody? tokens = none := by
  refine splitBefore?_eq_none_iff.mpr fun head rest _ heq => ?_
  cases rest with
  | nil => rfl
  | cons token rest =>
    apply functionBody?_eq_none_of_getLast?
    rw [heq, List.getLast?_append_of_ne_nil _ (by simp)] at h
    exact h

/-- Every form but the last ends with a closing mark. -/
theorem ofTokens_eq_other {tokens : List Token} (hparen : tokens.getLast? ≠ some .closeParen)
    (hbracket : tokens.getLast? ≠ some .closeBracket) : ofTokens tokens = .other := by
  have hlast {head rest : List Token} (heq : tokens = head ++ rest) (hne : rest ≠ []) :
      rest.getLast? = tokens.getLast? := by
    rw [heq, List.getLast?_append_of_ne_nil _ hne]
  have hfunction : splitBefore? functionBody? tokens = none := by
    refine splitBefore?_eq_none_iff.mpr fun head rest _ heq => ?_
    refine Option.eq_none_iff_forall_ne_some.mpr fun body hbody => hparen ?_
    have hshape := functionBody?_eq_some_iff.mp hbody
    rw [← hlast heq (by simp [hshape]), hshape]
    simp [List.getLast?_cons]
  have hpointed : splitBefore? pointedLengthWords? tokens = none := by
    refine splitBefore?_eq_none_iff.mpr fun head rest _ heq => ?_
    refine Option.eq_none_iff_forall_ne_some.mpr fun words hwords => hbracket ?_
    obtain ⟨rest', hshape, hrest⟩ := pointedLengthWords?_eq_some_iff.mp hwords
    rw [← hlast heq (by simp [hshape]), hshape]
    simp [List.getLast?_cons, getLast?_of_lengthWords? hrest]
  have hlengths : splitBefore? lengthWords? tokens = none := by
    refine splitBefore?_eq_none_iff.mpr fun head rest _ heq => ?_
    refine Option.eq_none_iff_forall_ne_some.mpr fun words hwords => hbracket ?_
    rw [← hlast heq (ne_nil_of_lengthWords? hwords), getLast?_of_lengthWords? hwords]
  simp only [ofTokens, hfunction, hpointed, hlengths]

theorem ofTokens_function {result : List Token} (hne : result ≠ [])
    (hresult : OnlyPointsToArrays result) (body : List Token) :
    ofTokens (result
        ++ Token.openParen :: .star :: .closeParen :: .openParen :: (body ++ [Token.closeParen]))
      = .function result (parameterPieces body) := by
  have hsplit : splitBefore? functionBody?
      (result
        ++ Token.openParen :: .star :: .closeParen :: .openParen :: (body ++ [Token.closeParen]))
        = some (result, body) := by
    apply splitBefore?_append hne (functionBody?_eq_some_iff.mpr rfl)
    intro front back _ hback heq
    refine Option.eq_none_iff_forall_ne_some.mpr fun body' hbody' => ?_
    have hshape := functionBody?_eq_some_iff.mp hbody'
    cases back with
    | nil => exact hback rfl
    | cons token back =>
      obtain ⟨rfl, htail⟩ := List.cons.inj hshape
      obtain ⟨back', rfl⟩ := hresult front back heq
      simp at htail
  simp only [ofTokens, hsplit]

theorem ofTokens_append_pointed {head back : List Token} (hhead : head ≠ []) {words : List String}
    (hback : lengthWords? back = some words) :
    ofTokens (head ++ Token.openParen :: .star :: .closeParen :: back)
      = .pointerToArray (stripConst head).1 (stripConst head).2 words := by
  have hlast : (head ++ Token.openParen :: .star :: .closeParen :: back).getLast?
      = some .closeBracket := by
    rw [List.getLast?_append_of_ne_nil _ (by simp)]
    simp [List.getLast?_cons, getLast?_of_lengthWords? hback]
  have hsplit : splitBefore? pointedLengthWords?
      (head ++ Token.openParen :: .star :: .closeParen :: back) = some (head, words) := by
    have hfound := pointedLengthWords?_eq_some_iff.mpr ⟨back, rfl, hback⟩
    apply splitBefore?_append hhead hfound
    intro front middle _ hmiddle _
    refine Option.eq_none_iff_forall_ne_some.mpr fun words hwords => ?_
    obtain ⟨rest, hshape, hrest⟩ := pointedLengthWords?_eq_some_iff.mp hwords
    -- The lengths behind an earlier `(*)` would have to run over the later one.
    match middle, hmiddle with
    | [_], _ => simp at hshape
    | [_, _], _ => simp at hshape
    | a :: b :: c :: middle, _ =>
      simp only [List.cons_append, List.cons.injEq] at hshape
      refine (not_paren_mem_of_lengthWords? hrest).1 ?_
      rw [← hshape.2.2.2]
      simp
  simp only [ofTokens, splitBefore?_functionBody?_eq_none hlast, hsplit]

theorem ofTokens_pointerToArray {head : List Token} (hhead : head ≠ []) {lengths : List Nat}
    (hlengths : lengths ≠ []) :
    ofTokens (head ++ Token.openParen :: .star :: .closeParen :: lengthTokens lengths)
      = .pointerToArray (stripConst head).1 (stripConst head).2 (lengths.map toString) :=
  ofTokens_append_pointed hhead (lengthWords?_lengthTokens hlengths)

theorem ofTokens_append_lengths {element back : List Token} (hne : element ≠ [])
    (hlast : element.getLast? ≠ some .closeBracket)
    (hpointed : ¬ [Token.openParen, .star, .closeParen] <:+ element) {words : List String}
    (hback : lengthWords? back = some words) :
    ofTokens (element ++ back) = .array element words := by
  have hends : (element ++ back).getLast? = some .closeBracket := by
    rw [List.getLast?_append, getLast?_of_lengthWords? hback]
    rfl
  obtain ⟨digits, rest, hshape⟩ := lengthWords?_eq_some hback
  have hearly : ∀ front middle, front ≠ [] → middle ≠ [] → element = front ++ middle →
      lengthWords? (middle ++ back) = none := by
    intro front middle _ hmiddle heq
    refine Option.eq_none_iff_forall_ne_some.mpr fun words hwords => hlast ?_
    rw [hshape] at hwords
    rw [heq, List.getLast?_append_of_ne_nil _ hmiddle]
    exact getLast?_of_lengthWords?_append hwords hmiddle
  have hnone : splitBefore? pointedLengthWords? (element ++ back) = none := by
    refine splitBefore?_eq_none_iff.mpr fun head rest' _ heq => ?_
    refine Option.eq_none_iff_forall_ne_some.mpr fun words hwords => ?_
    obtain ⟨rest, rfl, hrest⟩ := pointedLengthWords?_eq_some_iff.mp hwords
    rcases List.append_eq_append_iff.mp heq with ⟨middle, -, hmiddle⟩ | ⟨middle, hel, hmiddle⟩
    · refine (not_paren_mem_of_lengthWords? hback).1 ?_
      rw [hmiddle]
      simp
    · match middle, hmiddle with
      | [], hmiddle =>
        refine (not_paren_mem_of_lengthWords? hback).1 ?_
        rw [← List.nil_append back, ← hmiddle]
        simp
      | [a], hmiddle =>
        rw [hshape] at hmiddle
        simp at hmiddle
      | [a, b], hmiddle =>
        rw [hshape] at hmiddle
        simp at hmiddle
      | a :: b :: c :: middle, hmiddle =>
        simp only [List.cons_append, List.cons.injEq] at hmiddle
        obtain ⟨rfl, rfl, rfl, rfl⟩ := hmiddle
        cases middle with
        | nil => exact hpointed ⟨head, hel.symm⟩
        | cons d middle =>
          refine hlast ?_
          rw [hshape] at hrest
          rw [hel, List.getLast?_append_of_ne_nil _ (by simp)]
          simpa [List.getLast?_cons] using getLast?_of_lengthWords?_append hrest (by simp)
  simp only [ofTokens, splitBefore?_functionBody?_eq_none hends, hnone,
    splitBefore?_append hne hback hearly]

theorem ofTokens_array {element : List Token} (hne : element ≠ [])
    (hlast : element.getLast? ≠ some .closeBracket)
    (hpointed : ¬ [Token.openParen, .star, .closeParen] <:+ element) {lengths : List Nat}
    (hlengths : lengths ≠ []) :
    ofTokens (element ++ lengthTokens lengths) = .array element (lengths.map toString) :=
  ofTokens_append_lengths hne hlast hpointed (lengthWords?_lengthTokens hlengths)

end Declarator

/-! ## Lists of parameters -/

/-- Read at depth `least` or more, the tokens stay in one piece. -/
def StaysTogether (least : Nat) (tokens : List Token) : Prop :=
  ∀ depth, least ≤ depth → ∀ piece rest,
    splitCommas depth piece (tokens ++ rest) = splitCommas depth (piece ++ tokens) rest

namespace StaysTogether

variable {least : Nat}

theorem nil : StaysTogether least [] := by
  intro depth _ piece rest
  rw [List.nil_append, List.append_nil]

theorem append {left right : List Token} (hleft : StaysTogether least left)
    (hright : StaysTogether least right) : StaysTogether least (left ++ right) := by
  intro depth hdepth piece rest
  rw [List.append_assoc, hleft depth hdepth, hright depth hdepth, List.append_assoc]

theorem singleton {token : Token} (hopen : token ≠ .openParen) (hclose : token ≠ .closeParen)
    (hcomma : token ≠ .comma) : StaysTogether least [token] := by
  intro depth _ piece rest
  cases token <;> simp_all [splitCommas]

theorem comma : StaysTogether (least + 1) [.comma] := by
  intro depth hdepth piece rest
  rw [List.singleton_append, splitCommas, if_neg (by omega)]

/-- Parentheses protect what is read one level deeper. -/
theorem parens {tokens : List Token} (h : StaysTogether (least + 1) tokens) :
    StaysTogether least (Token.openParen :: (tokens ++ [Token.closeParen])) := by
  intro depth hdepth piece rest
  rw [List.cons_append, splitCommas, List.append_assoc, h (depth + 1) (by omega),
    List.singleton_append, splitCommas, Nat.add_sub_cancel]
  simp

theorem mono {tokens : List Token} (h : StaysTogether 0 tokens) : StaysTogether least tokens :=
  fun depth _ => h depth (Nat.zero_le depth)

theorem intercalate {pieces : List (List Token)} (h : ∀ piece ∈ pieces, StaysTogether 0 piece) :
    StaysTogether 1 ([Token.comma].intercalate pieces) := by
  induction pieces with
  | nil => exact nil
  | cons piece pieces ih =>
    have hpiece : StaysTogether 1 piece := (h piece List.mem_cons_self).mono
    cases pieces with
    | nil => simpa using hpiece
    | cons piece' pieces =>
      have hrest := ih fun p hp => h p (List.mem_cons_of_mem _ hp)
      rw [List.intercalate_cons_cons]
      exact (hpiece.append comma).append hrest

end StaysTogether

theorem splitCommas_intercalate {pieces : List (List Token)} (hne : pieces ≠ [])
    (h : ∀ piece ∈ pieces, StaysTogether 0 piece) :
    splitCommas 0 [] ([Token.comma].intercalate pieces) = pieces := by
  induction pieces with
  | nil => exact absurd rfl hne
  | cons piece pieces ih =>
    have hpiece := h piece List.mem_cons_self 0 (Nat.le_refl 0) []
    cases pieces with
    | nil =>
      have hlast := hpiece []
      rw [List.append_nil, List.nil_append] at hlast
      rw [List.intercalate_singleton, hlast, splitCommas]
    | cons piece' pieces =>
      have hrest := ih (by simp) fun p hp => h p (List.mem_cons_of_mem _ hp)
      rw [List.intercalate_cons_cons, List.append_assoc, hpiece, List.nil_append,
        List.singleton_append, splitCommas, if_pos rfl, hrest]

end AbiBridge.CType
