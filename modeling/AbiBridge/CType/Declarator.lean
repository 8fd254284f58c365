import AbiBridge.CType.Token
import AbiBridge.Text.DecimalDigit

/-!
# The outer shape of a type spelling

Before a spelling is read, its outermost form is told from its tokens: a function
pointer, a pointer to an array, an array, or none of these. A form is recognized
at the earliest place where the rest of the tokens has the shape of its end.
Every part of a shape has fewer tokens than the whole.
-/

namespace AbiBridge.CType

/-- The lengths written as `[n][m]…`, if the tokens are just that. -/
def lengthWords? : List Token → Option (List String)
  | .openBracket :: .word digits :: .closeBracket :: rest =>
    if digits.toList.all Text.isDecimalDigit then
      match rest with
      | [] => some [digits]
      | _ => (lengthWords? rest).map (digits :: ·)
    else none
  | _ => none

def pointedLengthWords? : List Token → Option (List String)
  | .openParen :: .star :: .closeParen :: rest => lengthWords? rest
  | _ => none

/-- The tokens between `(*)(` and a final `)`. -/
def functionBody? : List Token → Option (List Token)
  | .openParen :: .star :: .closeParen :: .openParen :: rest =>
    match rest.reverse with
    | .closeParen :: body => some body.reverse
    | _ => none
  | _ => none

/-- Split a list after the shortest nonempty head whose remainder is recognized. -/
def splitBefore? {α β : Type} (recognize : List α → Option β) : List α → Option (List α × β)
  | [] => none
  | a :: rest =>
    match recognize rest with
    | some found => some ([a], found)
    | none => (splitBefore? recognize rest).map fun (head, found) => (a :: head, found)

/-- Split at the commas outside parentheses; `depth` counts the open ones. -/
def splitCommas (depth : Nat) (piece : List Token) : List Token → List (List Token)
  | [] => [piece]
  | .openParen :: rest => splitCommas (depth + 1) (piece ++ [.openParen]) rest
  | .closeParen :: rest => splitCommas (depth - 1) (piece ++ [.closeParen]) rest
  | .comma :: rest =>
    if depth = 0 then piece :: splitCommas 0 [] rest
    else splitCommas depth (piece ++ [.comma]) rest
  | token :: rest => splitCommas depth (piece ++ [token]) rest

/-- The parameters in the body of a function; `void` alone stands for none. -/
def parameterPieces (body : List Token) : List (List Token) :=
  if body = [] ∨ body = [.word "void"] then [] else splitCommas 0 [] body

/-- The outermost form of a type spelling. -/
inductive Declarator where
  | function (result : List Token) (params : List (List Token))
  | pointerToArray (isConst : Bool) (element : List Token) (lengths : List String)
  | array (element : List Token) (lengths : List String)
  | other

/-- Take a leading `const` off a longer list of tokens. -/
def stripConst : List Token → Bool × List Token
  | .word "const" :: token :: rest => (true, token :: rest)
  | tokens => (false, tokens)

def Declarator.ofTokens (tokens : List Token) : Declarator :=
  match splitBefore? functionBody? tokens with
  | some (result, body) => .function result (parameterPieces body)
  | none =>
    match splitBefore? pointedLengthWords? tokens with
    | some (head, lengths) =>
      .pointerToArray (stripConst head).1 (stripConst head).2 lengths
    | none =>
      match splitBefore? lengthWords? tokens with
      | some (element, lengths) => .array element lengths
      | none => .other

theorem eq_append_of_splitBefore? {α β : Type} {recognize : List α → Option β} {whole head : List α}
    {found : β} (h : splitBefore? recognize whole = some (head, found)) :
    ∃ rest, recognize rest = some found ∧ whole = head ++ rest := by
  induction whole generalizing head with
  | nil => simp [splitBefore?] at h
  | cons a rest ih =>
    simp only [splitBefore?] at h
    split at h
    · next recognized =>
      cases h
      exact ⟨rest, recognized, rfl⟩
    · obtain ⟨⟨head', found'⟩, inner, eq⟩ := Option.map_eq_some_iff.1 h
      cases eq
      obtain ⟨rest', recognized, eq⟩ := ih inner
      exact ⟨rest', recognized, by simp [eq]⟩

theorem length_lt_of_functionBody? {tokens body : List Token}
    (h : functionBody? tokens = some body) : body.length < tokens.length := by
  unfold functionBody? at h
  split at h
  · next rest =>
    split at h
    · next body' eq =>
      cases h
      have := congrArg List.length eq
      simp only [List.length_reverse, List.length_cons] at this ⊢
      omega
    · cases h
  · cases h

theorem ne_nil_of_lengthWords? {tokens : List Token} {words : List String}
    (h : lengthWords? tokens = some words) : tokens ≠ [] := by
  rintro rfl
  simp [lengthWords?] at h

theorem ne_nil_of_pointedLengthWords? {tokens : List Token} {words : List String}
    (h : pointedLengthWords? tokens = some words) : tokens ≠ [] := by
  rintro rfl
  simp [pointedLengthWords?] at h

theorem length_le_of_mem_splitCommas {depth : Nat} {piece tokens part : List Token}
    (h : part ∈ splitCommas depth piece tokens) : part.length ≤ piece.length + tokens.length := by
  fun_induction splitCommas depth piece tokens with
  | case1 => simp_all
  | case2 _ _ _ ih => simpa [Nat.add_assoc, Nat.add_comm 1] using ih h
  | case3 _ _ _ ih => simpa [Nat.add_assoc, Nat.add_comm 1] using ih h
  | case4 piece rest ih =>
    rcases List.mem_cons.1 h with rfl | h
    · simp
    · have := ih h
      simp only [List.length_nil, List.length_cons] at this ⊢
      omega
  | case5 _ _ _ _ ih => simpa [Nat.add_assoc, Nat.add_comm 1] using ih h
  | case6 _ _ _ _ _ _ _ ih => simpa [Nat.add_assoc, Nat.add_comm 1] using ih h

theorem length_le_of_mem_parameterPieces {body part : List Token}
    (h : part ∈ parameterPieces body) : part.length ≤ body.length := by
  unfold parameterPieces at h
  split at h
  · simp at h
  · simpa using length_le_of_mem_splitCommas h

theorem length_stripConst_le (tokens : List Token) :
    (stripConst tokens).2.length ≤ tokens.length := by
  unfold stripConst
  split <;> simp

namespace Declarator

variable {tokens : List Token}

theorem length_lt_of_function {result : List Token} {params : List (List Token)}
    (h : ofTokens tokens = .function result params) :
    result.length < tokens.length ∧ ∀ part ∈ params, part.length < tokens.length := by
  unfold ofTokens at h
  split at h
  · next head body split =>
    cases h
    obtain ⟨rest, recognized, rfl⟩ := eq_append_of_splitBefore? split
    have shorter := length_lt_of_functionBody? recognized
    refine ⟨by simp only [List.length_append]; omega, fun part mem => ?_⟩
    have := length_le_of_mem_parameterPieces mem
    simp only [List.length_append]
    omega
  · split at h
    · simp at h
    · split at h <;> simp at h

theorem length_lt_of_pointerToArray {isConst : Bool} {element : List Token}
    {lengths : List String} (h : ofTokens tokens = .pointerToArray isConst element lengths) :
    element.length < tokens.length := by
  unfold ofTokens at h
  split at h
  · simp at h
  · split at h
    · next head words split =>
      cases h
      obtain ⟨rest, recognized, rfl⟩ := eq_append_of_splitBefore? split
      have := List.length_pos_iff.2 (ne_nil_of_pointedLengthWords? recognized)
      have := length_stripConst_le head
      simp only [List.length_append]
      omega
    · split at h <;> simp at h

theorem length_lt_of_array {element : List Token} {lengths : List String}
    (h : ofTokens tokens = .array element lengths) : element.length < tokens.length := by
  unfold ofTokens at h
  split at h
  · simp at h
  · split at h
    · simp at h
    · split at h
      · next head words split =>
        cases h
        obtain ⟨rest, recognized, rfl⟩ := eq_append_of_splitBefore? split
        have := List.length_pos_iff.2 (ne_nil_of_lengthWords? recognized)
        simp only [List.length_append]
        omega
      · simp at h

end Declarator

end AbiBridge.CType
