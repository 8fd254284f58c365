import AbiBridge.Constant.Expression
import Mathlib.Data.List.Basic

/-!
# Grammar of expressions

Which tokens form an expression: terms joined by bars, each shifted at most once, of literals
with signs, parentheses and casts. Reading accepts exactly these.
-/

namespace AbiBridge.Constant

inductive Level where
  | unary
  | shifted
  | joined

/-- The tokens form the expression at the level. A cast is one or more names in parentheses. -/
inductive Phrase : Level → List Token → Expr → Prop
  | literal (word : List Char) : Phrase .unary [.number word] (.literal word)
  | neg {tokens : List Token} {e : Expr} : Phrase .unary tokens e →
    Phrase .unary (.minus :: tokens) (.neg e)
  | complement {tokens : List Token} {e : Expr} : Phrase .unary tokens e →
    Phrase .unary (.tilde :: tokens) (.complement e)
  | parens {tokens : List Token} {e : Expr} : Phrase .joined tokens e →
    Phrase .unary (.openParen :: tokens ++ [.closeParen]) e
  | cast {names : List (List Char)} {tokens : List Token} {e : Expr} : names ≠ [] →
    Phrase .unary tokens e →
    Phrase .unary (.openParen :: names.map .name ++ .closeParen :: tokens) e
  | unshifted {tokens : List Token} {e : Expr} : Phrase .unary tokens e →
    Phrase .shifted tokens e
  | shift {left right : List Token} {e amount : Expr} : Phrase .unary left e →
    Phrase .unary right amount → Phrase .shifted (left ++ .shift :: right) (.shift e amount)
  | term {tokens : List Token} {e : Expr} : Phrase .shifted tokens e → Phrase .joined tokens e
  | or {left right : List Token} {a b : Expr} : Phrase .joined left a →
    Phrase .shifted right b → Phrase .joined (left ++ .bar :: right) (.or a b)

def Reads (read : List Token → Option (Expr × List Token)) (level : Level) : Prop :=
  ∀ {tokens e rest}, read tokens = some (e, rest) →
    ∃ front, tokens = front ++ rest ∧ Phrase level front e

theorem exists_names_of_skipCast? {tokens rest : List Token} (h : skipCast? tokens = some rest) :
    ∃ names : List (List Char), tokens = names.map .name ++ .closeParen :: rest := by
  fun_induction skipCast? tokens with
  | case1 word tokens ih =>
    obtain ⟨names, rfl⟩ := ih h
    exact ⟨word :: names, rfl⟩
  | case2 tokens =>
    cases h
    exact ⟨[], rfl⟩
  | case3 => cases h

@[simp] theorem skipCast?_names (names : List (List Char)) (rest : List Token) :
    skipCast? (names.map .name ++ .closeParen :: rest) = some rest := by
  induction names with
  | nil => rfl
  | cons word names ih => exact ih

section Sound

variable {fuel : Nat}

theorem reads_readUnary_succ (hunary : Reads (readUnary fuel) .unary)
    (hor : Reads (readOr fuel) .joined) : Reads (readUnary (fuel + 1)) .unary := by
  intro tokens e rest h
  unfold readUnary at h
  split at h
  · cases h
  · next tokens hfuel =>
    cases hfuel
    obtain ⟨⟨operand, rest⟩, hread, heq⟩ := Option.map_eq_some_iff.mp h
    cases heq
    obtain ⟨front, rfl, hphrase⟩ := hunary hread
    exact ⟨.minus :: front, rfl, .neg hphrase⟩
  · next tokens hfuel =>
    cases hfuel
    obtain ⟨⟨operand, rest⟩, hread, heq⟩ := Option.map_eq_some_iff.mp h
    cases heq
    obtain ⟨front, rfl, hphrase⟩ := hunary hread
    exact ⟨.tilde :: front, rfl, .complement hphrase⟩
  · next word tokens _ =>
    cases h
    exact ⟨[.number word], rfl, .literal word⟩
  · next word tokens hfuel =>
    cases hfuel
    obtain ⟨tokens', hskip, hread⟩ := Option.bind_eq_some_iff.mp h
    obtain ⟨names, rfl⟩ := exists_names_of_skipCast? hskip
    obtain ⟨front, rfl, hphrase⟩ := hunary hread
    refine ⟨.openParen :: (word :: names).map .name ++ .closeParen :: front, by simp, ?_⟩
    exact .cast (List.cons_ne_nil _ _) hphrase
  · next tokens _ hfuel =>
    cases hfuel
    split at h
    · next inner rest' hread =>
      cases h
      obtain ⟨front, rfl, hphrase⟩ := hor hread
      exact ⟨.openParen :: front ++ [.closeParen], by simp, .parens hphrase⟩
    · cases h
  · cases h

theorem reads_readShift_succ (hunary : Reads (readUnary fuel) .unary) :
    Reads (readShift (fuel + 1)) .shifted := by
  intro tokens e rest h
  unfold readShift at h
  split at h
  · next operand rest' hread =>
    obtain ⟨left, rfl, hleft⟩ := hunary hread
    obtain ⟨⟨amount, rest⟩, hread, heq⟩ := Option.map_eq_some_iff.mp h
    cases heq
    obtain ⟨right, rfl, hright⟩ := hunary hread
    exact ⟨left ++ .shift :: right, by simp, .shift hleft hright⟩
  · obtain ⟨front, htokens, hphrase⟩ := hunary h
    exact ⟨front, htokens, .unshifted hphrase⟩

def Continues (read : Expr → List Token → Option (Expr × List Token)) : Prop :=
  ∀ {left tokens e rest front}, Phrase .joined front left → read left tokens = some (e, rest) →
    ∃ more, tokens = more ++ rest ∧ Phrase .joined (front ++ more) e

theorem continues_readOrRest_succ (hshift : Reads (readShift fuel) .shifted)
    (hrest : Continues (readOrRest fuel)) : Continues (readOrRest (fuel + 1)) := by
  intro left tokens e rest front hfront h
  unfold readOrRest at h
  split at h
  · cases h
  · next tokens hfuel =>
    cases hfuel
    split at h
    · next right rest' hread =>
      obtain ⟨term, rfl, hterm⟩ := hshift hread
      obtain ⟨more, rfl, hmore⟩ := hrest (hfront.or hterm) h
      exact ⟨.bar :: term ++ more, by simp, by simpa using hmore⟩
    · cases h
  · cases h
    exact ⟨[], rfl, by simpa using hfront⟩

theorem reads_readOr_succ (hshift : Reads (readShift fuel) .shifted)
    (hrest : Continues (readOrRest fuel)) : Reads (readOr (fuel + 1)) .joined := by
  intro tokens e rest h
  unfold readOr at h
  split at h
  · next left rest' hread =>
    obtain ⟨front, rfl, hfront⟩ := hshift hread
    obtain ⟨more, rfl, hmore⟩ := hrest hfront.term h
    exact ⟨front ++ more, by simp, hmore⟩
  · cases h

theorem reads (fuel : Nat) :
    Reads (readUnary fuel) .unary ∧ Reads (readShift fuel) .shifted
      ∧ Reads (readOr fuel) .joined ∧ Continues (readOrRest fuel) := by
  induction fuel with
  | zero =>
    refine ⟨?_, ?_, ?_, ?_⟩
    · intro tokens e rest h
      cases h
    · intro tokens e rest h
      cases h
    · intro tokens e rest h
      cases h
    · intro left tokens e rest front _ h
      cases h
  | succ fuel ih =>
    obtain ⟨hunary, hshift, hor, hrest⟩ := ih
    exact ⟨reads_readUnary_succ hunary hor, reads_readShift_succ hunary,
      reads_readOr_succ hshift hrest, continues_readOrRest_succ hshift hrest⟩

end Sound

/-- A phrase has a first token, which is no name: a name in parentheses starts a cast. -/
theorem Phrase.exists_head {level : Level} {tokens : List Token} {e : Expr}
    (h : Phrase level tokens e) :
    ∃ first rest, tokens = first :: rest ∧ ∀ word, first ≠ .name word := by
  induction h with
  | literal word => exact ⟨_, _, rfl, by simp⟩
  | neg => exact ⟨_, _, rfl, by simp⟩
  | complement => exact ⟨_, _, rfl, by simp⟩
  | parens => exact ⟨_, _, rfl, by simp⟩
  | cast => exact ⟨_, _, rfl, by simp⟩
  | unshifted _ ih => exact ih
  | term _ ih => exact ih
  | shift _ _ ih =>
    obtain ⟨first, rest, rfl, hname⟩ := ih
    exact ⟨first, _, rfl, hname⟩
  | or _ _ ih =>
    obtain ⟨first, rest, rfl, hname⟩ := ih
    exact ⟨first, _, rfl, hname⟩

theorem readUnary_parens {fuel : Nat} {tokens rest : List Token} {e : Expr}
    (hname : ∀ word rest, tokens ≠ .name word :: rest)
    (h : readOr fuel tokens = some (e, .closeParen :: rest)) :
    readUnary (fuel + 1) (.openParen :: tokens) = some (e, rest) := by
  rw [readUnary, h]
  exact fun word rest heq => hname word rest heq

theorem readShift_of_head {fuel : Nat} {tokens rest : List Token} {e : Expr}
    (h : readUnary fuel tokens = some (e, rest)) (hrest : rest.head? ≠ some .shift) :
    readShift (fuel + 1) tokens = some (e, rest) := by
  rw [readShift, h]
  split
  · next heq =>
    cases heq
    exact absurd rfl hrest
  · rfl

/-- With enough fuel a phrase is read off the front of its tokens. The fuel that is left for
further terms depends on the number of terms. -/
def Accepted : Level → List Token → Expr → Prop
  | .unary, tokens, e => ∀ fuel rest, 4 * tokens.length ≤ fuel →
    readUnary fuel (tokens ++ rest) = some (e, rest)
  | .shifted, tokens, e => ∀ fuel rest, 4 * tokens.length + 1 ≤ fuel →
    rest.head? ≠ some .shift → readShift fuel (tokens ++ rest) = some (e, rest)
  | .joined, tokens, e => ∃ used ≤ tokens.length, ∀ fuel rest, 4 * tokens.length + 2 ≤ fuel →
    rest.head? ≠ some .shift →
      readOr fuel (tokens ++ rest) = readOrRest (fuel - 1 - used) e rest

theorem Phrase.accepted {level : Level} {tokens : List Token} {e : Expr}
    (h : Phrase level tokens e) : Accepted level tokens e := by
  induction h with
  | literal word =>
    intro fuel rest hfuel
    obtain ⟨fuel, rfl⟩ : ∃ n, fuel = n + 1 := Nat.exists_eq_add_one.mpr (by simp at hfuel; omega)
    rfl
  | @neg tokens e _ ih =>
    intro fuel rest hfuel
    rw [List.length_cons] at hfuel
    obtain ⟨fuel, rfl⟩ : ∃ n, fuel = n + 1 := Nat.exists_eq_add_one.mpr (by omega)
    rw [List.cons_append, readUnary, ih fuel rest (by omega), Option.map_some]
  | @complement tokens e _ ih =>
    intro fuel rest hfuel
    rw [List.length_cons] at hfuel
    obtain ⟨fuel, rfl⟩ : ∃ n, fuel = n + 1 := Nat.exists_eq_add_one.mpr (by omega)
    rw [List.cons_append, readUnary, ih fuel rest (by omega), Option.map_some]
  | @parens tokens e hinner ih =>
    intro fuel rest hfuel
    rw [List.length_append, List.length_cons, List.length_singleton] at hfuel
    obtain ⟨fuel, rfl⟩ : ∃ n, fuel = n + 1 := Nat.exists_eq_add_one.mpr (by omega)
    obtain ⟨used, hused, hread⟩ := ih
    have hclosed : readOr fuel (tokens ++ .closeParen :: rest) = some (e, .closeParen :: rest) := by
      obtain ⟨left, hleft⟩ : ∃ n, fuel - 1 - used = n + 1 :=
        Nat.exists_eq_add_one.mpr (by omega)
      rw [hread fuel _ (by omega) (by simp), hleft]
      rfl
    rw [List.cons_append, List.cons_append, List.append_assoc]
    refine readUnary_parens (fun word more heq => ?_) hclosed
    obtain ⟨first, tokens, rfl, hname⟩ := hinner.exists_head
    exact hname word (List.cons.inj heq).1
  | @cast names tokens e hnames _ ih =>
    intro fuel rest hfuel
    rw [List.length_append, List.length_cons, List.length_cons] at hfuel
    obtain ⟨fuel, rfl⟩ : ∃ n, fuel = n + 1 := Nat.exists_eq_add_one.mpr (by omega)
    obtain ⟨word, names, rfl⟩ := List.exists_cons_of_ne_nil hnames
    rw [List.map_cons, List.append_assoc, List.cons_append, List.cons_append, List.cons_append,
      readUnary, skipCast?_names, Option.bind_some]
    exact ih fuel rest (by omega)
  | @unshifted tokens e _ ih =>
    intro fuel rest hfuel hrest
    obtain ⟨fuel, rfl⟩ : ∃ n, fuel = n + 1 := Nat.exists_eq_add_one.mpr (by omega)
    exact readShift_of_head (ih fuel rest (by omega)) hrest
  | @shift left right e amount _ _ ihleft ihright =>
    intro fuel rest hfuel hrest
    rw [List.length_append, List.length_cons] at hfuel
    obtain ⟨fuel, rfl⟩ : ∃ n, fuel = n + 1 := Nat.exists_eq_add_one.mpr (by omega)
    rw [List.append_assoc, List.cons_append, readShift, ihleft fuel _ (by omega)]
    simp only [ihright fuel rest (by omega), Option.map_some]
  | @term tokens e _ ih =>
    refine ⟨0, Nat.zero_le _, fun fuel rest hfuel hrest => ?_⟩
    obtain ⟨fuel, rfl⟩ : ∃ n, fuel = n + 1 := Nat.exists_eq_add_one.mpr (by omega)
    rw [readOr, ih fuel rest (by omega) hrest]
    rfl
  | @or left right a b _ _ ihleft ihright =>
    obtain ⟨used, hused, hleft⟩ := ihleft
    refine ⟨used + 1, ?_, fun fuel rest hfuel hrest => ?_⟩
    · rw [List.length_append, List.length_cons]
      omega
    rw [List.length_append, List.length_cons] at hfuel
    rw [List.append_assoc, List.cons_append, hleft fuel _ (by omega) (by simp)]
    obtain ⟨more, hmore⟩ : ∃ n, fuel - 1 - used = n + 1 := Nat.exists_eq_add_one.mpr (by omega)
    have hlast : fuel - 1 - (used + 1) = more := by omega
    rw [hmore, hlast, readOrRest, ihright more rest (by omega) hrest]

/-- Tokens are read as an expression if and only if they form it. -/
theorem ofTokens?_eq_some_iff {tokens : List Token} {e : Expr} :
    Expr.ofTokens? tokens = some e ↔ Phrase .joined tokens e := by
  constructor
  · intro h
    unfold Expr.ofTokens? at h
    split at h
    · next e' hread =>
      cases h
      obtain ⟨front, rfl, hphrase⟩ := (reads _).2.2.1 hread
      simpa using hphrase
    · cases h
  · intro h
    obtain ⟨used, hused, hread⟩ := h.accepted
    obtain ⟨left, hleft⟩ : ∃ n, 4 * tokens.length + 4 - 1 - used = n + 1 :=
      Nat.exists_eq_add_one.mpr (by omega)
    have hall := hread (4 * tokens.length + 4) [] (by omega) (by simp)
    rw [List.append_nil, hleft] at hall
    rw [Expr.ofTokens?, hall]
    rfl

end AbiBridge.Constant
