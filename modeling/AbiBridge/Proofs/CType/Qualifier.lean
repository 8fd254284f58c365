import AbiBridge.Proofs.CType.PointerForm

/-!
# Qualifiers of pointees

A C declarator says of each object whether it is constant, an array being constant as its
elements are. A type marks this at the pointers, each for its own pointee. Here the reading of
the simple spellings, an optional `const`, a value type and a suffix, is compared with what C
means by them.
-/

namespace AbiBridge.CType

/-- A type of C, with the qualifier of each object in it. -/
inductive Qualified where
  | value (type : CType) (isConst : Bool)
  | pointer (target : Qualified) (nullable isConst : Bool)
  | array (element : Qualified) (length : Nat)

namespace Qualified

/-- An object of the type is constant. An array is, if its elements are. -/
def isConst : Qualified → Bool
  | value _ isConst => isConst
  | pointer _ _ isConst => isConst
  | array element _ => element.isConst

/-- The type with each pointer marked by the qualifier of its pointee. -/
def marked : Qualified → CType
  | value type _ => type
  | pointer target nullable _ => .pointer target.marked nullable target.isConst
  | array element length => .array element.marked length

def nest (element : Qualified) (lengths : List Nat) : Qualified :=
  lengths.foldr (fun length inner => .array inner length) element

/-- A parameter that is declared as an array is a pointer to its first element. -/
def adjusted : Qualified → Qualified
  | array element _ => pointer element true false
  | type => type

/-- A pointer to the type, if there is a star. -/
def behind (type : Qualified) (hasStar : Bool) : Qualified :=
  if hasStar then .pointer type true false else type

theorem nest_cons (element : Qualified) (length : Nat) (lengths : List Nat) :
    element.nest (length :: lengths) = .array (element.nest lengths) length := rfl

@[simp] theorem marked_nest (element : Qualified) (lengths : List Nat) :
    (element.nest lengths).marked = CType.nest element.marked lengths := by
  induction lengths with
  | nil => rfl
  | cons length lengths ih => exact congrArg (CType.array · length) ih

@[simp] theorem isConst_nest (element : Qualified) (lengths : List Nat) :
    (element.nest lengths).isConst = element.isConst := by
  induction lengths with
  | nil => rfl
  | cons length lengths ih => exact ih

end Qualified

/-- What may stand behind a value type: `*`, `&`, `**`, `*const *`, and lengths in brackets,
directly or for what `(*)` points to, where a star of the element may come first. -/
inductive Suffix where
  | pointer
  | reference
  | pointerToPointer
  | pointerToConstPointer
  | pointerToArray (hasStar : Bool) (lengths : List Nat)
  | array (hasStar : Bool) (lengths : List Nat)

namespace Suffix

/-- The type that C makes of a value type with the suffix, arrays being parameters. -/
def applyTo (base : Qualified) : Suffix → Qualified
  | pointer => .pointer base true false
  | reference => .pointer base false false
  | pointerToPointer => .pointer (.pointer base true false) true false
  | pointerToConstPointer => .pointer (.pointer base true true) true false
  | pointerToArray hasStar lengths => .pointer ((base.behind hasStar).nest lengths) true false
  | array hasStar lengths => ((base.behind hasStar).nest lengths).adjusted

def isArray : Suffix → Bool
  | array .. => true
  | _ => false

/-- The suffixes in front of which a `const` is lost, or taken for that of the elements of the
array that the type points to. -/
def misplacesConst : Suffix → Bool
  | pointerToConstPointer => true
  | pointerToArray hasStar _ => hasStar
  | array hasStar _ => !hasStar
  | _ => false

def starTokens (hasStar : Bool) : List Token :=
  if hasStar then [.star] else []

inductive Written : Suffix → List Token → Prop
  | pointer : Written pointer [.star]
  | reference : Written reference [.ampersand]
  | pointerToPointer : Written pointerToPointer [.star, .star]
  | pointerToConstPointer : Written pointerToConstPointer [.star, .word "const", .star]
  | pointerToArray {hasStar : Bool} {words : List String} {lengths : List Nat} :
      words ≠ [] → (∀ word ∈ words, word.toList.all Text.isDecimalDigit = true) →
      lengths? words = some lengths →
      Written (pointerToArray hasStar lengths)
        (starTokens hasStar ++ .openParen :: .star :: .closeParen :: bracketed words)
  | array {hasStar : Bool} {words : List String} {lengths : List Nat} :
      words ≠ [] → (∀ word ∈ words, word.toList.all Text.isDecimalDigit = true) →
      lengths? words = some lengths →
      Written (array hasStar lengths) (starTokens hasStar ++ bracketed words)

end Suffix

/-- The tokens are those of an optional `const`, a value type that is not qualified by itself,
and a suffix. -/
inductive Spells (isConst : Bool) (base : CType) (suffix : Suffix) : List Token → Prop
  | mk {words : List String} {back : List Token} : pointeeOfWords? words = some base →
      "const" ∉ words.dropLast → suffix.Written back →
      Spells isConst base suffix (constTokens isConst ++ words.map .word ++ back)

/-- The type that is read where the suffix follows a value type, with a `const` in front of
that or not. -/
def Suffix.read (isConst : Bool) (base : CType) : Suffix → CType
  | pointer => pointerTo base isConst
  | reference => referenceTo base isConst
  | pointerToPointer => pointerTo (pointerTo base isConst) false
  | pointerToConstPointer => pointerTo (pointerTo base false) true
  | pointerToArray hasStar lengths =>
    pointerTo (CType.nest (if hasStar then pointerTo base false else base) lengths) isConst
  | array hasStar lengths =>
    (CType.nest (if hasStar then pointerTo base isConst else base) lengths).decay

theorem nest_cons (element : CType) (length : Nat) (lengths : List Nat) :
    nest element (length :: lengths) = array (nest element lengths) length := rfl

/-- What is read has the qualifiers that C gives to it, unless a `const` is misplaced. -/
theorem Suffix.read_eq_marked_iff {suffix : Suffix} {back : List Token} (h : suffix.Written back)
    (isConst : Bool) (base : CType) :
    suffix.read isConst base = (suffix.applyTo (.value base isConst)).marked
      ↔ ¬ (isConst = true ∧ suffix.misplacesConst = true) := by
  cases h with
  | pointer | reference | pointerToPointer =>
    simp [read, applyTo, misplacesConst, Qualified.marked, Qualified.isConst, pointerTo,
      referenceTo]
  | pointerToConstPointer =>
    simp [read, applyTo, misplacesConst, Qualified.marked, Qualified.isConst, pointerTo]
  | @pointerToArray hasStar _ lengths =>
    cases hasStar with
    | false =>
      simp [read, applyTo, misplacesConst, Qualified.marked, Qualified.isConst,
        Qualified.behind, pointerTo]
    | true =>
      cases isConst with
      | false =>
        simp [read, applyTo, Qualified.marked, Qualified.isConst, Qualified.behind, pointerTo]
      | true =>
        simp [read, applyTo, misplacesConst, Qualified.marked, Qualified.isConst,
          Qualified.behind, pointerTo]
  | @array hasStar _ lengths hne _ hlengths =>
    cases lengths with
    | nil => exact absurd rfl (areLengths_of_lengths? hne hlengths).1
    | cons length lengths =>
      cases hasStar <;>
        simp [read, applyTo, misplacesConst, Qualified.marked, Qualified.isConst,
          Qualified.behind, Qualified.adjusted, Qualified.nest_cons, nest_cons, decay, pointerTo]

theorem getLast?_map_word (words : List String) (token : Token)
    (h : ∀ text, token ≠ .word text) : (words.map Token.word).getLast? ≠ some token := by
  rw [List.getLast?_map]
  cases words.getLast? with
  | none => simp
  | some word => simpa using (h word).symm

@[simp] theorem ofTokens?_words (position : Position) :
    ofTokens? (words.map .word) position = ofWords? words := by
  have hshape : Declarator.ofTokens (words.map .word) = .other :=
    Declarator.ofTokens_eq_other (getLast?_map_word words _ (by simp))
      (getLast?_map_word words _ (by simp))
  rw [ofTokens?_of_other hshape, ofPlainTokens?, if_neg (by simp),
    wordTexts?_eq_some_iff.mpr rfl, Option.bind_some]

theorem ofTokens?_append_star (position : Position) (front : List Token) :
    ofTokens? (front ++ [Token.star]) position = ofPlainTokens? (front ++ [Token.star]) :=
  ofTokens?_of_other (Declarator.ofTokens_eq_other (by simp) (by simp))

/-- The tokens of a value type with a `const` in front of it and a star behind it, if these are
there. -/
def elementTokens (isConst : Bool) (words : List String) (hasStar : Bool) : List Token :=
  constTokens isConst ++ words.map .word ++ Suffix.starTokens hasStar

section Elements

variable {isConst hasStar : Bool} {words : List String} {base type : CType}

theorem elementTokens_ne_nil (hne : words ≠ []) : elementTokens isConst words hasStar ≠ [] := by
  simp [elementTokens, hne]

/-- The last token of an element is a word or a star. -/
theorem getLast?_elementTokens_ne {token : Token} (hstar : token ≠ .star)
    (hword : ∀ text, token ≠ .word text) :
    (elementTokens isConst words hasStar).getLast? ≠ some token := by
  rw [elementTokens, constTokens_append]
  cases hasStar with
  | true => simpa [Suffix.starTokens] using hstar.symm
  | false =>
    rw [Suffix.starTokens, if_neg (by simp), List.append_nil]
    exact getLast?_map_word _ _ hword

/-- An element is a value type, or a pointer to one. -/
theorem eq_of_ofTokens?_elementTokens {position : Position}
    (hbase : pointeeOfWords? words = some base) (hbare : "const" ∉ words.dropLast)
    (h : ofTokens? (elementTokens isConst words hasStar) position = some type) :
    type = if hasStar then pointerTo base isConst else base := by
  rw [elementTokens, constTokens_append] at h
  cases hasStar with
  | true =>
    rw [Suffix.starTokens, if_pos rfl, ofTokens?_append_star] at h
    exact eq_wrap_of_ofPlainTokens? (fun isConst type => pointerTo type isConst)
      (by simp) (by simp) rfl hbase hbare h
  | false =>
    rw [Suffix.starTokens, if_neg (by simp), List.append_nil, ofTokens?_words,
      ofWords?_constWords (ne_nil_of_pointeeOfWords? hbase)] at h
    exact eq_of_ofWords? hbase h

/-- The `const` in front of an element is taken off, and no other. Only of the word `const` and
a star the star would be left, which is not read. -/
theorem stripConst_elementTokens (hne : words ≠ []) (hbare : "const" ∉ words.dropLast)
    (h : ofTokens? (stripConst (elementTokens isConst words hasStar)).2 .value = some type) :
    stripConst (elementTokens isConst words hasStar)
      = (isConst, elementTokens false words hasStar) := by
  match words with
  | [] => exact absurd rfl hne
  | word :: rest =>
    cases isConst with
    | true => rfl
    | false =>
      by_cases hword : word = "const"
      · subst hword
        match rest with
        | next :: rest => exact absurd List.mem_cons_self hbare
        | [] =>
          cases hasStar with
          | false => rfl
          | true =>
            have hstar : ofTokens? [.star] .value = none := ofTokens?_append_star .value []
            have hleft : stripConst (elementTokens false ["const"] true) = (true, [.star]) := rfl
            rw [hleft, hstar] at h
            cases h
      · have hfirst : elementTokens false (word :: rest) hasStar
            = .word word :: (rest.map .word ++ Suffix.starTokens hasStar) := rfl
        rw [hfirst]
        unfold stripConst
        split
        · next heq => exact absurd (Token.word.inj (List.cons.inj heq).1) hword
        · rfl

end Elements

/-- What is read from the tokens of a suffix behind a value type. -/
theorem eq_read_of_ofTokens? {isConst : Bool} {base type : CType} {suffix : Suffix}
    {tokens : List Token} {position : Position} (hspells : Spells isConst base suffix tokens)
    (hposition : suffix.isArray = true → position = .signature)
    (h : ofTokens? tokens position = some type) : type = suffix.read isConst base := by
  obtain ⟨hbase, hbare, hback⟩ := hspells
  rename_i words back
  have hwords := ne_nil_of_pointeeOfWords? hbase
  cases hback with
  | pointer =>
    rw [ofTokens?_append_star, constTokens_append] at h
    exact eq_wrap_of_ofPlainTokens? (fun isConst type => pointerTo type isConst)
      (by simp) (by simp) rfl hbase hbare h
  | reference =>
    rw [ofTokens?_of_other (Declarator.ofTokens_eq_other (by simp) (by simp)),
      constTokens_append] at h
    exact eq_wrap_of_ofPlainTokens? (fun isConst type => referenceTo type isConst)
      (by simp) (by simp) rfl hbase hbare h
  | pointerToPointer =>
    rw [ofTokens?_of_other (Declarator.ofTokens_eq_other (by simp) (by simp)),
      constTokens_append] at h
    exact eq_wrap_of_ofPlainTokens?
      (fun isConst type => pointerTo (pointerTo type isConst) false)
      (by simp) (by simp) rfl hbase hbare h
  | pointerToConstPointer =>
    rw [ofTokens?_of_other (Declarator.ofTokens_eq_other (by simp) (by simp)),
      constTokens_append] at h
    exact eq_wrap_of_ofPlainTokens?_of_single
      (fun type => pointerTo (pointerTo type false) true) (by simp) (by simp) rfl hbase h
  | @pointerToArray hasStar lengthWords lengths hne hdigits hlengths =>
    have hhead : elementTokens isConst words hasStar ≠ [] := elementTokens_ne_nil hwords
    have hfound := lengthWords?_eq_some_iff.mpr ⟨hne, hdigits, rfl⟩
    rw [← List.append_assoc, ← elementTokens,
      ofTokens?_of_pointerToArray (Declarator.ofTokens_append_pointed hhead hfound),
      hlengths] at h
    obtain ⟨element, helement, h⟩ := Option.bind_eq_some_iff.mp h
    cases h
    have hstrip := stripConst_elementTokens hwords hbare helement
    rw [hstrip] at helement ⊢
    rw [eq_of_ofTokens?_elementTokens hbase hbare helement]
    rfl
  | @array hasStar lengthWords lengths hne hdigits hlengths =>
    have hhead : elementTokens isConst words hasStar ≠ [] := elementTokens_ne_nil hwords
    have hpointed : ¬ [Token.openParen, .star, .closeParen]
        <:+ elementTokens isConst words hasStar := by
      rintro ⟨front, hfront⟩
      have hlast : (elementTokens isConst words hasStar).getLast? ≠ some .closeParen :=
        getLast?_elementTokens_ne (by simp) (by simp)
      rw [← hfront, List.getLast?_append_of_ne_nil _ (by simp)] at hlast
      exact hlast rfl
    have hfound := lengthWords?_eq_some_iff.mpr ⟨hne, hdigits, rfl⟩
    have hshape := Declarator.ofTokens_append_lengths hhead
      (getLast?_elementTokens_ne (by simp) (by simp)) hpointed hfound
    rw [← List.append_assoc, ← elementTokens, ofTokens?_of_array hshape, hlengths,
      hposition rfl] at h
    obtain ⟨element, helement, h⟩ := Option.bind_eq_some_iff.mp h
    cases h
    rw [eq_of_ofTokens?_elementTokens hbase hbare helement]
    rfl

theorem Spells.exists_written {isConst : Bool} {base : CType} {suffix : Suffix}
    {tokens : List Token} (h : Spells isConst base suffix tokens) :
    ∃ back, suffix.Written back := by
  obtain ⟨-, -, hback⟩ := h
  exact ⟨_, hback⟩

/-- A spelling of the simple kind is read with the qualifiers that C gives to it, unless there
is a `const` in front of it and its suffix is one that misplaces that. -/
theorem resolve_eq_marked_iff {raw : String} {position : Position} {isConst : Bool}
    {base type : CType} {suffix : Suffix} (hspells : Spells isConst base suffix (tokens raw))
    (hposition : suffix.isArray = true → position = .signature)
    (h : resolve raw position = .ok type) :
    type = suffix.read isConst base
      ∧ (type = (suffix.applyTo (.value base isConst)).marked
        ↔ ¬ (isConst = true ∧ suffix.misplacesConst = true)) := by
  have hread := eq_read_of_ofTokens? hspells hposition (resolve_eq_ok_iff.mp h)
  obtain ⟨back, hback⟩ := hspells.exists_written
  refine ⟨hread, ?_⟩
  rw [hread]
  exact Suffix.read_eq_marked_iff hback isConst base

theorem spells_stringRows :
    Spells true (.primitive .u8) (.array true [3, 4]) (tokens "const char *[3][4]") := by
  have htokens : tokens "const char *[3][4]"
      = constTokens true ++ ["char"].map .word
        ++ (Suffix.starTokens true ++ bracketed ["3", "4"]) := by decide
  rw [htokens]
  exact .mk rfl (by decide) (.array (by decide) (by decide) rfl)

theorem resolve_eq_marked_iff_stringRows :
    ∃ type, resolve "const char *[3][4]" .signature = .ok type
      ∧ type = ((Suffix.array true [3, 4]).applyTo (.value (.primitive .u8) true)).marked := by
  have hrows := resolve_eq_marked_iff spells_stringRows (fun _ => rfl) resolve_stringRows
  exact ⟨_, resolve_stringRows, hrows.2.mpr (by decide)⟩

theorem spells_constLevels :
    Spells true (.primitive .u8) .pointerToConstPointer (tokens "const char *const *") := by
  have htokens : tokens "const char *const *"
      = constTokens true ++ ["char"].map .word ++ [.star, .word "const", .star] := by decide
  rw [htokens]
  exact .mk rfl (by decide) .pointerToConstPointer

/-- The first `const` is lost, so characters that are constant stand behind a pointer to
characters that are not. -/
theorem resolve_constLevels : resolve "const char *const *" .value
    = .ok (pointerTo (pointerTo (.primitive .u8) false) true) :=
  resolve_of_other rfl rfl

theorem not_forall_resolve_eq_marked :
    ¬ ∀ (raw : String) (position : Position) (isConst : Bool) (base type : CType)
      (suffix : Suffix), Spells isConst base suffix (tokens raw) →
        (suffix.isArray = true → position = .signature) → resolve raw position = .ok type →
        type = (suffix.applyTo (.value base isConst)).marked := by
  intro hall
  have hmarked := hall _ _ _ _ _ _ spells_constLevels (by simp [Suffix.isArray]) resolve_constLevels
  cases hmarked

end AbiBridge.CType
