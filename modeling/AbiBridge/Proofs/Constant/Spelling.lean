import AbiBridge.Constant.Expression
import AbiBridge.Proofs.CType.Separator
import AbiBridge.Proofs.Text.Blank

/-!
# Spelling of tokens

How the tokens of an expression are written: words and marks, with spaces and tabs between
them, and blanks around the whole. The tokens of a text are those that it spells.
-/

namespace AbiBridge.Constant

namespace Token

def IsWordChar (c : Char) : Prop :=
  c.isAlphanum = true ∨ c = '_' ∨ c = ':'

def chars : Token → List Char
  | number word => word
  | name word => word
  | shift => ['<', '<']
  | bar => ['|']
  | minus => ['-']
  | tilde => ['~']
  | openParen => ['(']
  | closeParen => [')']

def isWord : Token → Bool
  | number _ => true
  | name _ => true
  | _ => false

/-- A word has characters, all of them of words; a number is a word that starts with a digit. -/
def WellFormed : Token → Prop
  | number word => (∀ c ∈ word, IsWordChar c) ∧ ∃ c ∈ word.head?, c.isDigit = true
  | name word => (∀ c ∈ word, IsWordChar c) ∧ ∃ c ∈ word.head?, c.isDigit = false
  | _ => True

/-- The tokens are spelled one after the other. There may be spaces and tabs before each, and
no character of a word follows a word directly. -/
inductive Spelled : List Token → List Char → Prop
  | nil : Spelled [] []
  | cons {gap cs : List Char} {token : Token} {tokens : List Token} :
    (∀ c ∈ gap, c = ' ' ∨ c = '\t') → token.WellFormed →
    (token.isWord = true → ∀ c ∈ cs.head?, ¬ IsWordChar c) → Spelled tokens cs →
    Spelled (token :: tokens) (gap ++ token.chars ++ cs)

variable {c : Char} {cs pending word : List Char} {token : Token} {tokens : List Token}

theorem isWordPart_iff : isWordPart c = true ↔ IsWordChar c := by
  simp [isWordPart, Text.isAsciiWordChar, IsWordChar, or_assoc]

@[simp] theorem isSeparator_iff : isSeparator c = true ↔ c = ' ' ∨ c = '\t' := by
  simp [isSeparator]

@[simp] theorem scan_shift :
    scan pending ('<' :: '<' :: cs) = (scan [] cs).map (ofPending pending ++ shift :: ·) := by
  rw [scan]

theorem scan_cons (h : ¬ (c = '<' ∧ cs.head? = some '<')) :
    scan pending (c :: cs)
      = if isWordPart c then scan (pending ++ [c]) cs
        else if isSeparator c then (scan [] cs).map (ofPending pending ++ ·)
        else match ofMark? c with
          | some mark => (scan [] cs).map (ofPending pending ++ mark :: ·)
          | none => none := by
  have not_shift : ∀ rest, c = '<' → cs = '<' :: rest → False := by
    rintro rest rfl rfl
    exact h ⟨rfl, rfl⟩
  exact scan.eq_3 pending c cs not_shift

theorem scan_cons_of_isWordPart (h : isWordPart c = true) :
    scan pending (c :: cs) = scan (pending ++ [c]) cs := by
  rw [scan_cons, if_pos h]
  rintro ⟨rfl, -⟩
  exact absurd h (by decide)

theorem scan_append_of_word (h : ∀ c ∈ word, isWordPart c = true) :
    scan pending (word ++ cs) = scan (pending ++ word) cs := by
  induction word generalizing pending with
  | nil => rw [List.nil_append, List.append_nil]
  | cons c word ih =>
    rw [List.cons_append, scan_cons_of_isWordPart (h c List.mem_cons_self),
      ih fun c hc => h c (List.mem_cons_of_mem _ hc), List.append_assoc, List.singleton_append]

/-- A word ends where no character of a word follows. -/
theorem scan_of_head (h : ∀ c ∈ cs.head?, isWordPart c = false) :
    scan pending cs = (scan [] cs).map (ofPending pending ++ ·) := by
  cases cs with
  | nil => simp [scan, ofPending]
  | cons c cs =>
    have hc := h c rfl
    by_cases hshift : c = '<' ∧ cs.head? = some '<'
    · obtain ⟨rfl, hhead⟩ := hshift
      obtain ⟨rest, rfl⟩ := List.head?_eq_some_iff.mp hhead
      rw [scan_shift, scan_shift]
      simp [Function.comp_def, ofPending]
    · rw [scan_cons hshift, scan_cons hshift, hc]
      by_cases hsep : isSeparator c = true
      · simp [hsep, ofPending]
      · cases ofMark? c <;> simp [hsep, ofPending, Function.comp_def]

theorem scan_cons_of_isSeparator (h : isSeparator c = true) :
    scan pending (c :: cs) = (scan [] cs).map (ofPending pending ++ ·) := by
  rcases isSeparator_iff.mp h with rfl | rfl
  · exact scan_cons (by simp)
  · exact scan_cons (by simp)

theorem scan_nil_append_of_separators {gap : List Char} (h : ∀ c ∈ gap, isSeparator c = true) :
    scan [] (gap ++ cs) = scan [] cs := by
  induction gap with
  | nil => rfl
  | cons c gap ih =>
    rw [List.cons_append, scan_cons_of_isSeparator (h c List.mem_cons_self),
      ih fun c hc => h c (List.mem_cons_of_mem _ hc)]
    simp [ofPending]

theorem WellFormed.isWordPart (h : token.WellFormed) (hword : token.isWord = true) :
    ∀ c ∈ token.chars, isWordPart c = true := by
  cases token with
  | number word => exact fun c hc => isWordPart_iff.mpr (h.1 c hc)
  | name word => exact fun c hc => isWordPart_iff.mpr (h.1 c hc)
  | _ => cases hword

theorem WellFormed.ofPending_chars (h : token.WellFormed) (hword : token.isWord = true) :
    ofPending token.chars = [token] := by
  cases token with
  | number word =>
    obtain ⟨-, c, hc, hdigit⟩ := h
    obtain ⟨rest, rfl⟩ := List.head?_eq_some_iff.mp hc
    simp [chars, ofPending, hdigit]
  | name word =>
    obtain ⟨-, c, hc, hdigit⟩ := h
    obtain ⟨rest, rfl⟩ := List.head?_eq_some_iff.mp hc
    simp [chars, ofPending, hdigit]
  | _ => cases hword

theorem scan_chars_append (h : token.WellFormed)
    (hnext : token.isWord = true → ∀ c ∈ cs.head?, ¬ IsWordChar c) :
    scan [] (token.chars ++ cs) = (scan [] cs).map (token :: ·) := by
  by_cases hword : token.isWord = true
  · have hhead : ∀ c ∈ cs.head?, isWordPart c = false := fun c hc => by
      rw [Bool.eq_false_iff, ne_eq, isWordPart_iff]
      exact hnext hword c hc
    rw [scan_append_of_word (h.isWordPart hword), scan_of_head hhead, List.nil_append,
      h.ofPending_chars hword]
    rfl
  · cases token with
    | number word => exact absurd rfl hword
    | name word => exact absurd rfl hword
    | shift => exact scan_shift
    | _ => exact scan_cons (by simp)

/-- What is spelled is scanned. -/
theorem Spelled.scan_eq (h : Spelled tokens cs) : scan [] cs = some tokens := by
  induction h with
  | nil => rfl
  | cons hgap hwell hnext _ ih =>
    have hseparators := fun c hc => isSeparator_iff.mpr (hgap c hc)
    rw [List.append_assoc, scan_nil_append_of_separators hseparators,
      scan_chars_append hwell hnext, ih]
    rfl

def SpelledIn (tokens : List Token) (cs : List Char) : Prop :=
  ∃ body gap, cs = body ++ gap ∧ (∀ c ∈ gap, c = ' ' ∨ c = '\t') ∧ Spelled tokens body

theorem SpelledIn.cons (hwell : token.WellFormed)
    (hnext : token.isWord = true → ∀ c ∈ cs.head?, ¬ IsWordChar c) (h : SpelledIn tokens cs) :
    SpelledIn (token :: tokens) (token.chars ++ cs) := by
  obtain ⟨body, gap, rfl, hgap, hbody⟩ := h
  refine ⟨token.chars ++ body, gap, by rw [List.append_assoc], hgap, ?_⟩
  refine @Spelled.cons [] body token tokens (by simp) hwell (fun hword c hc => ?_) hbody
  refine hnext hword c ?_
  obtain ⟨rest, rfl⟩ := List.head?_eq_some_iff.mp hc
  rfl

theorem SpelledIn.separator (hc : c = ' ' ∨ c = '\t') (h : SpelledIn tokens cs) :
    SpelledIn tokens (c :: cs) := by
  obtain ⟨body, after, rfl, hafter, hbody⟩ := h
  cases hbody with
  | nil => exact ⟨[], c :: after, rfl, by simpa using ⟨hc, hafter⟩, .nil⟩
  | @cons gap rest token tokens hgap hwell hnext hrest =>
    exact ⟨(c :: gap) ++ token.chars ++ rest, after, by simp, hafter,
      .cons (by simpa using ⟨hc, hgap⟩) hwell hnext hrest⟩

/-- The word that was read, if there is one, is spelled before a character of another kind. -/
theorem SpelledIn.ofPending (hpending : ∀ c ∈ pending, isWordPart c = true)
    (hnext : ∀ c ∈ cs.head?, isWordPart c = false) (h : SpelledIn tokens cs) :
    SpelledIn (ofPending pending ++ tokens) (pending ++ cs) := by
  have hchars : ∀ c ∈ pending, IsWordChar c := fun c hc => isWordPart_iff.mp (hpending c hc)
  have hend : ∀ c ∈ cs.head?, ¬ IsWordChar c := fun c hc => by
    rw [← isWordPart_iff, hnext c hc]
    exact Bool.false_ne_true
  cases pending with
  | nil => exact h
  | cons c word =>
    cases hdigit : c.isDigit with
    | true =>
      have hwell : (number (c :: word)).WellFormed := ⟨hchars, c, rfl, hdigit⟩
      rw [Token.ofPending, if_pos hdigit]
      exact SpelledIn.cons hwell (fun _ => hend) h
    | false =>
      have hwell : (name (c :: word)).WellFormed := ⟨hchars, c, rfl, hdigit⟩
      rw [Token.ofPending, if_neg (by simp [hdigit])]
      exact SpelledIn.cons hwell (fun _ => hend) h

theorem chars_of_ofMark? {mark : Token} (h : ofMark? c = some mark) :
    mark.chars = [c] ∧ mark.isWord = false ∧ mark.WellFormed := by
  unfold ofMark? at h
  split at h <;> cases h <;> exact ⟨rfl, rfl, trivial⟩

theorem spelledIn_of_scan (hpending : ∀ c ∈ pending, isWordPart c = true)
    (h : scan pending cs = some tokens) : SpelledIn tokens (pending ++ cs) := by
  fun_induction scan pending cs generalizing tokens with
  | case1 pending =>
    cases h
    have hnil : SpelledIn [] [] := ⟨[], [], rfl, by simp, .nil⟩
    simpa using hnil.ofPending hpending (by simp)
  | case2 pending cs ih =>
    obtain ⟨rest, hrest, rfl⟩ := Option.map_eq_some_iff.mp h
    have hcs : SpelledIn rest cs := ih (by simp) hrest
    have hshift : SpelledIn (shift :: rest) (shift.chars ++ cs) :=
      hcs.cons trivial (fun hword => by cases hword)
    refine hshift.ofPending hpending fun c hc => ?_
    rw [← Option.some.inj hc]
    decide
  | case3 pending c cs hshift hword ih =>
    have hlonger : ∀ d ∈ pending ++ [c], isWordPart d = true := by
      intro d hd
      rcases List.mem_append.mp hd with hd | hd
      · exact hpending d hd
      · rw [List.mem_singleton.mp hd]
        exact hword
    simpa using ih hlonger h
  | case4 pending c cs hshift hword hsep ih =>
    obtain ⟨rest, hrest, rfl⟩ := Option.map_eq_some_iff.mp h
    have hcs : SpelledIn rest cs := ih (by simp) hrest
    exact (hcs.separator (isSeparator_iff.mp hsep)).ofPending hpending (by simpa using hword)
  | case5 pending c cs hshift hword hsep mark hmark ih =>
    obtain ⟨rest, hrest, rfl⟩ := Option.map_eq_some_iff.mp h
    have hcs : SpelledIn rest cs := ih (by simp) hrest
    obtain ⟨hchars, hmarkWord, hwell⟩ := chars_of_ofMark? hmark
    have hmark : SpelledIn (mark :: rest) (c :: cs) := by
      simpa [hchars] using hcs.cons hwell (by simp [hmarkWord])
    exact hmark.ofPending hpending (by simpa using hword)
  | case6 => cases h

theorem isBlank_of_isWordChar (h : IsWordChar c) : Text.isBlank c = false := by
  rcases h with h | rfl | rfl
  · exact Text.isBlank_of_isWordChar (by simp [Text.isWordChar, Text.isAsciiWordChar, h])
  · decide
  · decide

theorem WellFormed.isBlank (h : token.WellFormed) (hc : c ∈ token.chars) :
    Text.isBlank c = false := by
  cases token with
  | number word => exact isBlank_of_isWordChar (h.1 c hc)
  | name word => exact isBlank_of_isWordChar (h.1 c hc)
  | _ =>
    simp only [chars, List.mem_cons, List.not_mem_nil, or_false, or_self] at hc
    rw [hc]
    decide

theorem WellFormed.chars_ne_nil (h : token.WellFormed) : token.chars ≠ [] := by
  cases token with
  | number word =>
    obtain ⟨-, c, hc, -⟩ := h
    rintro rfl
    cases hc
  | name word =>
    obtain ⟨-, c, hc, -⟩ := h
    rintro rfl
    cases hc
  | _ => exact List.cons_ne_nil _ _

theorem Spelled.isBlank_getLast (h : Spelled tokens cs) (hc : c ∈ cs.getLast?) :
    Text.isBlank c = false := by
  induction h with
  | nil => cases hc
  | @cons gap cs token tokens _ hwell _ _ ih =>
    cases cs with
    | nil =>
      rw [List.append_nil, List.getLast?_append_of_ne_nil _ hwell.chars_ne_nil] at hc
      exact hwell.isBlank (List.mem_of_getLast? hc)
    | cons d cs =>
      rw [List.getLast?_append_of_ne_nil _ (List.cons_ne_nil _ _)] at hc
      exact ih hc

end Token

def IsSpelledAs (text : String) (tokens : List Token) : Prop :=
  ∃ before body after, text.toList = before ++ body ++ after
    ∧ (∀ c ∈ before, Text.isBlank c = true) ∧ (∀ c ∈ after, Text.isBlank c = true)
    ∧ Token.Spelled tokens body

theorem isBlank_of_separator {c : Char} (h : c = ' ' ∨ c = '\t') : Text.isBlank c = true := by
  rcases h with rfl | rfl <;> decide

theorem tokens?_eq_some_iff {text : String} {tokens : List Token} :
    tokens? text = some tokens ↔ IsSpelledAs text tokens := by
  constructor
  · intro h
    obtain ⟨before, after, htext, hbefore, hafter⟩ := Text.exists_trim text.toList
    obtain ⟨body, gap, hbody, hgap, hspelled⟩ := Token.spelledIn_of_scan (by simp) h
    rw [List.nil_append] at hbody
    refine ⟨before, body, gap ++ after, ?_, hbefore, fun c hc => ?_, hspelled⟩
    · rw [htext, hbody, List.append_assoc, List.append_assoc, List.append_assoc]
    · exact (List.mem_append.mp hc).elim (fun hc => isBlank_of_separator (hgap c hc)) (hafter c)
  · rintro ⟨before, body, after, htext, hbefore, hafter, hbody⟩
    rw [tokens?, htext]
    cases hbody with
    | nil =>
      rw [Text.trim_append hbefore hafter (by simp) (by simp)]
      rfl
    | @cons gap cs token tokens hgap hwell hnext hrest =>
      have hcore : Token.Spelled (token :: tokens) (token.chars ++ cs) :=
        @Token.Spelled.cons [] cs token tokens (by simp) hwell hnext hrest
      have hfirst : ∀ c ∈ (token.chars ++ cs).head?, Text.isBlank c = false := fun c hc => by
        rw [List.head?_append_of_ne_nil _ hwell.chars_ne_nil] at hc
        exact hwell.isBlank (List.mem_of_head? hc)
      have hblanks : ∀ c ∈ before ++ gap, Text.isBlank c = true := fun c hc =>
        (List.mem_append.mp hc).elim (hbefore c) fun hc => isBlank_of_separator (hgap c hc)
      have htrim := Text.trim_append hblanks hafter hfirst fun c hc => hcore.isBlank_getLast hc
      rw [← hcore.scan_eq, ← htrim]
      simp only [List.append_assoc]

end AbiBridge.Constant
