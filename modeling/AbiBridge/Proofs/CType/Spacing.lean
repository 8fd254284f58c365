import AbiBridge.CType.Resolver
import AbiBridge.Proofs.CType.Resolved
import AbiBridge.Proofs.CType.Tokens
import AbiBridge.Proofs.Dictionary

/-!
# Spacing of a type spelling

Blanks only separate the tokens of a spelling, and a mark is a token wherever it stands. The
normal form has one space between each two tokens and nothing else, so spellings with the same
tokens have one normal form, are read as the same type and are replaced alike.
-/

namespace AbiBridge

namespace CType

namespace Token

/-- The text is read as the tokens. A blank separates, a mark is a token of its own, and a word
is a run of other characters that goes on up to a mark, a blank or the end. -/
inductive ReadFrom : List Char → List Token → Prop
  | nil : ReadFrom [] []
  | blank {c : Char} {cs : List Char} {ts : List Token} : Text.isBlank c = true →
    ReadFrom cs ts → ReadFrom (c :: cs) ts
  | mark {c : Char} {t : Token} {cs : List Char} {ts : List Token} : ofMark? c = some t →
    ReadFrom cs ts → ReadFrom (c :: cs) (t :: ts)
  | word {run cs : List Char} {ts : List Token} : run ≠ [] →
    (∀ c ∈ run, isSeparator c = false) → (∀ c ∈ cs.head?, isSeparator c = true) →
    ReadFrom cs ts → ReadFrom (run ++ cs) (word (String.ofList run) :: ts)

theorem isBlank_of_ofMark? {c : Char} {t : Token} (h : ofMark? c = some t) :
    Text.isBlank c = false := by
  have hmarks : (['*', '&', '(', ')', ',', '[', ']'].all (!Text.isBlank ·)) = true := by decide
  have hmem := mem_of_isSome_ofMark? (Option.isSome_of_mem h)
  simpa using List.all_eq_true.mp hmarks c hmem

theorem ofPending_of_ne_nil {run : List Char} (hne : run ≠ []) :
    ofPending run = [word (String.ofList run)] := by
  cases run with
  | nil => exact absurd rfl hne
  | cons c run => rfl

theorem ReadFrom.scan_eq {cs : List Char} {ts : List Token} (h : ReadFrom cs ts) :
    scan [] cs = ts := by
  induction h with
  | nil => rfl
  | @blank c cs ts hblank _ ih =>
    have hmark : ofMark? c = none := Option.eq_none_iff_forall_ne_some.mpr fun t ht => by
      rw [isBlank_of_ofMark? ht] at hblank
      cases hblank
    simp [scan, hmark, hblank, ofPending, ih]
  | mark hmark _ ih => simp [scan, hmark, ofPending, ih]
  | word hne hrun hhead _ ih =>
    rw [scan_append _ _ _ hhead, scan_word hrun, List.nil_append, ofPending_of_ne_nil hne, ih]
    rfl

/-- A word that was read up to a separator or the end is a token. -/
theorem ReadFrom.pending {run cs : List Char} {ts : List Token} (h : ReadFrom cs ts)
    (hrun : ∀ c ∈ run, isSeparator c = false) (hhead : ∀ c ∈ cs.head?, isSeparator c = true) :
    ReadFrom (run ++ cs) (ofPending run ++ ts) := by
  by_cases hne : run = []
  · subst hne
    exact h
  · rw [ofPending_of_ne_nil hne]
    exact .word hne hrun hhead h

theorem readFrom_scan (cs run : List Char)
    (hrun : ∀ c ∈ run, isSeparator c = false) : ReadFrom (run ++ cs) (scan run cs) := by
  induction cs generalizing run with
  | nil => simpa [scan] using ReadFrom.nil.pending hrun (by simp)
  | cons c cs ih =>
    have hrest : ReadFrom cs (scan [] cs) := ih [] (by simp)
    cases hmark : ofMark? c with
    | some t =>
      have hhead : ∀ d ∈ (c :: cs).head?, isSeparator d = true := by simp [isSeparator, hmark]
      simpa [scan, hmark] using (ReadFrom.mark hmark hrest).pending hrun hhead
    | none =>
      by_cases hblank : Text.isBlank c = true
      · have hhead : ∀ d ∈ (c :: cs).head?, isSeparator d = true := by simp [isSeparator, hblank]
        simpa [scan, hmark, hblank] using (ReadFrom.blank hblank hrest).pending hrun hhead
      · have hword : ∀ d ∈ run ++ [c], isSeparator d = false := by
          intro d hd
          rcases List.mem_append.mp hd with hd | hd
          · exact hrun d hd
          · rw [List.mem_singleton.mp hd]
            simp [isSeparator, hmark, hblank]
        simpa [scan, hmark, hblank] using ih (run ++ [c]) hword

end Token

/-- The tokens of a spelling are the only ones that it is read as. -/
theorem tokens_eq_iff {raw : String} {ts : List Token} :
    tokens raw = ts ↔ Token.ReadFrom raw.toList ts := by
  refine ⟨fun h => ?_, Token.ReadFrom.scan_eq⟩
  rw [← h]
  exact Token.readFrom_scan raw.toList [] (by simp)

def Token.joined (ts : List Token) : String :=
  " ".intercalate (ts.map text)

theorem Token.text_of_ofMark? {c : Char} {t : Token} (h : ofMark? c = some t) :
    t.text = String.ofList [c] := by
  have hmem := mem_of_isSome_ofMark? (Option.isSome_of_mem h)
  simp only [List.mem_cons, List.not_mem_nil, or_false] at hmem
  rcases hmem with rfl | rfl | rfl | rfl | rfl | rfl | rfl <;> cases h <;> rfl

@[simp] theorem Token.map_text_ofPending (run : List Char) :
    (ofPending run).map text = Text.pendingWord run := by
  cases run <;> rfl

/-- Setting the marks apart leaves the texts of the tokens as the words. -/
theorem splitWords_spaced (cs run : List Char) :
    Text.splitWords run (cs.flatMap spacedChar) = (Token.scan run cs).map Token.text := by
  have hspace : Text.isBlank ' ' = true := by decide
  induction cs generalizing run with
  | nil => simp [Text.splitWords, Token.scan]
  | cons c cs ih =>
    cases hmark : Token.ofMark? c with
    | some t =>
      have hblank := Token.isBlank_of_ofMark? hmark
      simp [spacedChar, Text.splitWords, Token.scan, hmark, hspace, hblank, ih, Text.pendingWord,
        Token.text_of_ofMark? hmark]
    | none =>
      by_cases hblank : Text.isBlank c = true
      · simp [spacedChar, Text.splitWords, Token.scan, hmark, hspace, hblank, ih]
      · simp [spacedChar, Text.splitWords, Token.scan, hmark, hblank, ih]

/-- The normal form is written from the tokens alone. -/
theorem normalize_eq_joined (raw : String) : normalize raw = Token.joined (tokens raw) := by
  rw [normalize, Text.words, splitWords_spaced, tokens, Token.joined]

/-- The token is a mark, or a word as it is read from a text. -/
def Token.IsWhole (t : Token) : Prop :=
  tokens t.text = [t]

theorem Token.ReadFrom.isWhole {cs : List Char} {ts : List Token} (h : ReadFrom cs ts) {t : Token}
    (ht : t ∈ ts) : t.IsWhole := by
  induction h with
  | nil => cases ht
  | blank _ _ ih => exact ih ht
  | mark hmark _ ih =>
    rcases List.mem_cons.mp ht with rfl | ht
    · rw [IsWhole, text_of_ofMark? hmark, tokens, String.toList_ofList]
      simp [scan, hmark, ofPending]
    · exact ih ht
  | word hne hrun _ _ ih =>
    rcases List.mem_cons.mp ht with rfl | ht
    · exact tokens_word (by simpa [text] using hne) (by simpa [text] using hrun)
    · exact ih ht

theorem tokens_joined {ts : List Token} (h : ∀ t ∈ ts, t.IsWhole) :
    tokens (Token.joined ts) = ts := by
  induction ts with
  | nil => rfl
  | cons t ts ih =>
    have hhead : tokens t.text = [t] := h t List.mem_cons_self
    have htail := ih fun t' ht' => h t' (List.mem_cons_of_mem _ ht')
    cases ts with
    | nil => simpa [Token.joined] using hhead
    | cons t' ts =>
      have hjoined : Token.joined (t :: t' :: ts) = t.text ++ " " ++ Token.joined (t' :: ts) := by
        simp [Token.joined, String.append_assoc]
      have hspace : Apart (t.text ++ " ") (Token.joined (t' :: ts)) :=
        .inr ⟨t.text.toList, ' ', by simp, by decide⟩
      have hend : Apart t.text " " := .of_head (by decide)
      rw [hjoined, tokens_append hspace, tokens_append hend, hhead, htail]
      rfl

@[simp] theorem tokens_normalize (raw : String) : tokens (normalize raw) = tokens raw := by
  have hread : Token.ReadFrom raw.toList (tokens raw) := tokens_eq_iff.mp rfl
  rw [normalize_eq_joined]
  exact tokens_joined fun _ ht => hread.isWhole ht

/-- Spellings have one normal form exactly if they have the same tokens. -/
theorem normalize_eq_iff {raw raw' : String} :
    normalize raw = normalize raw' ↔ tokens raw = tokens raw' := by
  refine ⟨fun h => ?_, fun h => ?_⟩
  · rw [← tokens_normalize raw, h, tokens_normalize]
  · rw [normalize_eq_joined, h, ← normalize_eq_joined]

theorem resolve_congr {raw raw' : String} (h : tokens raw = tokens raw') (position : Position)
    (type : CType) : resolve raw position = .ok type ↔ resolve raw' position = .ok type := by
  rw [resolve_eq_ok_iff, resolve_eq_ok_iff, h]

theorem resolveResult_eq_ok_iff {raw : String} {position : Position} {result : Option CType} :
    resolveResult raw position = .ok result ↔
      tokens raw = [.word "void"] ∧ result = none
        ∨ tokens raw ≠ [.word "void"]
          ∧ ∃ type, result = some type ∧ resolve raw position = .ok type := by
  rw [resolveResult]
  by_cases hvoid : tokens raw = [.word "void"]
  · simp [hvoid, eq_comm]
  · cases hresolve : resolve raw position <;> simp [hvoid, Except.map, eq_comm]

theorem resolveResult_congr {raw raw' : String} (h : tokens raw = tokens raw')
    (position : Position) (result : Option CType) :
    resolveResult raw position = .ok result ↔ resolveResult raw' position = .ok result := by
  simp only [resolveResult_eq_ok_iff, h, resolve_congr h]

end CType

namespace Resolver

open CType

/-- Of overrides the first counts whose key has the tokens of the spelling. -/
theorem lookup_map_normalize (entries : List (String × String)) (raw : String) :
    (entries.map fun (key, replacement) => (normalize key, replacement)).lookup (normalize raw)
      = (entries.find? fun entry => tokens entry.1 = tokens raw).map (·.2) := by
  induction entries with
  | nil => rfl
  | cons entry entries ih =>
    rw [List.map_cons, Dictionary.lookup_cons_eq_ite, ih, List.find?_cons]
    by_cases hsame : tokens entry.1 = tokens raw
    · simp [hsame, normalize_eq_iff.mpr hsame]
    · have hne : normalize raw ≠ normalize entry.1 := fun heq =>
        hsame (normalize_eq_iff.mp heq).symm
      simp [hsame, hne]

theorem get?_replacements (overrides : Dictionary String) (raw : String) :
    (ofOverrides overrides).replacements.get? (normalize raw)
      = (overrides.entries.reverse.find? fun entry => tokens entry.1 = tokens raw).map (·.2) := by
  rw [ofOverrides, Dictionary.get?_ofList, ← List.map_reverse, lookup_map_normalize]

/-- The last override whose key has the tokens of a spelling applies to it. -/
theorem exists_of_mem_overrides {overrides : Dictionary String} {raw key : String}
    (hkey : key ∈ overrides.names) (h : tokens key = tokens raw) :
    ∃ last ∈ overrides.entries, tokens last.1 = tokens raw
      ∧ (∀ other ∈ overrides.names, tokens other = tokens raw → other ≤ last.1)
      ∧ (ofOverrides overrides).replacements.get? (normalize raw) = some last.2 := by
  obtain ⟨entry, hentry, rfl⟩ := List.mem_map.mp hkey
  have hfound : (overrides.entries.reverse.find?
      fun entry => tokens entry.1 = tokens raw).isSome = true :=
    List.find?_isSome.mpr ⟨entry, List.mem_reverse.mpr hentry, by simpa using h⟩
  obtain ⟨last, hlast⟩ := Option.isSome_iff_exists.mp hfound
  obtain ⟨htokens, behind, before, hsplit, hbehind⟩ := List.find?_eq_some_iff_append.mp hlast
  have hentries : overrides.entries = before.reverse ++ last :: behind.reverse := by
    rw [← List.reverse_reverse overrides.entries, hsplit]
    simp
  refine ⟨last, by simp [hentries], by simpa using htokens, ?_, ?_⟩
  · -- what stands behind the last such key has other tokens, and what stands before it is less
    intro other hother hsame
    obtain ⟨entry, hentry, rfl⟩ := List.mem_map.mp hother
    have hsorted := overrides.sorted
    rw [hentries] at hentry hsorted
    rcases List.mem_append.mp hentry with hentry | hentry
    · have hless := (List.pairwise_append.mp hsorted).2.2 entry hentry last List.mem_cons_self
      exact String.not_lt.mp (String.lt_asymm hless)
    · rcases List.mem_cons.mp hentry with rfl | hentry
      · exact String.le_refl _
      · exact absurd hsame (by simpa using hbehind entry (List.mem_reverse.mp hentry))
  · rw [get?_replacements, hlast, Option.map_some]

/-- Spellings with the same tokens are replaced alike, or neither is replaced. -/
theorem replace_congr (resolver : Resolver) {raw raw' : String} (h : tokens raw = tokens raw') :
    tokens (resolver.replace raw) = tokens (resolver.replace raw') := by
  rw [replace, replace, normalize_eq_iff.mpr h]
  cases resolver.replacements.get? (normalize raw') with
  | none => exact h
  | some replacement => rfl

/-- Spellings that are read as the same tokens have one normal form, which is its own normal form.
Whatever is overridden, they are read as the same types, and an override whose key has these
tokens too replaces both; of several such overrides the last counts. -/
theorem spacing_irrelevant {raw raw' : String} {ts : List Token}
    (h : Token.ReadFrom raw.toList ts) (h' : Token.ReadFrom raw'.toList ts) :
    normalize (normalize raw) = normalize raw ∧ normalize raw = normalize raw'
      ∧ ∀ (overrides : Dictionary String) (position : Position),
        (∀ type, (ofOverrides overrides).resolve raw position = .ok type
          ↔ (ofOverrides overrides).resolve raw' position = .ok type)
        ∧ (∀ result, (ofOverrides overrides).resolveResult raw position = .ok result
          ↔ (ofOverrides overrides).resolveResult raw' position = .ok result)
        ∧ ∀ key ∈ overrides.names, Token.ReadFrom key.toList ts →
          ∃ last ∈ overrides.entries, Token.ReadFrom last.1.toList ts
            ∧ (∀ other ∈ overrides.names, Token.ReadFrom other.toList ts → other ≤ last.1)
            ∧ (ofOverrides overrides).replace raw = last.2
            ∧ (ofOverrides overrides).replace raw' = last.2 := by
  rw [← tokens_eq_iff] at h h'
  have hsame : tokens raw = tokens raw' := h.trans h'.symm
  refine ⟨normalize_eq_iff.mpr (tokens_normalize raw), normalize_eq_iff.mpr hsame, ?_⟩
  intro overrides position
  have hreplace := replace_congr (ofOverrides overrides) hsame
  refine ⟨resolve_congr hreplace position, resolveResult_congr hreplace position, ?_⟩
  intro key hkey hread
  rw [← tokens_eq_iff, ← h] at hread
  obtain ⟨last, hlast, htokens, hgreatest, hget⟩ := exists_of_mem_overrides hkey hread
  refine ⟨last, hlast, tokens_eq_iff.mp (htokens.trans h), ?_, ?_, ?_⟩
  · intro other hother hread'
    exact hgreatest other hother ((tokens_eq_iff.mpr hread').trans h.symm)
  · rw [replace, hget, Option.getD_some]
  · rw [replace, ← normalize_eq_iff.mpr hsame, hget, Option.getD_some]

/-- An override whose key is spaced in a way of its own. -/
def effectOverrides : Dictionary String :=
  Dictionary.empty.insert "const Effect_t  *" "const void*"

theorem spacing_irrelevant_effect :
    Token.ReadFrom "const Effect_t*".toList [.word "const", .word "Effect_t", .star]
      ∧ Token.ReadFrom "\tconst Effect_t *\n".toList [.word "const", .word "Effect_t", .star]
      ∧ normalize "const Effect_t*" = normalize "\tconst Effect_t *\n"
      ∧ (ofOverrides effectOverrides).replace "\tconst Effect_t *\n" = "const void*"
      ∧ (ofOverrides effectOverrides).resolve "\tconst Effect_t *\n" .signature
        = .ok (pointerTo (.primitive .u8) true) := by
  have hplain : tokens "const Effect_t*" = [.word "const", .word "Effect_t", .star] := by decide
  have hspaced : tokens "\tconst Effect_t *\n" = [.word "const", .word "Effect_t", .star] := by
    decide
  have hkey : tokens "const Effect_t  *" = [.word "const", .word "Effect_t", .star] := by decide
  rw [tokens_eq_iff] at hplain hspaced hkey
  obtain ⟨-, hnormal, halike⟩ := spacing_irrelevant hplain hspaced
  obtain ⟨hresolve, -, hoverride⟩ := halike effectOverrides .signature
  obtain ⟨last, hlast, -, -, hreplace, hreplace'⟩ := hoverride _ List.mem_cons_self hkey
  have hlast : last.2 = "const void*" := by
    rw [List.mem_singleton.mp hlast]
  refine ⟨hplain, hspaced, hnormal, hreplace'.trans hlast, (hresolve _).mp ?_⟩
  have hother : Declarator.ofTokens (tokens "const void*") = .other := rfl
  rw [resolve, hreplace, hlast, resolve_eq_ok_iff, ofTokens?_of_other hother]
  rfl

end Resolver

end AbiBridge
