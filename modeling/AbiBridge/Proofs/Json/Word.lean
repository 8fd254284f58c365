import AbiBridge.Json.Decode
import AbiBridge.Proofs.Dictionary

/-!
# Integers of documents

The integers of a document are words of 64 bits. Those of a text are, however the text reads,
and the canonical form of a document adds none.
-/

namespace AbiBridge.Json

mutual

/-- Every integer of the value is a word of 64 bits, signed or unsigned. -/
def holdsWords : Json → Bool
  | .integer n => Word.isSigned 64 n || Word.isUnsigned 64 n
  | .array items => allHoldWords items
  | .object members => membersHoldWords members
  | _ => true

def allHoldWords : List Json → Bool
  | [] => true
  | item :: items => item.holdsWords && allHoldWords items

def membersHoldWords : List (String × Json) → Bool
  | [] => true
  | (_, value) :: members => value.holdsWords && membersHoldWords members

end

@[simp] theorem allHoldWords_iff {items : List Json} :
    allHoldWords items = true ↔ ∀ item ∈ items, item.holdsWords = true := by
  induction items with
  | nil => simp [allHoldWords]
  | cons item items ih => rw [allHoldWords, Bool.and_eq_true, ih, List.forall_mem_cons]

@[simp] theorem membersHoldWords_iff {members : List (String × Json)} :
    membersHoldWords members = true ↔ ∀ member ∈ members, member.2.holdsWords = true := by
  induction members with
  | nil => simp [membersHoldWords]
  | cons member members ih =>
    rw [membersHoldWords, Bool.and_eq_true, ih, List.forall_mem_cons]

theorem canonicalItems_eq_map (items : List Json) : canonicalItems items = items.map canonical := by
  induction items with
  | nil => rfl
  | cons item items ih => rw [canonicalItems, ih, List.map_cons]

theorem canonicalMembers_eq_map (members : List (String × Json)) :
    canonicalMembers members = members.map fun (name, value) => (name, value.canonical) := by
  induction members with
  | nil => rfl
  | cons member members ih => rw [canonicalMembers, ih, List.map_cons]

mutual

theorem holdsWords_canonical :
    ∀ json : Json, json.holdsWords = true → json.canonical.holdsWords = true
  | .array items, h => allHoldWords_canonical items h
  | .object members, h => by
    refine membersHoldWords_iff.mpr fun member hmember => ?_
    exact membersHoldWords_canonical members h member (Dictionary.mem_of_mem_ofList hmember)
  | .integer _, h => h
  | .null, _ | .bool _, _ | .real, _ | .string _, _ | .unreadable, _ | .fault, _ => rfl

theorem allHoldWords_canonical :
    ∀ items : List Json, allHoldWords items = true → allHoldWords (canonicalItems items) = true
  | [], _ => rfl
  | item :: items, h => by
    rw [allHoldWords, Bool.and_eq_true] at h
    rw [canonicalItems, allHoldWords, holdsWords_canonical item h.1,
      allHoldWords_canonical items h.2]
    rfl

theorem membersHoldWords_canonical : ∀ members : List (String × Json),
    membersHoldWords members = true →
    ∀ member ∈ canonicalMembers members, member.2.holdsWords = true
  | [], _ => nofun
  | (name, value) :: members, h => by
    rw [membersHoldWords, Bool.and_eq_true] at h
    rw [canonicalMembers, List.forall_mem_cons]
    exact ⟨holdsWords_canonical value h.1, membersHoldWords_canonical members h.2⟩

end

theorem holdsWords_ofNumber (negative : Bool) (digits : List Char) (fraction : Option (List Char))
    (exponent : Option Int) : (ofNumber negative digits fraction exponent).holdsWords = true := by
  rw [ofNumber]
  generalize (Text.numeral? 10 (digits ++ fraction.getD [])).getD 0 = mantissa
  split
  · next h =>
    have hlt : mantissa < Word.count 64 := by simp_all
    rw [holdsWords, Bool.or_eq_true, Word.isUnsigned_iff]
    exact .inr ⟨Int.natCast_nonneg _, Int.ofNat_lt.mpr hlt⟩
  · split
    · next h =>
      have hbounds : 0 < mantissa ∧ mantissa ≤ Word.count 63 := by simp_all
      rw [holdsWords, Bool.or_eq_true, Word.isSigned_iff]
      have hcount : Word.count (64 - 1) = Word.count 63 := rfl
      exact .inl (by omega)
    · split <;> rfl

theorem holdsWords_scanNumber {cs rest : List Char} {number : Json}
    (h : scanNumber cs = some (number, rest)) : number.holdsWords = true := by
  have hnumber : ∃ negative digits fraction exponent,
      number = ofNumber negative digits fraction exponent := by
    rw [scanNumber.eq_def] at h
    simp only at h
    -- with a sign and without one
    split at h
    all_goals
      split at h
      · cases h
      · obtain ⟨⟨fraction, afterFraction⟩, -, h⟩ := Option.bind_eq_some_iff.mp h
        obtain ⟨⟨exponent, afterExponent⟩, -, h⟩ := Option.bind_eq_some_iff.mp h
        cases h
        exact ⟨_, _, _, _, rfl⟩
  obtain ⟨negative, digits, fraction, exponent, rfl⟩ := hnumber
  exact holdsWords_ofNumber negative digits fraction exponent

@[simp] theorem holdsWords_scanScalar (cs : List Char) : (scanScalar cs).1.holdsWords = true := by
  rw [scanScalar.eq_def]
  split
  · rfl
  · rfl
  · rfl
  · split <;> rfl
  · split
    · next h => exact holdsWords_scanNumber h
    · rfl

theorem holdsWords_scan (fuel : Nat) :
    (∀ cs, (scanValue fuel cs).1.holdsWords = true)
      ∧ (∀ cs, allHoldWords (scanItems fuel cs).1 = true)
      ∧ ∀ cs, membersHoldWords (scanMembers fuel cs).1 = true := by
  induction fuel with
  | zero => exact ⟨fun _ => rfl, fun _ => rfl, fun _ => rfl⟩
  | succ fuel ih =>
    obtain ⟨hvalue, hitems, hmembers⟩ := ih
    refine ⟨fun cs => ?_, fun cs => ?_, fun cs => ?_⟩
    · rw [scanValue]
      split
      · split
        · rfl
        · exact hitems _
      · split
        · rfl
        · exact hmembers _
      · exact holdsWords_scanScalar _
    · have hitem := hvalue cs
      rw [scanItems]
      split
      · next hscan => simpa [allHoldWords, hscan] using hitem
      · next item rest hscan =>
        rw [hscan] at hitem
        split
        · simpa [allHoldWords, hitem] using hitems _
        · simpa [allHoldWords] using hitem
        · simpa [allHoldWords, holdsWords] using hitem
    · rw [scanMembers]
      split
      · split
        · split
          · next after _ =>
            have hmember := hvalue after
            split
            · next hscan => simpa [membersHoldWords, hscan] using hmember
            · next value rest hscan =>
              rw [hscan] at hmember
              split
              · simpa [membersHoldWords, hmember] using hmembers _
              · simpa [membersHoldWords] using hmember
              · simpa [membersHoldWords, holdsWords] using hmember
          · rfl
        · rfl
      · rfl

/-- However a text reads, its integers are words. -/
theorem holdsWords_ofText (text : String) : (Reading.ofText text).document.holdsWords = true := by
  have hscan := (holdsWords_scan (2 * text.toList.length + 2)).1 text.toList
  rw [Reading.ofText]
  split
  · next h => rwa [h] at hscan
  · next h => rwa [h] at hscan

end AbiBridge.Json
