import AbiBridge.Proofs.Module.DecodingCases
import AbiBridge.Proofs.Text.Blank

/-!
# The function that tells the number of a variant

Besides the function that makes a variant from bytes, the text of a module has one that decides
on the variant and gives its number. Both are read from the text: the variant that is made for a
number, and the number that a variant is given. The first callback with a number decides on the
one, and the first callback with a variant on the other.
-/

namespace AbiBridge

namespace Bindings

def madeVariant? (line : String) : Option String := do
  let body ← " => Some(Self::".toList.isPrefixOf?
    ((line.toList.drop 12).dropWhile Text.isNumeralChar)
  let variant ← "(::vbind::decode_payload(bytes))),".toList.isSuffixOf? body
  some (String.ofList variant)

def variantOf? (bindings : Bindings) (id : Int) : Option String :=
  (bindings.decodingCase? id).bind madeVariant?

@[simp] theorem madeVariant?_decodeCase (callback : Callback) :
    madeVariant? (decodeCase callback) = some callback.variant := by
  have hline : (decodeCase callback).toList
      = "            ".toList ++ ((toString callback.id).toList ++ ' ' :: ("=> Some(Self::".toList
        ++ (callback.variant.toList ++ "(::vbind::decode_payload(bytes))),".toList))) := by
    unfold decodeCase
    simp only [String.toList_append, List.append_assoc]
    rfl
  have hblanks : "            ".toList.length = 12 := by decide
  have hblank : Text.isNumeralChar ' ' = false := rfl
  have hhead : " => Some(Self::".toList.isPrefixOf? (' ' :: ("=> Some(Self::".toList
      ++ (callback.variant.toList ++ "(::vbind::decode_payload(bytes))),".toList)))
        = some (callback.variant.toList ++ "(::vbind::decode_payload(bytes))),".toList) :=
    List.isPrefixOf?_eq_some_iff_append_eq.mpr rfl
  have hend : "(::vbind::decode_payload(bytes))),".toList.isSuffixOf?
      (callback.variant.toList ++ "(::vbind::decode_payload(bytes))),".toList)
        = some callback.variant.toList :=
    List.isSuffixOf?_eq_some_iff_append_eq.mpr rfl
  rw [madeVariant?, hline, List.drop_left' hblanks,
    List.dropWhile_append_of_pos fun _ => Text.isNumeralChar_of_mem_toString,
    List.dropWhile_cons_of_neg (by simp [hblank])]
  simp only [hhead, hend, Option.bind_eq_bind, Option.bind_some, String.ofList_toList]

theorem variantOf?_eq (bindings : Bindings) (id : Int) :
    bindings.variantOf? id = (bindings.callbacks.find? (·.id == id)).map (·.variant) := by
  rw [variantOf?, decodingCase?_eq, Option.bind_map, Option.map_eq_bind]
  congr 1
  exact funext madeVariant?_decodeCase

/-- The variant of a case of that function and the number that the case gives. -/
def numberCase? (line : String) : Option (String × Int) := do
  let body ← "            Self::".toList.isPrefixOf? line.toList
  let arm ← ",".toList.isSuffixOf? body
  let variant ← "(_) => ".toList.isSuffixOf? (arm.rdropWhile Text.isNumeralChar)
  let number ← Text.signedNumeral? (arm.rtakeWhile Text.isNumeralChar)
  some (String.ofList variant, number)

/-- The number that a variant is given: the first case for it counts. -/
def numberOf? (bindings : Bindings) (variant : String) : Option Int :=
  let cases := (bindings.callbackSection.dropWhile (· != numberSignature)).filterMap numberCase?
  (cases.find? (·.1 == variant)).map (·.2)

@[simp] theorem numberCase?_idCase (callback : Callback) :
    numberCase? (idCase callback) = some (callback.variant, callback.id) := by
  have hhead : "            Self::".toList.isPrefixOf? (idCase callback).toList
      = some ((callback.variant.toList ++ "(_) => ".toList ++ (toString callback.id).toList)
        ++ ",".toList) := by
    apply List.isPrefixOf?_eq_some_iff_append_eq.mpr
    unfold idCase
    simp only [String.toList_append, List.append_assoc]
  have hcomma : ",".toList.isSuffixOf?
      ((callback.variant.toList ++ "(_) => ".toList ++ (toString callback.id).toList)
        ++ ",".toList)
        = some (callback.variant.toList ++ "(_) => ".toList ++ (toString callback.id).toList) :=
    List.isSuffixOf?_eq_some_iff_append_eq.mpr rfl
  have hlast : ∀ c ∈ (callback.variant.toList ++ "(_) => ".toList).getLast?,
      Text.isNumeralChar c = false := by
    intro c hc
    rw [List.getLast?_append_of_ne_nil _ (by decide)] at hc
    obtain rfl : ' ' = c := by simpa using hc
    rfl
  have hdrop : (callback.variant.toList ++ "(_) => ".toList
      ++ (toString callback.id).toList).rdropWhile Text.isNumeralChar
        = callback.variant.toList ++ "(_) => ".toList :=
    Text.rdropWhile_append_eq (fun _ => Text.isNumeralChar_of_mem_toString) hlast
  have htake : (callback.variant.toList ++ "(_) => ".toList
      ++ (toString callback.id).toList).rtakeWhile Text.isNumeralChar
        = (toString callback.id).toList := by
    have hsplit := List.rdropWhile_append_rtakeWhile (p := Text.isNumeralChar)
      (l := callback.variant.toList ++ "(_) => ".toList ++ (toString callback.id).toList)
    rw [hdrop] at hsplit
    exact List.append_cancel_left hsplit
  have harrow : "(_) => ".toList.isSuffixOf? (callback.variant.toList ++ "(_) => ".toList)
      = some callback.variant.toList :=
    List.isSuffixOf?_eq_some_iff_append_eq.mpr rfl
  simp only [numberCase?, hhead, hcomma, hdrop, htake, harrow, Text.signedNumeral?_toString,
    Option.bind_eq_bind, Option.bind_some, String.ofList_toList]

theorem decodeCase_ne_numberSignature (callback : Callback) :
    decodeCase callback ≠ numberSignature :=
  append_ne_of_getLast? (by decide) (by decide)

theorem ne_numberSignature_of_mem_decodeBody {callbacks : List Callback} {line : String}
    (h : line ∈ decodeBody callbacks) : line ≠ numberSignature := by
  rw [decodeBody] at h
  split at h
  · revert line
    decide
  · rw [List.mem_append, List.mem_append] at h
    rcases h with (h | h) | h
    · revert line
      decide
    · obtain ⟨callback, -, rfl⟩ := List.mem_map.mp h
      exact decodeCase_ne_numberSignature callback
    · revert line
      decide

@[simp] theorem filterMap_numberCase?_idBody (callbacks : List Callback) :
    (idBody callbacks).filterMap numberCase?
      = callbacks.map fun callback => (callback.variant, callback.id) := by
  rw [idBody]
  split
  · next hempty =>
    rw [List.isEmpty_iff.mp hempty]
    decide
  · have hopening : ["        match self \x7b"].filterMap numberCase? = [] := by decide
    have hclosing : ["        \x7d"].filterMap numberCase? = [] := by decide
    rw [List.filterMap_append, List.filterMap_append, hopening, hclosing, List.filterMap_map,
      List.append_nil, List.nil_append, ← List.filterMap_eq_map]
    congr 1
    exact funext numberCase?_idCase

theorem numberOf?_eq (bindings : Bindings) (variant : String) :
    bindings.numberOf? variant
      = (bindings.callbacks.find? (·.variant == variant)).map (·.id) := by
  have hvariants : ∀ line ∈ bindings.callbacks.map variantLine, (line != numberSignature) = true := by
    intro line hline
    obtain ⟨callback, -, rfl⟩ := List.mem_map.mp hline
    exact bne_iff_ne.mpr (append_ne_of_getLast? (by decide) (by decide))
  have hdecode : ∀ line ∈ decodeBody bindings.callbacks, (line != numberSignature) = true :=
    fun line hline => bne_iff_ne.mpr (ne_numberSignature_of_mem_decodeBody hline)
  have hlast : ["    \x7d", "\x7d"].filterMap numberCase? = [] := by decide
  have hdrop : ∀ lines, (([numberSignature] ++ lines).dropWhile (· != numberSignature)).filterMap
      numberCase? = lines.filterMap numberCase? := by
    intro lines
    have hsignature : numberCase? numberSignature = none := by decide
    rw [List.singleton_append, List.dropWhile_cons_of_neg (by simp),
      List.filterMap_cons_none hsignature]
  rw [numberOf?, callbackSection_eq, List.dropWhile_append_of_pos (by decide),
    List.dropWhile_append_of_pos hvariants, List.dropWhile_append_of_pos (by decide),
    List.dropWhile_append_of_pos (by decide), List.dropWhile_append_of_pos hdecode,
    List.dropWhile_append_of_pos (by decide), hdrop, List.filterMap_append,
    filterMap_numberCase?_idBody, hlast, List.append_nil, List.find?_map, Option.map_map]
  rfl

end Bindings

end AbiBridge
