import AbiBridge.Module.Render
import AbiBridge.Proofs.Text.Numeral
import Mathlib.Data.List.Basic

/-!
# The function that makes a variant from bytes

The text of a module has a function that decides on the number of a callback. In this text
the cases for a number are the lines that start with it. No line but those of the callbacks
is one, so a number has the case of the first callback that carries it.
-/

namespace AbiBridge

namespace Bindings

/-- The line with which that function begins. -/
def decodeSignature : String :=
  "    fn decode(id: i32, bytes: &[u8]) -> Option<Self> \x7b"

/-- The line with which the function after it begins, the one that tells the number of a
variant. -/
def numberSignature : String :=
  "    fn callback_id(&self) -> i32 \x7b"

def isCaseOf (id : Int) (line : String) : Bool :=
  ("            " ++ toString id ++ " => ").toList.isPrefixOf line.toList

/-- The case of the function that decides on the number, the first one for it. -/
def decodingCase? (bindings : Bindings) (id : Int) : Option String :=
  (bindings.callbackSection.dropWhile (· != decodeSignature)).find? (isCaseOf id)

/-- Where a case has its number, the line has a digit or a sign. -/
def opensNumeral (line : String) : Bool :=
  ((line.toList.drop 12).head?.map Text.isNumeralChar).getD false

theorem opensNumeral_of_isCaseOf {id : Int} {line : String} (h : isCaseOf id line = true) :
    opensNumeral line = true := by
  obtain ⟨rest, hrest⟩ := List.isPrefixOf_iff_prefix.mp h
  have hline : line.toList.drop 12 = (toString id).toList ++ (" => ".toList ++ rest) := by
    rw [← hrest]
    simp only [String.toList_append, List.append_assoc]
    rfl
  cases hid : (toString id).toList with
  | nil => exact absurd hid (Text.toList_toString_int_ne_nil id)
  | cons c cs =>
    have hc : Text.isNumeralChar c = true :=
      Text.isNumeralChar_of_mem_toString (n := id) (by rw [hid]; exact List.mem_cons_self)
    rw [opensNumeral, hline, hid, List.cons_append, List.head?_cons]
    exact hc

@[simp] theorem isCaseOf_decodeCase {id : Int} {callback : Callback} :
    isCaseOf id (decodeCase callback) = (callback.id == id) := by
  have hcase : (decodeCase callback).toList
      = "            ".toList ++ ((toString callback.id).toList ++ ' ' :: ("=> Some(Self::"
        ++ callback.variant ++ "(::vbind::decode_payload(bytes))),").toList) := by
    unfold decodeCase
    simp only [String.toList_append, List.append_assoc]
    rfl
  rw [Bool.eq_iff_iff, beq_iff_eq, isCaseOf, List.isPrefixOf_iff_prefix, hcase]
  constructor
  · intro h
    simp only [String.toList_append, List.append_assoc] at h
    have htail := (List.prefix_append_right_inj _).mp h
    have hnumber : (toString id).toList ++ [' '] <+: (toString id).toList ++ " => ".toList :=
      (List.prefix_append_right_inj _).mpr ⟨"=> ".toList, rfl⟩
    exact (Text.eq_of_toString_prefix (hnumber.trans htail)).symm
  · rintro rfl
    simp only [String.toList_append, List.append_assoc]
    refine (List.prefix_append_right_inj _).mpr ((List.prefix_append_right_inj _).mpr ?_)
    exact ⟨"Some(Self::".toList ++ (callback.variant.toList
      ++ "(::vbind::decode_payload(bytes))),".toList), rfl⟩

theorem find?_isCaseOf_eq_none {id : Int} {lines : List String}
    (h : lines.all (!opensNumeral ·) = true) : lines.find? (isCaseOf id) = none := by
  refine List.find?_eq_none.mpr fun line hline hcase => ?_
  have hopens := List.all_eq_true.mp h line hline
  rw [opensNumeral_of_isCaseOf hcase] at hopens
  cases hopens

@[simp] theorem find?_isCaseOf_decodeCase (id : Int) (callbacks : List Callback) :
    (callbacks.map decodeCase).find? (isCaseOf id)
      = (callbacks.find? (·.id == id)).map decodeCase := by
  rw [List.find?_map]
  congr 2
  exact funext fun callback => isCaseOf_decodeCase

/-- The other lines of the function are no cases. -/
@[simp] theorem find?_isCaseOf_decodeBody (id : Int) (callbacks : List Callback) :
    (decodeBody callbacks).find? (isCaseOf id)
      = (callbacks.find? (·.id == id)).map decodeCase := by
  rw [decodeBody]
  split
  · next hempty =>
    rw [List.isEmpty_iff.mp hempty]
    exact find?_isCaseOf_eq_none (by decide)
  · have hopening : ["        match id \x7b"].find? (isCaseOf id) = none :=
      find?_isCaseOf_eq_none (by decide)
    have hclosing : ["            _ => None,", "        \x7d"].find? (isCaseOf id) = none :=
      find?_isCaseOf_eq_none (by decide)
    rw [List.find?_append, List.find?_append, hopening, hclosing, find?_isCaseOf_decodeCase,
      Option.none_or, Option.or_none]

@[simp]
theorem opensNumeral_idCase (callback : Callback) : opensNumeral (idCase callback) = false := by
  have hline : (idCase callback).toList
      = "            Self::".toList
        ++ (callback.variant ++ "(_) => " ++ toString callback.id ++ ",").toList := by
    unfold idCase
    simp only [String.toList_append, List.append_assoc]
  have hopening : "            Self::".toList = "            ".toList ++ ('S' :: "elf::".toList) := by
    decide
  have hblanks : "            ".toList.length = 12 := by decide
  rw [opensNumeral, hline, hopening, List.append_assoc, List.drop_left' hblanks, List.cons_append,
    List.head?_cons, Option.map_some, Option.getD_some]
  decide

@[simp] theorem find?_isCaseOf_idBody (id : Int) (callbacks : List Callback) :
    (idBody callbacks).find? (isCaseOf id) = none := by
  apply find?_isCaseOf_eq_none
  rw [idBody]
  split
  · decide
  · have hcases : (callbacks.map idCase).all (!opensNumeral ·) = true := by
      simp
    have hopening : ["        match self \x7b"].all (!opensNumeral ·) = true := by decide
    have hclosing : ["        \x7d"].all (!opensNumeral ·) = true := by decide
    rw [List.all_append, List.all_append, hopening, hcases, hclosing]
    rfl

theorem append_ne_of_getLast? {text closing line : String} (hclosing : closing.toList ≠ [])
    (h : closing.toList.getLast? ≠ line.toList.getLast?) : text ++ closing ≠ line := by
  intro heq
  apply h
  rw [← heq, String.toList_append, List.getLast?_append_of_ne_nil _ hclosing]

theorem variantLine_ne_decodeSignature (callback : Callback) :
    variantLine callback ≠ decodeSignature :=
  append_ne_of_getLast? (by decide) (by decide)

/-- The text of the section: the union, the function that makes a variant, and the function that
tells its number. -/
theorem callbackSection_eq (bindings : Bindings) :
    bindings.callbackSection
      = ["", "// callbacks", "", "#[derive(Clone, Copy, Debug)]", "pub enum CallbackUnion \x7b"]
        ++ (bindings.callbacks.map variantLine
        ++ (["\x7d", "", "impl ::vbind::CallbackSet for CallbackUnion \x7b"]
        ++ ([decodeSignature] ++ (decodeBody bindings.callbacks
        ++ (["    \x7d", ""] ++ ([numberSignature] ++ (idBody bindings.callbacks
        ++ ["    \x7d", "\x7d"]))))))) := by
  simp [callbackSection, titled, braced, decodeSignature, numberSignature]

/-- A number has the case of the first callback that carries it. -/
theorem decodingCase?_eq (bindings : Bindings) (id : Int) :
    bindings.decodingCase? id
      = (bindings.callbacks.find? (·.id == id)).map decodeCase := by
  have hbefore : ∀ line ∈ bindings.callbacks.map variantLine, (line != decodeSignature) = true := by
    intro line hline
    obtain ⟨callback, -, rfl⟩ := List.mem_map.mp hline
    exact bne_iff_ne.mpr (variantLine_ne_decodeSignature callback)
  have hfirst : [decodeSignature].find? (isCaseOf id) = none :=
    find?_isCaseOf_eq_none (by decide)
  have hmiddle : ["    \x7d", ""].find? (isCaseOf id) = none :=
    find?_isCaseOf_eq_none (by decide)
  have hnumber : [numberSignature].find? (isCaseOf id) = none :=
    find?_isCaseOf_eq_none (by decide)
  have hlast : ["    \x7d", "\x7d"].find? (isCaseOf id) = none :=
    find?_isCaseOf_eq_none (by decide)
  have hdrop : ∀ lines, ([decodeSignature] ++ lines).dropWhile (· != decodeSignature)
      = [decodeSignature] ++ lines := fun lines => List.dropWhile_cons_of_neg (by simp)
  rw [decodingCase?, callbackSection_eq, List.dropWhile_append_of_pos (by decide),
    List.dropWhile_append_of_pos hbefore, List.dropWhile_append_of_pos (by decide), hdrop]
  simp only [List.find?_append, find?_isCaseOf_decodeBody, find?_isCaseOf_idBody, hfirst, hmiddle,
    hnumber, hlast, Option.none_or, Option.or_none]

end Bindings

end AbiBridge
