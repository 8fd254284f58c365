import AbiBridge.Descriptor.Write
import AbiBridge.Proofs.Json.Word
import AbiBridge.Proofs.Result
import Mathlib.Data.List.Perm.Basic

/-!
# Reading back what was written

A codec reads values of a type from documents and writes them as documents. What it reads it
can write and read again, in whatever order the members of objects then stand. Codecs for lists,
for values that may be absent and for dictionaries are made from one for their parts.
-/

namespace AbiBridge.Json

/-- The members of objects are put in some order, at every depth. -/
structure IsArrangement (arrange : Json → Json) : Prop where
  null : arrange .null = .null
  integer : ∀ n, arrange (.integer n) = .integer n
  string : ∀ s, arrange (.string s) = .string s
  array : ∀ items, arrange (.array items) = .array (items.map arrange)
  object : ∀ members : List (String × Json), (members.map (·.1)).Nodup →
    ∃ arranged, arrange (.object members) = .object arranged
      ∧ arranged.Perm (members.map fun (name, value) => (name, arrange value))

theorem isArrangement_id : IsArrangement id where
  null := rfl
  integer _ := rfl
  string _ := rfl
  array items := by rw [List.map_id, id]
  object members _ := ⟨members, rfl, by simp⟩

theorem isArrangement_canonical : IsArrangement canonical where
  null := rfl
  integer _ := rfl
  string _ := rfl
  array items := by rw [canonical, canonicalItems_eq_map]
  object members hnames := by
    refine ⟨_, rfl, ?_⟩
    rw [canonicalMembers_eq_map]
    refine Dictionary.ofList_perm ?_
    rwa [List.map_map]

/-- The value is read from the document that it is written as, in any order of the members and
however the document is given. -/
def ReadsBack {α : Type} (read : Reader α) (write : α → Json) (value : α) : Prop :=
  ∀ arrange, IsArrangement arrange → ∀ form, read form (arrange (write value)) = .ok value

structure Codec (α : Type) where
  read : Reader α
  write : α → Json
  /-- The value of an absent field. -/
  blank : α
  readsBack_blank : ReadsBack read write blank
  readsBack : ∀ {form json value}, json.holdsWords = true → read form json = .ok value →
    ReadsBack read write value

def Codec.Keeps {α : Type} (codec : Codec α) (value : α) : Prop :=
  ReadsBack codec.read codec.write value

/-- The value is read: from a text, from a document in some form, or from a document that was
read before. The integers of a document are words. -/
inductive Accepted {α : Type} (read : Reader α) (value : α) : Prop
  | text (text : String) (h : decodeText read text = .ok value)
  | document (form : Form) (json : Json) (hwords : json.holdsWords = true)
    (h : read form json = .ok value)
  | value (json : Json) (hwords : json.holdsWords = true) (h : decodeValue read json = .ok value)

/-- The value is read from its document, and is written as the same document again. -/
structure Reencoded {α : Type} (read : Reader α) (write : α → Json) (value : α) : Prop where
  read_eq : ∀ form, read form (write value) = .ok value
  decode_eq : decodeValue read (write value) = .ok value
  write_again : (decodeValue read (write value)).map write = .ok (write value)

theorem ReadsBack.reencoded {α : Type} {read : Reader α} {write : α → Json} {value : α}
    (h : ReadsBack read write value) : Reencoded read write value := by
  have hdecode : decodeValue read (write value) = .ok value :=
    h canonical isArrangement_canonical .value
  exact ⟨h id isArrangement_id, hdecode, by rw [hdecode]; rfl⟩

theorem Codec.reencoded {α : Type} (codec : Codec α) {value : α} (h : Accepted codec.read value) :
    Reencoded codec.read codec.write value := by
  cases h with
  | text text h =>
    obtain ⟨made, hread, h⟩ := bind_eq_ok_iff.mp h
    split at h
    · cases h
      exact (codec.readsBack (holdsWords_ofText text) hread).reencoded
    · cases h
  | document form json hwords h => exact (codec.readsBack hwords h).reencoded
  | value json hwords h =>
    exact (codec.readsBack (holdsWords_canonical json hwords) h).reencoded

theorem readsBack_string (s : String) : ReadsBack readString .string s := by
  intro arrange harrange form
  rw [harrange.string]
  rfl

def Codec.string : Codec String where
  read := readString
  write := .string
  blank := ""
  readsBack_blank := readsBack_string ""
  readsBack {_ _ value} _ _ := readsBack_string value

@[simp] theorem readInteger_eq_ok_iff {inRange : Int → Bool} {form : Form} {json : Json} {n : Int} :
    readInteger inRange form json = .ok n ↔ json = .integer n ∧ inRange n = true := by
  cases json with
  | integer m =>
    rw [readInteger, integer.injEq]
    constructor
    · intro h
      split at h
      · next hm =>
        cases h
        exact ⟨rfl, hm⟩
      · cases h
    · rintro ⟨rfl, hm⟩
      rw [if_pos hm]
  | _ => simp [readInteger, mismatch]

theorem readsBack_int32 {n : Int} (h : Word.isSigned 32 n = true) :
    ReadsBack readInt32 .integer n := by
  intro arrange harrange form
  rw [harrange.integer, readInt32, readInteger_eq_ok_iff]
  exact ⟨rfl, h⟩

def Codec.int32 : Codec Int where
  read := readInt32
  write := .integer
  blank := 0
  readsBack_blank := readsBack_int32 (by decide)
  readsBack _ h := readsBack_int32 (readInteger_eq_ok_iff.mp h).2

theorem readsBack_size {n : Nat} (h : Word.isUnsigned 64 n = true) :
    ReadsBack readSize ofNat n := by
  intro arrange harrange form
  rw [ofNat, harrange.integer, readSize, map_eq_ok_iff]
  exact ⟨n, readInteger_eq_ok_iff.mpr ⟨rfl, h⟩, Int.toNat_natCast n⟩

def Codec.size : Codec Nat where
  read := readSize
  write := ofNat
  blank := 0
  readsBack_blank := readsBack_size (by decide)
  readsBack {form json value} _ h := by
    obtain ⟨n, hn, rfl⟩ := map_eq_ok_iff.mp h
    obtain ⟨-, hrange⟩ := readInteger_eq_ok_iff.mp hn
    have hcast : (n.toNat : Int) = n := Int.toNat_of_nonneg (Word.isUnsigned_iff.mp hrange).1
    exact readsBack_size (by rwa [hcast])

section Parts

variable {α : Type} (codec : Codec α)

theorem readsBack_list {values : List α} (h : ∀ value ∈ values, codec.Keeps value) :
    ReadsBack (readList codec.read) (ofList codec.write) values := by
  intro arrange harrange form
  rw [ofList, harrange.array, readList, mapM_eq_ok_iff, List.map_map, List.forall₂_map_left_iff,
    List.forall₂_same]
  exact fun value hvalue => h value hvalue arrange harrange form

def Codec.list : Codec (List α) where
  read := readList codec.read
  write := ofList codec.write
  blank := []
  readsBack_blank := readsBack_list codec fun _ hmem => absurd hmem List.not_mem_nil
  readsBack {form json values} hwords h := by
    refine readsBack_list codec fun value hvalue => ?_
    cases json with
    | array items =>
      obtain ⟨item, hitem, hread⟩ := exists_of_mem_mapM h value hvalue
      exact codec.readsBack (allHoldWords_iff.mp hwords item hitem) hread
    | _ => cases h

def ofOption (write : α → Json) : Option α → Json
  | none => .null
  | some value => write value

theorem readOption_of_ne_null {reader : Reader α} {form : Form} {json : Json} (h : json ≠ .null) :
    readOption reader form json = (reader form json).map some := by
  cases json with
  | null => exact absurd rfl h
  | _ => rfl

theorem readsBack_none : ReadsBack (readOption codec.read) (ofOption codec.write) none := by
  intro arrange harrange form
  rw [ofOption, harrange.null]
  rfl

/-- Values that may be absent. `null` stands for none of the values. -/
def Codec.option (hnull : ∀ form value, codec.read form .null ≠ .ok value) : Codec (Option α) where
  read := readOption codec.read
  write := ofOption codec.write
  blank := none
  readsBack_blank := readsBack_none codec
  readsBack {form json value?} hwords h := by
    by_cases hjson : json = .null
    · rw [hjson] at h
      cases h
      exact readsBack_none codec
    · rw [readOption_of_ne_null hjson] at h
      obtain ⟨value, hread, rfl⟩ := map_eq_ok_iff.mp h
      intro arrange harrange form'
      have hback := codec.readsBack hwords hread arrange harrange form'
      have hdocument : arrange (codec.write value) ≠ .null := by
        intro heq
        rw [heq] at hback
        exact hnull form' value hback
      rw [ofOption, readOption_of_ne_null hdocument, hback]
      rfl

variable {codec}

theorem readBindings_eq_of_forall₂ {form : Form} {members : List (String × Json)}
    {bindings : List (String × α)} (h : List.Forall₂ (fun member binding => member.1 = binding.1
      ∧ codec.read form member.2 = .ok binding.2) members bindings) (found : Dictionary α) :
    readBindings codec.read form found members = .ok (bindings.foldl
      (fun dictionary (name, value) => dictionary.insert name value) found) := by
  induction h generalizing found with
  | nil => rfl
  | @cons member binding members bindings hread _ ih =>
    obtain ⟨name, json⟩ := member
    obtain ⟨name', value⟩ := binding
    obtain ⟨rfl, hread⟩ : name = name' ∧ codec.read form json = .ok value := hread
    rw [readBindings, bind_eq_ok_iff]
    exact ⟨value, hread, ih (found.insert name value)⟩

theorem keeps_of_readBindings {form : Form} {members : List (String × Json)}
    (hwords : membersHoldWords members = true) {found dictionary : Dictionary α}
    (h : readBindings codec.read form found members = .ok dictionary)
    (hfound : ∀ entry ∈ found.entries, codec.Keeps entry.2) :
    ∀ entry ∈ dictionary.entries, codec.Keeps entry.2 := by
  induction members generalizing found with
  | nil =>
    cases h
    exact hfound
  | cons member members ih =>
    obtain ⟨name, json⟩ := member
    rw [membersHoldWords, Bool.and_eq_true] at hwords
    obtain ⟨value, hvalue, h⟩ := bind_eq_ok_iff.mp h
    refine ih hwords.2 h fun entry hentry => ?_
    rcases Dictionary.mem_insertEntry hentry with rfl | hentry
    · exact codec.readsBack hwords.1 hvalue
    · exact hfound entry hentry

theorem readsBack_dictionary {dictionary : Dictionary α}
    (h : ∀ entry ∈ dictionary.entries, codec.Keeps entry.2) :
    ReadsBack (readDictionary codec.read) (ofDictionary codec.write) dictionary := by
  intro arrange harrange form
  have hnames : ((dictionary.entries.map fun (name, value) => (name, codec.write value)).map
      (·.1)).Nodup := by
    rw [List.map_map]
    exact dictionary.nodup_names
  obtain ⟨arranged, hdocument, hperm⟩ := harrange.object _ hnames
  rw [List.map_map] at hperm
  have hread : List.Forall₂ (fun member binding => member.1 = binding.1
      ∧ codec.read form member.2 = .ok binding.2)
      (dictionary.entries.map fun entry => (entry.1, arrange (codec.write entry.2)))
      dictionary.entries := by
    rw [List.forall₂_map_left_iff, List.forall₂_same]
    exact fun entry hentry => ⟨rfl, h entry hentry arrange harrange form⟩
  obtain ⟨bindings, hmembers, hbindings⟩ := List.perm_comp_forall₂ hperm hread
  rw [ofDictionary, hdocument, readDictionary, readBindings_eq_of_forall₂ hmembers]
  exact congrArg Except.ok (Dictionary.ofList_eq_of_perm hbindings)

variable (codec)

def Codec.dictionary : Codec (Dictionary α) where
  read := readDictionary codec.read
  write := ofDictionary codec.write
  blank := .empty
  readsBack_blank := readsBack_dictionary fun _ hmem => absurd hmem List.not_mem_nil
  readsBack {form json dictionary} hwords h := by
    refine readsBack_dictionary fun entry hentry => ?_
    cases json with
    | object members =>
      exact keeps_of_readBindings hwords h (fun _ hmem => absurd hmem List.not_mem_nil) entry hentry
    | _ => cases h

end Parts

end AbiBridge.Json
