import AbiBridge.Proofs.Json.Codec
import Mathlib.Data.List.Nodup

/-!
# Records that are read back

A record is made of slots, each with a codec for what it holds. A record that was read, from an
object or from an array, holds values that its slots read back, and a record with such values is
read back itself: every member is put into its own slot, and a slot without a member keeps the
value that a member is left out for.
-/

namespace AbiBridge.Json

structure Slot (α : Type) where
  Value : Type
  name : String
  codec : Codec Value
  /-- The record cannot do without the field. -/
  mandatory : Bool
  /-- The field is written. -/
  isWritten : Value → Bool
  eq_blank : ∀ value, isWritten value = false → mandatory = false ∧ value = codec.blank
  get : α → Value
  set : α → Value → α
  get_set : ∀ record value, get (set record value) = value

namespace Slot

variable {α : Type}

def field (slot : Slot α) : Field α :=
  ⟨slot.name, slot.mandatory, fun form record json =>
    (slot.codec.read form json).map (slot.set record)⟩

def member? (slot : Slot α) (record : α) : Option (String × Json) :=
  if slot.isWritten (slot.get record) then
    some (slot.name, slot.codec.write (slot.get record))
  else none

def Keeps (slot : Slot α) (record : α) : Prop :=
  slot.codec.Keeps (slot.get record)

variable {β : Type} (name : String)

@[simp]
def required (codec : Codec β) (get : α → β) (set : α → β → α)
    (get_set : ∀ record value, get (set record value) = value) : Slot α where
  Value := β
  name := name
  codec := codec
  mandatory := true
  isWritten _ := true
  eq_blank _ := nofun
  get := get
  set := set
  get_set := get_set

@[simp]
def list (codec : Codec β) (get : α → List β) (set : α → List β → α)
    (get_set : ∀ record value, get (set record value) = value) : Slot α where
  Value := List β
  name := name
  codec := .list codec
  mandatory := false
  isWritten _ := true
  eq_blank _ := nofun
  get := get
  set := set
  get_set := get_set

@[simp]
def option (codec : Codec β) (hnull : ∀ form value, codec.read form .null ≠ .ok value)
    (get : α → Option β) (set : α → Option β → α)
    (get_set : ∀ record value, get (set record value) = value) : Slot α where
  Value := Option β
  name := name
  codec := .option codec hnull
  mandatory := false
  isWritten := Option.isSome
  eq_blank
    | none, _ => ⟨rfl, rfl⟩
  get := get
  set := set
  get_set := get_set

end Slot

/-- The fields of a record, in the order of their declaration. -/
structure Shape (α : Type) where
  blank : α
  slots : List (Slot α)
  nodup_names : (slots.map (·.name)).Nodup := by decide
  get_blank : ∀ slot ∈ slots, slot.get blank = slot.codec.blank := by
    repeat' first | exact List.forall_mem_nil _ | refine List.forall_mem_cons.mpr ⟨rfl, ?_⟩
  get_set_of_ne : ∀ slot ∈ slots, ∀ other ∈ slots, slot.name ≠ other.name →
    ∀ record value, slot.get (other.set record value) = slot.get record := by
    simp
  ext : ∀ a b, (∀ slot ∈ slots, slot.get a = slot.get b) → a = b := by
    rintro ⟨⟩ ⟨⟩
    simp +contextual

namespace Shape

variable {α : Type} (shape : Shape α)

def fields : List (Field α) :=
  shape.slots.map (·.field)

def members (record : α) : List (String × Json) :=
  shape.slots.filterMap (·.member? record)

def Keeps (record : α) : Prop :=
  ∀ slot ∈ shape.slots, slot.Keeps record

variable {shape}

theorem slot_ext {slot other : Slot α} (hslot : slot ∈ shape.slots) (hother : other ∈ shape.slots)
    (h : slot.name = other.name) : slot = other :=
  List.inj_on_of_nodup_map shape.nodup_names hslot hother h

theorem keeps_blank : shape.Keeps shape.blank := by
  intro slot hslot
  rw [Slot.Keeps, shape.get_blank slot hslot]
  exact slot.codec.readsBack_blank

theorem keeps_set {slot : Slot α} (hslot : slot ∈ shape.slots) {record : α}
    (h : shape.Keeps record) {value : slot.Value} (hvalue : slot.codec.Keeps value) :
    shape.Keeps (slot.set record value) := by
  intro other hother
  by_cases hname : other.name = slot.name
  · obtain rfl := slot_ext hother hslot hname
    rwa [Slot.Keeps, other.get_set]
  · rw [Slot.Keeps, shape.get_set_of_ne other hother slot hslot hname]
    exact h other hother

theorem keeps_of_read {field : Field α} (hfield : field ∈ shape.fields) {form : Form} {json : Json}
    (hwords : json.holdsWords = true) {record made : α} (h : shape.Keeps record)
    (hread : field.read form record json = .ok made) : shape.Keeps made := by
  obtain ⟨slot, hslot, rfl⟩ := List.mem_map.mp hfield
  obtain ⟨value, hvalue, rfl⟩ := map_eq_ok_iff.mp hread
  exact keeps_set hslot h (slot.codec.readsBack hwords hvalue)

theorem keeps_of_readMembers {form : Form} {members : List (String × Json)}
    (hwords : membersHoldWords members = true) {record made : α} {seen seen' : List String}
    (h : shape.Keeps record)
    (hread : readMembers shape.fields form record seen members = .ok (made, seen')) :
    shape.Keeps made := by
  induction members generalizing record seen with
  | nil =>
    cases hread
    exact h
  | cons member members ih =>
    obtain ⟨name, json⟩ := member
    rw [membersHoldWords, Bool.and_eq_true] at hwords
    rw [readMembers] at hread
    split at hread
    · split at hread
      · exact ih hwords.2 h hread
      · cases hread
    · next field hfield =>
      split at hread
      · cases hread
      · obtain ⟨next, hnext, hread⟩ := bind_eq_ok_iff.mp hread
        have hmem := List.mem_of_find?_eq_some hfield
        exact ih hwords.2 (keeps_of_read hmem hwords.1 h hnext) hread

theorem keeps_of_readPositions {form : Form} {fields : List (Field α)}
    (hfields : ∀ field ∈ fields, field ∈ shape.fields) {items : List Json}
    (hwords : allHoldWords items = true) {record made : α} {index : Nat} (h : shape.Keeps record)
    (hread : readPositions form record index fields items = .ok made) : shape.Keeps made := by
  induction fields generalizing items record index with
  | nil =>
    cases items with
    | nil =>
      cases hread
      exact h
    | cons item items =>
      cases form with
      | table =>
        cases hread
        exact h
      | _ => cases hread
  | cons field fields ih =>
    rw [List.forall_mem_cons] at hfields
    cases items with
    | nil =>
      rw [readPositions] at hread
      split at hread
      · cases hread
      · exact ih hfields.2 rfl h hread
    | cons item items =>
      rw [allHoldWords, Bool.and_eq_true] at hwords
      obtain ⟨next, hnext, hread⟩ := bind_eq_ok_iff.mp hread
      exact ih hfields.2 hwords.2 (keeps_of_read hfields.1 hwords.1 h hnext) hread

theorem keeps_of_readRecord {form : Form} {json : Json} (hwords : json.holdsWords = true)
    {made : α} (h : readRecord shape.blank shape.fields form json = .ok made) :
    shape.Keeps made := by
  cases json with
  | object members =>
    obtain ⟨⟨record, seen⟩, hread, h⟩ := bind_eq_ok_iff.mp h
    have hkeeps := keeps_of_readMembers hwords keeps_blank hread
    simp only at h
    split at h
    · cases h
    · cases h
      exact hkeeps
  | array items => exact keeps_of_readPositions (fun _ hmem => hmem) hwords keeps_blank h
  | _ => cases h

@[simp] theorem mem_members_iff {record : α} {member : String × Json} :
    member ∈ shape.members record ↔ ∃ slot ∈ shape.slots,
      slot.isWritten (slot.get record) = true
        ∧ member = (slot.name, slot.codec.write (slot.get record)) := by
  rw [members, List.mem_filterMap]
  refine exists_congr fun slot => and_congr_right fun _ => ?_
  rw [Slot.member?]
  split
  · next h => simp [h, eq_comm]
  · next h => simp [h]

theorem nodup_members (record : α) : ((shape.members record).map (·.1)).Nodup := by
  refine shape.nodup_names.sublist ?_
  rw [members]
  induction shape.slots with
  | nil => exact .slnil
  | cons slot slots ih =>
    rw [List.filterMap_cons, Slot.member?]
    split
    · next h =>
      split at h
      · cases h
      · exact ih.cons _
    · next h =>
      split at h
      · cases h
        exact ih.cons_cons _
      · cases h

theorem find?_fields {slot : Slot α} (hslot : slot ∈ shape.slots) :
    shape.fields.find? (·.name == slot.name) = some slot.field := by
  cases hfind : shape.fields.find? (·.name == slot.name) with
  | none =>
    have hname := List.find?_eq_none.mp hfind slot.field (List.mem_map_of_mem hslot)
    exact absurd (beq_self_eq_true slot.name) hname
  | some field =>
    obtain ⟨other, hother, rfl⟩ := List.mem_map.mp (List.mem_of_find?_eq_some hfind)
    have hname : other.name = slot.name := beq_iff_eq.mp (List.find?_some hfind :)
    rw [slot_ext hother hslot hname]

/-- Members for slots of a record are read into these slots, in any order. -/
theorem readMembers_of_slots {form : Form} {target : α} {members : List (String × Json)}
    (hnames : (members.map (·.1)).Nodup)
    (hmembers : ∀ member ∈ members, ∃ slot ∈ shape.slots, slot.name = member.1
      ∧ slot.codec.read form member.2 = .ok (slot.get target))
    (record : α) {seen : List String} (hseen : ∀ name ∈ members.map (·.1), name ∉ seen) :
    ∃ made, readMembers shape.fields form record seen members
        = .ok (made, (members.map (·.1)).reverse ++ seen)
      ∧ ∀ slot ∈ shape.slots, slot.get made
        = if slot.name ∈ members.map (·.1) then slot.get target else slot.get record := by
  induction members generalizing record seen with
  | nil => exact ⟨record, rfl, fun slot _ => by simp⟩
  | cons member members ih =>
    obtain ⟨name, json⟩ := member
    rw [List.forall_mem_cons] at hmembers
    rw [List.map_cons, List.nodup_cons] at hnames
    rw [List.map_cons, List.forall_mem_cons] at hseen
    obtain ⟨⟨slot, hslot, rfl, hread⟩, hrest⟩ := hmembers
    have hseen' : ∀ other ∈ members.map (·.1), other ∉ slot.name :: seen := by
      intro other hother hmem
      rcases List.mem_cons.mp hmem with rfl | hmem
      · exact hnames.1 hother
      · exact hseen.2 other hother hmem
    -- the slot of the first member is set before the others are read, and none of them names it
    obtain ⟨made, hmade, hget⟩ := ih hnames.2 hrest (slot.set record (slot.get target)) hseen'
    refine ⟨made, ?_, fun other hother => ?_⟩
    · have hfield : slot.field.read form record json
          = .ok (slot.set record (slot.get target)) := map_eq_ok_iff.mpr ⟨_, hread, rfl⟩
      rw [readMembers, find?_fields hslot]
      simp only [if_neg hseen.1]
      rw [bind_eq_ok_iff]
      refine ⟨_, hfield, ?_⟩
      rw [hmade, List.map_cons, List.reverse_cons, List.append_assoc, List.singleton_append]
    · rw [hget other hother, List.map_cons]
      by_cases hname : other.name = slot.name
      · obtain rfl := slot_ext hother hslot hname
        rw [other.get_set, if_pos List.mem_cons_self, ite_self]
      · rw [shape.get_set_of_ne other hother slot hslot hname]
        exact if_congr (List.mem_cons.trans (or_iff_right hname)).symm rfl rfl

/-- A record with values that are read back is read back. -/
theorem readsBack_of_keeps {record : α} (h : shape.Keeps record) :
    ReadsBack (readRecord shape.blank shape.fields) (fun record => .object (shape.members record))
      record := by
  intro arrange harrange form
  obtain ⟨arranged, hdocument, hperm⟩ := harrange.object _ (nodup_members record)
  have hkeys : (arranged.map (·.1)).Perm ((shape.members record).map (·.1)) := by
    have hmap := hperm.map Prod.fst
    rwa [List.map_map] at hmap
  have hslots : ∀ member ∈ arranged, ∃ slot ∈ shape.slots, slot.name = member.1
      ∧ slot.codec.read form member.2 = .ok (slot.get record) := by
    intro member hmember
    obtain ⟨written, hwritten, rfl⟩ := List.mem_map.mp (hperm.mem_iff.mp hmember)
    obtain ⟨slot, hslot, -, rfl⟩ := mem_members_iff.mp hwritten
    exact ⟨slot, hslot, rfl, h slot hslot arrange harrange form⟩
  have hwritten : ∀ slot ∈ shape.slots, slot.name ∉ arranged.map (·.1) →
      slot.isWritten (slot.get record) = false := by
    intro slot hslot hnot
    rw [hkeys.mem_iff] at hnot
    rw [Bool.eq_false_iff]
    intro hwritten
    have hmember := mem_members_iff.mpr ⟨slot, hslot, hwritten, rfl⟩
    exact hnot (List.mem_map_of_mem hmember)
  obtain ⟨made, hread, hget⟩ := readMembers_of_slots (hkeys.nodup_iff.mpr (nodup_members record))
    hslots shape.blank fun _ _ => List.not_mem_nil
  have hmade : made = record := by
    refine shape.ext made record fun slot hslot => ?_
    rw [hget slot hslot]
    split
    · rfl
    · next hnot =>
      -- the member was left out, so the record holds the blank value as well
      rw [shape.get_blank slot hslot, (slot.eq_blank _ (hwritten slot hslot hnot)).2]
  have hpresent : shape.fields.find? (fun field => field.mandatory
      && !((arranged.map Prod.fst).reverse ++ []).contains field.name) = none := by
    rw [List.find?_eq_none]
    intro field hfield hmissing
    obtain ⟨slot, hslot, rfl⟩ := List.mem_map.mp hfield
    rw [Bool.and_eq_true] at hmissing
    have hnot : slot.name ∉ arranged.map (·.1) := by simpa [Slot.field] using hmissing.2
    have habsent := (slot.eq_blank _ (hwritten slot hslot hnot)).1
    exact Bool.noConfusion (hmissing.1.symm.trans habsent)
  rw [hdocument, readRecord, hread, hmade]
  simp only [bind, Except.bind, hpresent]

/-- The codec of a record, from how the record is read and written. -/
def codec (shape : Shape α) (read : Reader α) (write : α → Json)
    (hread : readRecord shape.blank shape.fields = read)
    (hwrite : ∀ record, Json.object (shape.members record) = write record) : Codec α where
  read := read
  write := write
  blank := shape.blank
  readsBack_blank := by
    rw [← hread, ← funext hwrite]
    exact readsBack_of_keeps keeps_blank
  readsBack hwords h := by
    rw [← hread] at h
    rw [← hread, ← funext hwrite]
    exact readsBack_of_keeps (keeps_of_readRecord hwords h)

end Shape

end AbiBridge.Json
