import AbiBridge.Proofs.CType.Resolved
import AbiBridge.Proofs.Callback.Partition
import AbiBridge.Proofs.Descriptor.Index

/-!
# Payloads behind typedefs

An interface and an opaque type cannot be made from bytes, so no payload may hold a value of one.
What a payload holds is looked for inside arrays only: where a typedef leads to an interface or an
opaque type, the payload becomes a callback nevertheless.
-/

namespace AbiBridge

variable {index : Index} {resolver : Resolver} {links : Nat} {type : CType} {name : String}

/-- The type carries a length, if only inside arrays. -/
inductive CarriesLength : CType → Prop
  | slice {element : CType} {isConst : Bool} : CarriesLength (.slice element isConst)
  | zeroTerminated {element : CType} : CarriesLength (.zeroTerminated element)
  | array {element : CType} {length : Nat} (h : CarriesLength element) :
      CarriesLength (.array element length)

/-- The type holds a value of what the name stands for, inside arrays and at the end of as many
typedefs as there are links, in any order. -/
inductive HoldsValue (index : Index) (resolver : Resolver) : Nat → CType → String → Prop
  | named (name : String) : HoldsValue index resolver 0 (.named name) name
  | array {links : Nat} {element : CType} {length : Nat} {name : String}
      (h : HoldsValue index resolver links element name) :
      HoldsValue index resolver links (.array element length) name
  | typedef {links : Nat} {other name : String} {type : CType}
      (hstep : index.step? resolver other = some type)
      (h : HoldsValue index resolver links type name) :
      HoldsValue index resolver (links + 1) (.named other) name

def Index.IsOpaque (index : Index) (name : String) : Prop :=
  index.kind? name = some .interface ∨ index.kind? name = some .opaqueType

theorem NotFromBytes.of_carriesLength (h : CarriesLength type) : NotFromBytes index type := by
  induction h with
  | slice => exact .slice
  | zeroTerminated => exact .zeroTerminated
  | array _ ih => exact .array ih

theorem Index.IsOpaque.notFromBytes (h : index.IsOpaque name) : NotFromBytes index (.named name) := by
  cases h with
  | inl h => exact .interface h
  | inr h => exact .opaqueType h

/-- The induction is on the arrays: before the first typedef there is nothing else. -/
theorem HoldsValue.notFromBytes (h : HoldsValue index resolver links type name) (hlinks : links = 0)
    (hhidden : index.IsOpaque name) : NotFromBytes index type := by
  induction h with
  | named name => exact hhidden.notFromBytes
  | array _ ih => exact .array (ih hlinks hhidden)
  | typedef => cases hlinks

theorem notFromBytes_iff (resolver : Resolver) :
    NotFromBytes index type ↔ CarriesLength type
      ∨ ∃ name, HoldsValue index resolver 0 type name ∧ index.IsOpaque name := by
  constructor
  · intro h
    induction h with
    | slice => exact .inl .slice
    | zeroTerminated => exact .inl .zeroTerminated
    | interface h => exact .inr ⟨_, .named _, .inl h⟩
    | opaqueType h => exact .inr ⟨_, .named _, .inr h⟩
    | array _ ih =>
      cases ih with
      | inl h => exact .inl h.array
      | inr h =>
        obtain ⟨name, hholds, hhidden⟩ := h
        exact .inr ⟨name, hholds.array, hhidden⟩
  · rintro (h | ⟨name, hholds, hhidden⟩)
    · exact .of_carriesLength h
    · exact hholds.notFromBytes rfl hhidden

/-- A type can be made from bytes as far as is looked exactly if it carries no length and all
values of interfaces and opaque types in it are behind typedefs. -/
theorem not_notFromBytes_iff (resolver : Resolver) :
    ¬ NotFromBytes index type ↔ ¬ CarriesLength type
      ∧ ∀ links name, HoldsValue index resolver links type name → index.IsOpaque name →
        0 < links := by
  rw [notFromBytes_iff resolver, not_or, not_exists]
  refine and_congr_right fun _ => ⟨?_, ?_⟩
  · intro h links name hholds hhidden
    apply Nat.pos_of_ne_zero
    rintro rfl
    exact h name ⟨hholds, hhidden⟩
  · intro h name hname
    exact absurd (h 0 name hname.1 hname.2) (Nat.lt_irrefl 0)

/-- Whatever holds an interface or an opaque type with no typedef between is rejected. A struct
whose number is free and that carries no length is rejected for nothing else: it becomes a
callback exactly if all its interfaces and opaque types are behind typedefs. -/
theorem chooseCallbacks_byValue (items : List StructItem) (index : Index) (resolver : Resolver)
    (deny : List String) :
    ∃ decided : Decisions, decided.map (·.1) = items.filter (·.callbackId.isSome)
      ∧ (chooseCallbacks items index deny).callbacks = decided.filterMap (·.2.callback?)
      ∧ (chooseCallbacks items index deny).rejected = decided.filterMap (·.2.rejection?)
      ∧ ∀ before item outcome after, decided = before ++ (item, outcome) :: after →
        ∀ id, item.callbackId = some id →
          ((∃ field ∈ item.fields, ∃ name, HoldsValue index resolver 0 field.type name
              ∧ index.IsOpaque name) → ∃ issue, outcome = .rejected item.name issue)
            ∧ (outcome = .accepted (item.toCallback id deny)
              ↔ (∀ first, ¬ HasNumber before id first)
                ∧ ∀ field ∈ item.fields, ¬ CarriesLength field.type
                  ∧ ∀ links name, HoldsValue index resolver links field.type name →
                    index.IsOpaque name → 0 < links) := by
  obtain ⟨decided, hitems, houtcomes, hdecided⟩ := exists_areDecisions index deny tracks_nil items
  refine ⟨decided, hitems, ?_, ?_, ?_⟩
  · simp only [chooseCallbacks, ← houtcomes, List.filterMap_map]
    rfl
  · simp only [chooseCallbacks, ← houtcomes, List.filterMap_map]
    rfl
  · intro before item outcome after hsplit id hid
    have hdecision := hdecided before item outcome after hsplit id hid
    rw [List.nil_append] at hdecision
    constructor
    · rintro ⟨field, hfield, name, hholds, hhidden⟩
      apply hdecision.eq_rejected
      intro haccepted
      exact (hdecision.accepted_iff.mp haccepted).2 field hfield (hholds.notFromBytes rfl hhidden)
    · rw [hdecision.accepted_iff]
      exact and_congr_right fun _ =>
        forall₂_congr fun field _ => not_notFromBytes_iff resolver

def userIndex : Index :=
  .ofApi { interfaces := [{ name := "IUser" }], typedefs := [⟨"User_t", "IUser"⟩] } .empty []

def payloadItem (type : CType) : StructItem where
  name := "Joined_t"
  layout := ⟨"Joined_t", .literal 8, .literal 8,
    [⟨"m_user", some (.literal 8), some (.literal 0)⟩], false, []⟩
  fields := [⟨"m_user", type, .unknown⟩]
  callbackId := some 5

theorem chooseCallbacks_byValue_array :
    ∃ issue, (chooseCallbacks [payloadItem (.array (.named "IUser") 2)] userIndex []).rejected
      = [⟨"Joined_t", issue⟩] := by
  obtain ⟨decided, hitems, -, hrejected, hdecided⟩ := chooseCallbacks_byValue
    [payloadItem (.array (.named "IUser") 2)] userIndex .plain []
  obtain ⟨⟨item, outcome⟩, hone, hitem⟩ := List.map_eq_singleton_iff.mp hitems
  dsimp only at hitem
  subst hitem
  have hvalue : HoldsValue userIndex .plain 0 (.array (.named "IUser") 2) "IUser" :=
    .array (.named _)
  have hhidden : userIndex.IsOpaque "IUser" := .inl (by decide)
  obtain ⟨issue, rfl⟩ := (hdecided [] _ outcome [] hone 5 rfl).1
    ⟨_, List.mem_cons_self, "IUser", hvalue, hhidden⟩
  exact ⟨issue, by rw [hrejected, hone]; rfl⟩

theorem step?_userIndex : userIndex.step? .plain "User_t" = some (.named "IUser") := by
  apply Index.step?_eq_some_iff.mpr
  refine ⟨"IUser", by decide, ?_⟩
  exact CType.resolve_of_other rfl rfl

/-- The value of an interface behind a typedef is in a payload that becomes a callback. -/
theorem chooseCallbacks_byValue_typedef :
    userIndex.IsOpaque "IUser" ∧ HoldsValue userIndex .plain 1 (.named "User_t") "IUser"
      ∧ (chooseCallbacks [payloadItem (.named "User_t")] userIndex []).callbacks.map (·.payload)
        = ["Joined_t"]
      ∧ (chooseCallbacks [payloadItem (.named "User_t")] userIndex []).rejected = [] :=
  ⟨.inl (by decide), .typedef step?_userIndex (.named _), by decide, by decide⟩

end AbiBridge
