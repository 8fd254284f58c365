import AbiBridge.Generate.Handle
import AbiBridge.Proofs.CType.Mentions
import AbiBridge.Proofs.Callback.Aliases
import AbiBridge.Proofs.Generate.TypeNames

/-!
# Default values behind typedefs

The default value of a typedef is that of the type at the end of its chain. The looks that bound
the way there matter only where a typedef is met, so a type without typedefs has the same default
value with any number of them, and a chain costs nothing but one look for each typedef.
-/

namespace AbiBridge

/-- Somewhere the value is whatever the type itself has by default. -/
inductive DefaultValue.FallsBack : DefaultValue → Prop
  | unknown : FallsBack .unknown
  | element {element : DefaultValue} {length : Nat} : FallsBack element →
    FallsBack (.repeated element length)

namespace Index

variable {index : Index} {resolver : Resolver} {type : CType} {name : String}

/-- A chain of typedefs from a name to the type that the last of them stands for. -/
inductive Aliases (index : Index) (resolver : Resolver) : Nat → String → CType → Prop
  | last {name : String} {type : CType} : index.kind? name = some .typedef →
    index.step? resolver name = some type → Aliases index resolver 1 name type
  | next {count : Nat} {name next : String} {type : CType} : index.kind? name = some .typedef →
    index.step? resolver name = some (.named next) → Aliases index resolver count next type →
    Aliases index resolver (count + 1) name type

/-- The name of a typedef is not in the type. -/
def HasNoTypedef (index : Index) (type : CType) : Prop :=
  ∀ name, index.kind? name = some .typedef → ¬ type.Mentions name

/-- The type carries no length, and its names are those of structs, enums and interfaces. -/
structure IsConcrete (index : Index) (type : CType) : Prop where
  measured : ¬ CarriesLength type
  names : ∀ name, type.Mentions name → index.kind? name = some .struct
    ∨ index.kind? name = some .enum ∨ index.kind? name = some .interface

theorem IsConcrete.hasNoTypedef (h : index.IsConcrete type) : index.HasNoTypedef type := by
  intro name htypedef hname
  rcases h.names name hname with hkind | hkind | hkind <;> simp [htypedef] at hkind

theorem IsConcrete.element {element : CType} {length : Nat}
    (h : index.IsConcrete (.array element length)) : index.IsConcrete element where
  measured hlength := h.measured hlength.array
  names name hname := h.names name hname.array

theorem HasNoTypedef.withHandles (h : index.HasNoTypedef type) :
    index.HasNoTypedef (withHandles index type) := by
  intro name hkind hname
  rw [← CType.mem_names_iff, names_withHandles, CType.mem_names_iff] at hname
  exact h name hkind hname

@[simp] theorem defaultWithin_array (looks : Nat) (element : CType) (length : Nat) :
    defaultWithin index resolver looks (.array element length)
      = .repeated (defaultWithin index resolver (looks - 1) element) length := by
  rw [defaultWithin]

/-- A typedef takes one look. -/
theorem defaultWithin_typedef {target : CType} (looks : Nat)
    (hkind : index.kind? name = some .typedef) (hstep : index.step? resolver name = some target) :
    defaultWithin index resolver (looks + 1) (.named name)
      = defaultWithin index resolver looks (withHandles index target) := by
  simp only [defaultWithin, hkind, hstep]

theorem defaultWithin_named (h : index.kind? name ≠ some .typedef) (looks : Nat) :
    defaultWithin index resolver looks (.named name)
      = defaultWithin index resolver 0 (.named name) := by
  cases looks with
  | zero => rfl
  | succ looks =>
    rw [defaultWithin, defaultWithin]
    cases hkind : index.kind? name with
    | none => rfl
    | some kind =>
      cases kind with
      | typedef => exact absurd hkind h
      | _ => rfl

/-- Without typedefs the number of looks does not matter. -/
theorem defaultWithin_eq (type : CType) (h : index.HasNoTypedef type) (looks looks' : Nat) :
    defaultWithin index resolver looks type = defaultWithin index resolver looks' type := by
  cases type with
  | array element length =>
    have helement : index.HasNoTypedef element := fun name hkind hname =>
      h name hkind hname.array
    rw [defaultWithin_array, defaultWithin_array,
      defaultWithin_eq element helement (looks - 1) (looks' - 1)]
  | named name =>
    have hkind : index.kind? name ≠ some .typedef := fun hkind => h name hkind (.named name)
    rw [defaultWithin_named hkind looks, defaultWithin_named hkind looks']
  | _ => rw [defaultWithin, defaultWithin]

/-- With a look for each typedef of a chain, the default value is that of the type at its end. -/
theorem Aliases.defaultWithin_eq {count looks looks' : Nat}
    (h : Aliases index resolver count name type) (hlooks : count ≤ looks)
    (htype : index.HasNoTypedef type) :
    defaultWithin index resolver looks (.named name)
      = defaultWithin index resolver looks' (withHandles index type) := by
  induction h generalizing looks with
  | last hkind hstep =>
    obtain ⟨looks, rfl⟩ := Nat.exists_eq_add_of_le' hlooks
    rw [defaultWithin_typedef looks hkind hstep]
    exact Index.defaultWithin_eq _ htype.withHandles looks looks'
  | next hkind hstep _ ih =>
    obtain ⟨looks, rfl⟩ := Nat.exists_eq_add_of_le' (Nat.le_of_add_left_le hlooks)
    rw [defaultWithin_typedef looks hkind hstep]
    simpa [withHandles] using ih (Nat.le_of_succ_le_succ hlooks) htype

/-- The default value of a concrete type is made of values of its own. -/
theorem IsConcrete.not_fallsBack (type : CType) (h : index.IsConcrete type) (looks : Nat) :
    ¬ (defaultWithin index resolver looks type).FallsBack := by
  cases type with
  | primitive p =>
    rw [defaultWithin, Primitive.default]
    split
    · rintro ⟨⟩
    · split <;> rintro ⟨⟩
  | pointer target nullable isConst =>
    rw [defaultWithin]
    split <;> rintro ⟨⟩
  | array element length =>
    rw [defaultWithin_array]
    intro hfalls
    cases hfalls with
    | element hfalls => exact IsConcrete.not_fallsBack element h.element (looks - 1) hfalls
  | function params result nullable =>
    rw [defaultWithin]
    rintro ⟨⟩
  | zeroTerminated element => exact absurd .zeroTerminated h.measured
  | slice element isConst => exact absurd .slice h.measured
  | named name =>
    have hkind : index.kind? name ≠ some .typedef := fun hkind =>
      h.hasNoTypedef name hkind (.named name)
    rw [defaultWithin_named hkind, defaultWithin]
    rcases h.names name (.named name) with hkind | hkind | hkind <;> rw [hkind] <;> rintro ⟨⟩

theorem IsConcrete.defaultValue_array {element : CType} {length : Nat}
    (h : index.IsConcrete (.array element length)) :
    defaultValue index resolver (.array element length)
      = .repeated (defaultValue index resolver element) length := by
  rw [defaultValue, defaultWithin_array, defaultValue]
  exact congrArg (DefaultValue.repeated · length)
    (defaultWithin_eq element h.element.hasNoTypedef _ _)

/-- Nested arrays repeat the default value of what they hold. -/
theorem IsConcrete.defaultValue_nest {base : CType} {lengths : List Nat}
    (h : index.IsConcrete (base.nest lengths)) :
    defaultValue index resolver (base.nest lengths)
      = lengths.foldr (fun length value => .repeated value length)
          (defaultValue index resolver base) := by
  induction lengths with
  | nil => rfl
  | cons length lengths ih =>
    rw [List.foldr_cons, ← ih (IsConcrete.element h)]
    exact IsConcrete.defaultValue_array h

/-- A chain of at most as many typedefs as there are looks has the default value of the type at
its end, with handles for pointers to interfaces, if that has no typedef in it. A type of structs,
enums and interfaces has a default value that never falls back on the type itself: pointers are
null, and arrays repeat the default value of what they hold at every level. -/
theorem defaultValue_aliases (index : Index) (resolver : Resolver) :
    (∀ count name type, Aliases index resolver count name type → count ≤ maxTypedefDepth →
        index.HasNoTypedef type →
        defaultValue index resolver (.named name)
          = defaultValue index resolver (withHandles index type))
      ∧ ∀ type, index.IsConcrete type →
        ¬ (defaultValue index resolver type).FallsBack
          ∧ (∀ target nullable, type = .pointer target nullable true →
              defaultValue index resolver type = .null)
          ∧ (∀ target nullable, type = .pointer target nullable false →
              defaultValue index resolver type = .nullMut)
          ∧ ∀ base lengths, type = CType.nest base lengths →
              defaultValue index resolver type
                = lengths.foldr (fun length value => .repeated value length)
                    (defaultValue index resolver base) := by
  refine ⟨fun count name type hchain hcount htype => hchain.defaultWithin_eq hcount htype,
    fun type htype => ⟨htype.not_fallsBack type maxTypedefDepth, ?_, ?_, ?_⟩⟩
  · rintro target nullable rfl
    rw [defaultValue, defaultWithin, if_pos rfl]
  · rintro target nullable rfl
    rw [defaultValue, defaultWithin, if_neg Bool.false_ne_true]
  · rintro base lengths rfl
    exact htype.defaultValue_nest

/-- Teams of two users each, behind two typedefs. -/
def teamsIndex : Index :=
  .ofApi { interfaces := [{ name := "IUser" }]
           typedefs := [⟨"Teams_t", "Users_t"⟩, ⟨"Users_t", "IUser *[3][2]"⟩] } .empty []

def teamsType : CType :=
  .nest (.pointerTo (.named "IUser") false) [3, 2]

theorem aliases_teams : Aliases teamsIndex .plain 2 "Teams_t" teamsType := by
  have husers : teamsIndex.step? .plain "Users_t" = some teamsType :=
    step?_eq_some_iff.mpr
      ⟨"IUser *[3][2]", by decide, CType.resolve_of_array rfl rfl rfl rfl rfl⟩
  have hteams : teamsIndex.step? .plain "Teams_t" = some (.named "Users_t") :=
    step?_eq_some_iff.mpr ⟨"Users_t", by decide, CType.resolve_of_other rfl rfl⟩
  exact .next (by decide) hteams (.last (by decide) husers)

theorem isConcrete_teams {base : CType} (hmeasured : ¬ CarriesLength base)
    (hnames : base.names = ["IUser"]) : teamsIndex.IsConcrete (base.nest [3, 2]) where
  measured := by
    rintro (_ | _ | ⟨_ | _ | h⟩)
    exact hmeasured h
  names name hname := by
    have hbase : name ∈ base.names := hname.mem_names
    rw [hnames, List.mem_singleton] at hbase
    subst hbase
    exact .inr (.inr (by decide))

/-- The elements behind the typedefs are handles; without handles they are null pointers. -/
theorem defaultValue_aliases_teams :
    defaultValue teamsIndex .plain (.named "Teams_t")
        = .repeated (.repeated (.handle "IUser") 2) 3
      ∧ defaultValue teamsIndex .plain teamsType = .repeated (.repeated .nullMut 2) 3 := by
  obtain ⟨haliases, hconcrete⟩ := defaultValue_aliases teamsIndex .plain
  have hpointers : teamsIndex.IsConcrete teamsType := isConcrete_teams nofun rfl
  have husers : teamsIndex.IsConcrete (.nest (.named "IUser") [3, 2]) := isConcrete_teams nofun rfl
  have hpointer : teamsIndex.IsConcrete (.pointerTo (.named "IUser") false) :=
    hpointers.element.element
  constructor
  · have hhandles : withHandles teamsIndex teamsType = .nest (.named "IUser") [3, 2] := by
      have hinterface : teamsIndex.isInterface "IUser" = true := by decide
      simp [teamsType, CType.nest, CType.pointerTo, withHandles, hinterface]
    have hhandle : defaultValue teamsIndex .plain (.named "IUser") = .handle "IUser" := by
      have hkind : teamsIndex.kind? "IUser" = some .interface := by decide
      simp only [defaultValue, maxTypedefDepth, defaultWithin, hkind]
    rw [haliases 2 "Teams_t" teamsType aliases_teams (by decide) hpointers.hasNoTypedef, hhandles,
      (hconcrete _ husers).2.2.2 (.named "IUser") [3, 2] rfl, hhandle]
    rfl
  · rw [(hconcrete _ hpointers).2.2.2 (.pointerTo (.named "IUser") false) [3, 2] rfl,
      (hconcrete _ hpointer).2.2.1 (.named "IUser") true rfl]
    rfl

end Index

end AbiBridge
