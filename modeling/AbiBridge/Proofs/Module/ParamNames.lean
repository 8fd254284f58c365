import AbiBridge.Module.Signature
import AbiBridge.Proofs.Name
import Mathlib.Data.List.Nodup

/-!
# Names of parameters

The names under which a flat function and its wrapper declare their parameters. None of them is a
keyword. Two collide only if one parameter is named by a keyword that cannot be escaped and the
other one by that keyword with an underscore; the object that a flat function is called on has the
name `self_` besides.
-/

namespace AbiBridge

/-- The words that the language of a module reserves, those without a use yet at the end. -/
def reservedWords : List String :=
  ["as", "break", "const", "continue", "crate", "else", "enum", "extern", "false", "fn", "for",
   "if", "impl", "in", "let", "loop", "match", "mod", "move", "mut", "pub", "ref", "return",
   "self", "Self", "static", "struct", "super", "trait", "true", "type", "unsafe", "use", "where",
   "while", "async", "await", "dyn", "abstract", "become", "box", "do", "final", "macro",
   "override", "priv", "typeof", "unsized", "virtual", "yield", "try"]

theorem identifierFor_not_mem_reservedWords (name : String) :
    identifierFor name ∉ reservedWords := by
  rw [identifierFor]
  split
  · next hpath =>
    have hall : ∀ keyword ∈ pathKeywords, keyword ++ "_" ∉ reservedWords := by decide +kernel
    exact hall name hpath
  · split
    · next hescapable =>
      have hall : ∀ keyword ∈ escapableKeywords, "r#" ++ keyword ∉ reservedWords := by
        decide +kernel
      exact hall name hescapable
    · next hpath hescapable =>
      have hall : ∀ word ∈ reservedWords, word ∈ pathKeywords ∨ word ∈ escapableKeywords := by
        decide +kernel
      exact fun hreserved => (hall name hreserved).elim hpath hescapable

/-- An escaped keyword is no identifier of C. -/
theorem hash_mem_escaped (name : String) : '#' ∈ ("r#" ++ name).toList := by
  rw [String.toList_append]
  exact List.mem_append_left _ (by decide)

theorem hash_not_mem_pathKeyword {name : String} (h : name ∈ pathKeywords) :
    '#' ∉ (name ++ "_").toList := by
  revert name
  decide

theorem eq_or_of_identifierFor_eq {a b : String} (ha : IsIdentifier a)
    (hb : IsIdentifier b) (h : identifierFor a = identifierFor b) :
    a = b ∨ (a ∈ pathKeywords ∧ b = a ++ "_") ∨ (b ∈ pathKeywords ∧ a = b ++ "_") := by
  rw [identifierFor, identifierFor] at h
  split at h
  · next hpath =>
    split at h
    · exact .inl (by simpa using h)
    · split at h
      · exact absurd (h ▸ hash_mem_escaped b) (hash_not_mem_pathKeyword hpath)
      · exact .inr (.inl ⟨hpath, h.symm⟩)
  · split at h
    · split at h
      · next hpath => exact absurd (h ▸ hash_mem_escaped a) (hash_not_mem_pathKeyword hpath)
      · split at h
        · exact .inl (by simpa using h)
        · exact absurd (h ▸ hash_mem_escaped a) (hb.not_mem (by decide))
    · split at h
      · next hpath => exact .inr (.inr ⟨hpath, h⟩)
      · split at h
        · exact absurd (h ▸ hash_mem_escaped b) (ha.not_mem (by decide))
        · exact .inl h

theorem identifierFor_pathKeyword {keyword : String} (h : keyword ∈ pathKeywords) :
    identifierFor keyword = keyword ++ "_" :=
  if_pos h

theorem identifierFor_pathKeyword_underscore {keyword : String} (h : keyword ∈ pathKeywords) :
    identifierFor (keyword ++ "_") = keyword ++ "_" := by
  revert keyword
  decide +kernel

/-- No two of the names are a keyword that cannot be escaped and the same with an underscore. -/
def KeepsApart (names : List String) : Prop :=
  ∀ keyword ∈ pathKeywords, keyword ∈ names → keyword ++ "_" ∉ names

instance (names : List String) : Decidable (KeepsApart names) :=
  inferInstanceAs (Decidable (∀ keyword ∈ pathKeywords, _))

/-- Distinct names keep distinct identifiers exactly if no two are kept apart by an underscore
only. -/
theorem nodup_map_identifierFor_iff {names : List String} (hnames : names.Nodup)
    (hident : ∀ name ∈ names, IsIdentifier name) :
    (names.map identifierFor).Nodup ↔ KeepsApart names := by
  constructor
  · intro hnodup keyword hkeyword hmem hmem'
    have hsame : keyword = keyword ++ "_" := by
      refine List.inj_on_of_nodup_map hnodup hmem hmem' ?_
      rw [identifierFor_pathKeyword hkeyword, identifierFor_pathKeyword_underscore hkeyword]
    have hlength := congrArg String.length hsame
    simp at hlength
  · intro happart
    refine hnames.map_on fun a ha b hb heq => ?_
    rcases eq_or_of_identifierFor_eq (hident a ha) (hident b hb) heq with
      hab | ⟨hpath, rfl⟩ | ⟨hpath, rfl⟩
    · exact hab
    · exact absurd hb (happart a hpath ha)
    · exact absurd ha (happart b hpath hb)

/-- The identifier of a parameter is the name of the object exactly for two names. -/
theorem identifierFor_eq_object_iff {name : String} (h : IsIdentifier name) :
    identifierFor name = "self_" ↔ name = "self" ∨ name = "self_" := by
  have hself : identifierFor "self" = "self_" := by decide
  constructor
  · intro heq
    rcases eq_or_of_identifierFor_eq h (by decide) (heq.trans hself.symm) with
      rfl | ⟨hpath, hname⟩ | ⟨-, rfl⟩
    · exact .inl rfl
    · have hnone : ∀ keyword ∈ pathKeywords, "self" ≠ keyword ++ "_" := by decide
      exact absurd hname (hnone name hpath)
    · exact .inr rfl
  · rintro (rfl | rfl) <;> decide

def DeclaresParam (text name : String) : Prop :=
  ∃ type, text = name ++ ": " ++ type

theorem forall₂_declaresParam (params : List (String × CType)) :
    List.Forall₂ DeclaresParam (params.map fun (name, type) => declaration name type)
      (params.map fun param => identifierFor param.1) := by
  rw [List.forall₂_map_left_iff, List.forall₂_map_right_iff, List.forall₂_same]
  rintro ⟨name, type⟩ -
  exact ⟨type.rustText, rfl⟩

namespace Method

def declaredNames (method : Method) : List String :=
  method.params.map (·.name)

def offeredNames (method : Method) : List String :=
  method.wrapperParams.map (·.1)

/-- The names under which the flat function declares its parameters, that of the object first. -/
def flatNames (method : Method) : List String :=
  "self_" :: method.declaredNames.map identifierFor

/-- The names under which the wrapper declares its parameters besides the receiver. -/
def wrapperNames (method : Method) : List String :=
  method.offeredNames.map identifierFor

/-- The flat function is declared with parameters of the given names and no others. -/
def DeclaresFlat (method : Method) (names : List String) : Prop :=
  ∃ texts, List.Forall₂ DeclaresParam texts names
    ∧ method.flatLine = "    pub fn " ++ method.flatName ++ "(" ++ ", ".intercalate texts ++ ")"
      ++ CType.rustResult method.result ++ ";"

/-- The wrapper, if there is one, is declared with parameters of the given names behind the
receiver and no others. -/
def DeclaresWrapper (method : Method) (receiver : Receiver) (names : List String) : Prop :=
  ∀ wrapper, method.wrapper = some wrapper → ∃ texts, List.Forall₂ DeclaresParam texts names
    ∧ "    pub unsafe fn " ++ wrapper ++ "(" ++ ", ".intercalate (receiver.parameter :: texts)
      ++ ")" ++ CType.rustResult method.result ++ " \x7b" ∈ method.wrapperLines receiver

theorem declaresFlat (method : Method) : method.DeclaresFlat method.flatNames := by
  refine ⟨_, .cons ⟨"*mut ::core::ffi::c_void", rfl⟩ ?_, rfl⟩
  have hparams := forall₂_declaresParam method.flatParams
  simpa [flatParams, declaredNames] using hparams

theorem declaresWrapper (method : Method) (receiver : Receiver) :
    method.DeclaresWrapper receiver method.wrapperNames := by
  intro wrapper hwrapper
  refine ⟨method.wrapperParams.map fun (name, type) => declaration name type, ?_, ?_⟩
  · have hparams := forall₂_declaresParam method.wrapperParams
    simpa [wrapperNames, offeredNames] using hparams
  · simp [wrapperLines, hwrapper]

theorem offeredNames_sublist (method : Method) :
    method.offeredNames.Sublist method.declaredNames := by
  rw [offeredNames, wrapperParams, declaredNames]
  induction method.params with
  | nil => exact .slnil
  | cons param params ih =>
    cases htype : param.wrapperType? with
    | none => simpa [htype] using ih.cons param.name
    | some type => simpa [htype] using ih.cons_cons param.name

theorem nodup_flatNames_iff {method : Method} (hnames : method.declaredNames.Nodup)
    (hident : ∀ name ∈ method.declaredNames, IsIdentifier name) :
    method.flatNames.Nodup ↔ "self" ∉ method.declaredNames ∧ "self_" ∉ method.declaredNames
      ∧ KeepsApart method.declaredNames := by
  have hobject : "self_" ∈ method.declaredNames.map identifierFor
      ↔ "self" ∈ method.declaredNames ∨ "self_" ∈ method.declaredNames := by
    rw [List.mem_map]
    constructor
    · rintro ⟨name, hmem, hname⟩
      rcases (identifierFor_eq_object_iff (hident name hmem)).mp hname with rfl | rfl
      · exact .inl hmem
      · exact .inr hmem
    · rintro (hmem | hmem)
      · exact ⟨_, hmem, by decide⟩
      · exact ⟨_, hmem, by decide⟩
  rw [flatNames, List.nodup_cons, hobject, nodup_map_identifierFor_iff hnames hident, not_or,
    and_assoc]

theorem nodup_wrapperNames_iff {method : Method} (hnames : method.declaredNames.Nodup)
    (hident : ∀ name ∈ method.declaredNames, IsIdentifier name) :
    ("self" :: method.wrapperNames).Nodup ↔ KeepsApart method.offeredNames := by
  have hsublist := method.offeredNames_sublist
  have hreceiver : "self" ∉ method.offeredNames.map identifierFor := by
    intro hmem
    obtain ⟨name, -, hname⟩ := List.mem_map.mp hmem
    exact identifierFor_not_mem_reservedWords name (by rw [hname]; decide)
  rw [wrapperNames, List.nodup_cons, and_iff_right hreceiver]
  exact nodup_map_identifierFor_iff (hnames.sublist hsublist)
    fun name hname => hident name (hsublist.subset hname)

/-- Whatever a method is called on, no name of a declared parameter is a keyword. The names of the
flat function are distinct exactly if no parameter has the name of the object and no two are kept
apart by an underscore behind a keyword only, and the names of the wrapper exactly if no two that
it has are. -/
theorem paramNames_distinct {method : Method} (hnames : method.declaredNames.Nodup)
    (hident : ∀ name ∈ method.declaredNames, IsIdentifier name) (receiver : Receiver) :
    method.DeclaresFlat method.flatNames
      ∧ method.DeclaresWrapper receiver method.wrapperNames
      ∧ (method.flatNames.Nodup ↔ "self" ∉ method.declaredNames ∧ "self_" ∉ method.declaredNames
        ∧ KeepsApart method.declaredNames)
      ∧ (("self" :: method.wrapperNames).Nodup ↔ KeepsApart method.offeredNames)
      ∧ ∀ name ∈ method.flatNames ++ method.wrapperNames, name ∉ reservedWords := by
  refine ⟨method.declaresFlat, method.declaresWrapper receiver, nodup_flatNames_iff hnames hident,
    nodup_wrapperNames_iff hnames hident, ?_⟩
  intro name hname
  simp only [flatNames, wrapperNames, List.cons_append, List.mem_cons, List.mem_append,
    List.mem_map] at hname
  rcases hname with rfl | ⟨param, -, rfl⟩ | ⟨param, -, rfl⟩
  · decide
  · exact identifierFor_not_mem_reservedWords param
  · exact identifierFor_not_mem_reservedWords param

/-- A method with parameters named by keywords and a buffer with its length. -/
def searchMethod : Method where
  flatName := "ISearch_Find"
  wrapper := some "Find"
  params := Param.ofRaw
    [{ name := "type", type := .primitive .i32 }, { name := "super", type := .primitive .i32 },
     { name := "pubText", type := .pointer (.primitive .u8) true true },
     { name := "cubText", type := .primitive .u32, countType := some .u32 }]
  result := none

theorem paramNames_distinct_keywords :
    searchMethod.declaredNames = ["type", "super", "pubText", "cubText"]
      ∧ searchMethod.flatNames = ["self_", "r#type", "super_", "pubText", "cubText"]
      ∧ searchMethod.flatNames.Nodup
      ∧ searchMethod.wrapperNames = ["r#type", "super_", "pubText"]
      ∧ ("self" :: searchMethod.wrapperNames).Nodup
      ∧ ∀ name ∈ searchMethod.flatNames ++ searchMethod.wrapperNames, name ∉ reservedWords := by
  have hnames : searchMethod.declaredNames = ["type", "super", "pubText", "cubText"] := by
    decide
  have hoffered : searchMethod.offeredNames = ["type", "super", "pubText"] := by decide
  have hnodup : searchMethod.declaredNames.Nodup := by
    rw [hnames]
    decide
  have hident : ∀ name ∈ searchMethod.declaredNames, IsIdentifier name := by
    rw [hnames]
    decide
  have hdistinct := paramNames_distinct hnodup hident .interface
  obtain ⟨-, -, hflat, hwrapper, hfree⟩ := hdistinct
  rw [hnames] at hflat
  rw [hoffered] at hwrapper
  refine ⟨hnames, ?_, hflat.mpr (by decide), ?_, hwrapper.mpr (by decide), hfree⟩
  · rw [flatNames, hnames]
    decide
  · rw [wrapperNames, hoffered]
    decide

/-- A method whose parameters are named by a keyword and by that keyword with an underscore. -/
def objectMethod : Method where
  flatName := "Reader_t_Read"
  wrapper := some "Read"
  params := Param.ofRaw
    [{ name := "self", type := .primitive .i32 }, { name := "self_", type := .primitive .i32 }]
  result := none

/-- Both parameters are declared under the name of the object. -/
theorem paramNames_clash :
    objectMethod.declaredNames.Nodup ∧ (∀ name ∈ objectMethod.declaredNames, IsIdentifier name)
      ∧ objectMethod.DeclaresFlat ["self_", "self_", "self_"]
      ∧ objectMethod.DeclaresWrapper .struct ["self_", "self_"]
      ∧ ¬ objectMethod.flatNames.Nodup ∧ ¬ ("self" :: objectMethod.wrapperNames).Nodup := by
  have hflat : objectMethod.flatNames = ["self_", "self_", "self_"] := by decide
  have hwrapper : objectMethod.wrapperNames = ["self_", "self_"] := by decide
  have hdeclared := objectMethod.declaresFlat
  have hwrapped := objectMethod.declaresWrapper .struct
  rw [hflat] at hdeclared
  rw [hwrapper] at hwrapped
  refine ⟨by decide, by decide, hdeclared, hwrapped, ?_, ?_⟩
  · rw [hflat]
    decide
  · rw [hwrapper]
    decide

end Method

end AbiBridge
