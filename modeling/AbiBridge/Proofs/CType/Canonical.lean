import AbiBridge.CType.Resolve
import AbiBridge.Proofs.CType.Declarator

/-!
# Canonical types

The types that have a C spelling of their own: scalars and plain names, the pointers of the
fixed forms to these, and functions and pointers to arrays put together from such.
-/

namespace AbiBridge.CType

/-- A name that nothing but a name is spelled as. -/
def IsPlainName (name : String) : Prop :=
  isName name = true ∧ name ≠ "void" ∧ name ≠ "const" ∧ Primitive.ofSpelling? name = none
    ∧ name ∉ platformWidthSpellings

inductive IsAtom : CType → Prop
  | primitive (p : Primitive) : IsAtom (.primitive p)
  | named {name : String} : IsPlainName name → IsAtom (.named name)

/-- A function occurs in the type, at any depth. -/
def mentionsFunction : CType → Bool
  | .primitive _ | .named _ => false
  | .pointer target _ _ => target.mentionsFunction
  | .array element _ => element.mentionsFunction
  | .zeroTerminated element => element.mentionsFunction
  | .slice element _ => element.mentionsFunction
  | .function .. => true

def PointsToArray (type : CType) : Prop :=
  ∃ element length nullable isConst, type = pointer (array element length) nullable isConst

/-- The lengths of an array of one or more dimensions, each a 64-bit word. -/
def AreLengths (lengths : List Nat) : Prop :=
  lengths ≠ [] ∧ ∀ length ∈ lengths, length < Word.count 64

def StartsConst (text : String) : Prop :=
  "const ".toList <+: text.toList

/-- The canonical types that are no arrays. -/
inductive Canonical : CType → Prop
  | atom {type : CType} : IsAtom type → Canonical type
  | pointer {target : CType} (nullable isConst : Bool) : IsAtom target →
      Canonical (.pointer target nullable isConst)
  | pointerToPointer {target : CType} (inner outer : Bool) : IsAtom target →
      ¬ (inner = true ∧ outer = true) → Canonical (pointerTo (pointerTo target inner) outer)
  | function {params : List CType} {result : Option CType} :
      (∀ param ∈ params, Canonical param) → (∀ type, result = some type → Canonical type) →
      (∀ type, result = some type → type.mentionsFunction = false) →
      Canonical (.function params result true)
  | pointerToArray {base : CType} {lengths : List Nat} {isConst : Bool} : Canonical base →
      AreLengths lengths → (isConst = false → ¬ StartsConst base.cText) →
      Canonical (pointerTo (nest base lengths) isConst)

/-- The canonical types of a position. In value position there are arrays as well. -/
inductive CanonicalAt : Position → CType → Prop
  | plain {position : Position} {type : CType} : Canonical type → CanonicalAt position type
  | array {base : CType} {lengths : List Nat} : Canonical base → ¬ PointsToArray base →
      AreLengths lengths → CanonicalAt .value (nest base lengths)

/-- The word is the spelling of the type and of nothing else. -/
structure SpelledAs (type : CType) (word : String) : Prop where
  tokens_eq : tokens word = [.word word]
  isPointeeWord : isPointeeWord word = true
  ofWords?_eq : ofWords? [word] = some type
  ne_const : word ≠ "const"
  ne_void : word ≠ "void"
  ne_array : ∀ element length, type ≠ array element length
  not_function : type.mentionsFunction = false

theorem ofWords?_plainName {name : String} (h : IsPlainName name) :
    ofWords? [name] = some (named name) := by
  obtain ⟨hname, hvoid, -, hprimitive, hwidth⟩ := h
  simp [ofWords?, ofBareWords?, hname, hvoid, hprimitive, hwidth]

theorem IsAtom.spelledAs {type : CType} (h : IsAtom type) : SpelledAs type type.cText := by
  cases h with
  | primitive p =>
    have htext : (CType.primitive p).cText = p.cName := by simp [cText, spell]
    rw [htext]
    exact {
      tokens_eq := tokens_cName p
      isPointeeWord := by cases p <;> decide
      ofWords?_eq := by cases p <;> rfl
      ne_const := by cases p <;> decide
      ne_void := by cases p <;> decide
      ne_array := by intro _ _ heq; cases heq
      not_function := rfl }
  | @named name hplain =>
    have htext : (CType.named name).cText = name := by simp [cText, spell]
    rw [htext]
    exact {
      tokens_eq := tokens_of_isName hplain.1
      isPointeeWord := isPointeeWord_of_isName hplain.1
      ofWords?_eq := ofWords?_plainName hplain
      ne_const := hplain.2.2.1
      ne_void := hplain.2.1
      ne_array := by intro _ _ heq; cases heq
      not_function := rfl }

end AbiBridge.CType
