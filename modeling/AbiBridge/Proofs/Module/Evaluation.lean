import AbiBridge.Module.Render
import AbiBridge.Proofs.Text.Numeral
import Mathlib.Data.List.Basic

/-!
# Evaluating what a module says about its platforms

The expressions and attributes of a module are evaluated on one of the two platforms: a
condition holds on platform A and does not hold on platform B. Only the forms that a module
uses have a value.
-/

namespace AbiBridge

inductive Side where
  | a
  | b
  deriving DecidableEq, Repr

def Side.pick {α : Type} : Side → α × α → α
  | a, (onA, _) => onA
  | b, (_, onB) => onB

/-- The value of a choice between two numerals by the given condition. -/
def choiceValue? (condition : String) (side : Side) (text : List Char) : Option Nat := do
  let body ← ("if cfg!(" ++ condition ++ ") \x7b ").toList.isPrefixOf? text
  let rest ← " \x7d else \x7b ".toList.isPrefixOf? (body.dropWhile Char.isDigit)
  let onA ← Text.numeral? 10 (body.takeWhile Char.isDigit)
  let onB ← Text.numeral? 10 (rest.takeWhile Char.isDigit)
  if rest.dropWhile Char.isDigit = " \x7d".toList then some (side.pick (onA, onB)) else none

/-- The expression that a line gives to the constant of the given name. -/
def constantExpression? (name line : String) : Option (List Char) := do
  let rest ← ("pub const " ++ name ++ ": usize = ").toList.isPrefixOf? line.toList
  ";".toList.isSuffixOf? rest

/-- The value of an expression: a numeral, a choice, or the constant for the packing, which the
first of the lines that declares it defines. -/
def expressionValue? (condition : String) (side : Side) (lines : List String) (text : String) :
    Option Nat :=
  if text = ModuleTarget.packSizeName then
    (lines.findSome? (constantExpression? ModuleTarget.packSizeName)).bind
      (choiceValue? condition side)
  else (Text.numeral? 10 text.toList).or (choiceValue? condition side text.toList)

def packedAlign? (text : List Char) : Option Nat := do
  let rest ← "repr(C, packed(".toList.isPrefixOf? text
  let digits ← "))".toList.isSuffixOf? rest
  Text.numeral? 10 digits

/-- What a conditional attribute stands for on the platform. -/
def conditionalAttribute? (condition : String) (side : Side) (text : List Char) :
    Option (List Char) := do
  let rest ← "cfg_attr(".toList.isPrefixOf? text
  let body ← ")".toList.isSuffixOf? rest
  match side with
  | .a => (condition ++ ", ").toList.isPrefixOf? body
  | .b => ("not(" ++ condition ++ "), ").toList.isPrefixOf? body

def attributeAlign? (condition : String) (side : Side) (line : String) : Option Nat := do
  let rest ← "#[".toList.isPrefixOf? line.toList
  let body ← "]".toList.isSuffixOf? rest
  (packedAlign? body).or ((conditionalAttribute? condition side body).bind packedAlign?)

theorem takeWhile_numeral (n : Nat) {rest : List Char} {c : Char} (hc : c.isDigit = false) :
    ((toString n).toList ++ c :: rest).takeWhile Char.isDigit = (toString n).toList := by
  rw [List.takeWhile_append_of_pos fun _ => Text.isDigit_of_mem_toString, List.takeWhile_cons, hc]
  simp

theorem dropWhile_numeral (n : Nat) {rest : List Char} {c : Char} (hc : c.isDigit = false) :
    ((toString n).toList ++ c :: rest).dropWhile Char.isDigit = c :: rest := by
  rw [List.dropWhile_append_of_pos fun _ => Text.isDigit_of_mem_toString, List.dropWhile_cons, hc]
  simp

theorem choice_eq (target : ModuleTarget) (a b : Nat) :
    target.choice a b = "if cfg!(" ++ target.condition ++ ") \x7b " ++ toString a
      ++ " \x7d else \x7b " ++ toString b ++ " \x7d" :=
  rfl

theorem packed_eq (n : Nat) :
    ModuleTarget.packed n = "repr(C, packed(" ++ toString n ++ "))" :=
  rfl

section Target

variable (target : ModuleTarget) (side : Side) (a b : Nat)

@[simp] theorem choiceValue?_choice :
    choiceValue? target.condition side (target.choice a b).toList = some (side.pick (a, b)) := by
  have hhead : ("if cfg!(" ++ target.condition ++ ") \x7b ").toList.isPrefixOf?
      (target.choice a b).toList
        = some ((toString a).toList ++ ' ' :: ("\x7d else \x7b ".toList
            ++ ((toString b).toList ++ ' ' :: ['\x7d']))) := by
    rw [List.isPrefixOf?_eq_some_iff_append_eq]
    simp only [choice_eq, String.toList_append, List.append_assoc]
    rfl
  have hmiddle : " \x7d else \x7b ".toList.isPrefixOf?
      (' ' :: ("\x7d else \x7b ".toList ++ ((toString b).toList ++ ' ' :: ['\x7d'])))
        = some ((toString b).toList ++ ' ' :: ['\x7d']) :=
    List.isPrefixOf?_eq_some_iff_append_eq.mpr rfl
  have hblank : ' '.isDigit = false := rfl
  simp only [choiceValue?, hhead, Option.bind_eq_bind, Option.bind_some, dropWhile_numeral a hblank,
    hmiddle, takeWhile_numeral a hblank, Text.numeral?_toString, takeWhile_numeral b hblank,
    dropWhile_numeral b hblank]
  exact if_pos rfl

theorem exists_toList_choice : ∃ rest, (target.choice a b).toList = 'i' :: rest := by
  rw [choice_eq]
  simp only [String.toList_append, List.append_assoc]
  exact ⟨_, rfl⟩

/-- A choice is no numeral. -/
@[simp] theorem numeral?_choice : Text.numeral? 10 (target.choice a b).toList = none := by
  obtain ⟨rest, hrest⟩ := exists_toList_choice target a b
  rw [hrest]
  rfl

theorem choice_ne_packSizeName : target.choice a b ≠ ModuleTarget.packSizeName := by
  intro heq
  obtain ⟨rest, hrest⟩ := exists_toList_choice target a b
  rw [heq, ModuleTarget.packSizeName] at hrest
  cases hrest

theorem toString_ne_packSizeName (n : Nat) : toString n ≠ ModuleTarget.packSizeName := by
  intro heq
  have hdigit : 'S'.isDigit = true := by
    apply Text.isDigit_of_mem_toString (n := n)
    rw [heq]
    decide
  cases hdigit

/-- The first declaration of the constant is that of the module. -/
@[simp] theorem findSome?_constantExpression? (bindings : Bindings) :
    (bindings.preludeSection target).findSome?
        (constantExpression? ModuleTarget.packSizeName)
      = some (target.choice target.packA target.packB).toList := by
  have hline : constantExpression? ModuleTarget.packSizeName
      ("pub const " ++ ModuleTarget.packSizeName ++ ": usize = "
        ++ target.choice target.packA target.packB ++ ";")
        = some (target.choice target.packA target.packB).toList := by
    have hhead : ("pub const " ++ ModuleTarget.packSizeName ++ ": usize = ").toList.isPrefixOf?
        ("pub const " ++ ModuleTarget.packSizeName ++ ": usize = "
          ++ target.choice target.packA target.packB ++ ";").toList
          = some ((target.choice target.packA target.packB).toList ++ ";".toList) := by
      rw [List.isPrefixOf?_eq_some_iff_append_eq]
      simp only [String.toList_append, List.append_assoc]
    have hend : ";".toList.isSuffixOf?
        ((target.choice target.packA target.packB).toList ++ ";".toList)
          = some (target.choice target.packA target.packB).toList :=
      List.isSuffixOf?_eq_some_iff_append_eq.mpr rfl
    simp only [constantExpression?, hhead, Option.bind_eq_bind, Option.bind_some, hend]
  have hfirst : constantExpression? ModuleTarget.packSizeName "" = none := by decide
  have htitle : constantExpression? ModuleTarget.packSizeName ("// " ++ "prelude") = none := by decide
  rw [Bindings.preludeSection, Bindings.titled]
  simp only [List.cons_append, List.nil_append, List.findSome?_cons, hfirst, htitle, hline]

/-- Every value is written as an expression that gives it back on each platform. -/
@[simp] theorem expressionValue?_valueText (bindings : Bindings) (value : PlatformNumber) :
    expressionValue? target.condition side (bindings.preludeSection target)
        (target.valueText value)
      = some (side.pick (value.split target.packA target.packB)) := by
  cases value with
  | literal n =>
    rw [ModuleTarget.valueText, expressionValue?, if_neg (toString_ne_packSizeName n),
      Text.numeral?_toString]
    cases side <;> rfl
  | conditional a b =>
    rw [ModuleTarget.valueText, expressionValue?, if_neg (choice_ne_packSizeName target a b),
      numeral?_choice, choiceValue?_choice]
    rfl
  | packSize =>
    rw [ModuleTarget.valueText, expressionValue?, if_pos rfl, findSome?_constantExpression?,
      Option.bind_some, choiceValue?_choice]
    rfl

/-- The condition of platform A is not taken for that of platform B, nor the other way. -/
theorem append_comma_ne_not_append (condition rest rest' : List Char) :
    condition ++ ',' :: rest ≠ "not(".toList ++ (condition ++ rest') := by
  induction hn : condition.length using Nat.strongRecOn generalizing condition rest rest' with
  | ind n ih =>
    intro heq
    match condition with
    | [] => simp at heq
    | [_] => simp at heq
    | [_, _] => simp at heq
    | [_, _, _] => simp at heq
    | c₁ :: c₂ :: c₃ :: c₄ :: condition' =>
      simp only [String.reduceToList, List.cons_append, List.nil_append, List.cons.injEq] at heq
      obtain ⟨rfl, rfl, rfl, rfl, htail⟩ := heq
      refine ih condition'.length ?_ condition' rest rest' rfl htail
      rw [← hn]
      simp only [List.length_cons]
      omega

@[simp] theorem packedAlign?_packed (n : Nat) :
    packedAlign? (ModuleTarget.packed n).toList = some n := by
  have hhead : "repr(C, packed(".toList.isPrefixOf? (ModuleTarget.packed n).toList
      = some ((toString n).toList ++ "))".toList) := by
    rw [List.isPrefixOf?_eq_some_iff_append_eq]
    simp only [packed_eq, String.toList_append, List.append_assoc]
  have hend : "))".toList.isSuffixOf? ((toString n).toList ++ "))".toList)
      = some (toString n).toList :=
    List.isSuffixOf?_eq_some_iff_append_eq.mpr rfl
  simp only [packedAlign?, hhead, Option.bind_eq_bind, Option.bind_some, hend,
    Text.numeral?_toString]

/-- What stands between the brackets of an attribute decides. -/
theorem attributeAlign?_eq (condition body : String) :
    attributeAlign? condition side ("#[" ++ body ++ "]")
      = (packedAlign? body.toList).or
          ((conditionalAttribute? condition side body.toList).bind packedAlign?) := by
  have hhead : "#[".toList.isPrefixOf? ("#[" ++ body ++ "]").toList
      = some (body.toList ++ "]".toList) := by
    rw [List.isPrefixOf?_eq_some_iff_append_eq]
    simp only [String.toList_append, List.append_assoc]
  have hend : "]".toList.isSuffixOf? (body.toList ++ "]".toList) = some body.toList :=
    List.isSuffixOf?_eq_some_iff_append_eq.mpr rfl
  simp only [attributeAlign?, hhead, Option.bind_eq_bind, Option.bind_some, hend]

/-- A conditional attribute applies on the platform whose condition it names. -/
theorem conditionalAttribute?_eq (condition body : String) :
    conditionalAttribute? condition side ("cfg_attr(" ++ body ++ ")").toList
      = match side with
        | .a => (condition ++ ", ").toList.isPrefixOf? body.toList
        | .b => ("not(" ++ condition ++ "), ").toList.isPrefixOf? body.toList := by
  have hhead : "cfg_attr(".toList.isPrefixOf? ("cfg_attr(" ++ body ++ ")").toList
      = some (body.toList ++ ")".toList) := by
    rw [List.isPrefixOf?_eq_some_iff_append_eq]
    simp only [String.toList_append, List.append_assoc]
  have hend : ")".toList.isSuffixOf? (body.toList ++ ")".toList) = some body.toList :=
    List.isSuffixOf?_eq_some_iff_append_eq.mpr rfl
  simp only [conditionalAttribute?, hhead, Option.bind_eq_bind, Option.bind_some, hend]

@[simp] theorem packedAlign?_conditional (body : String) :
    packedAlign? ("cfg_attr(" ++ body ++ ")").toList = none := by
  have hhead : ∃ rest, ("cfg_attr(" ++ body ++ ")").toList = 'c' :: rest :=
    ⟨_, by rw [String.toList_append, String.toList_append]; rfl⟩
  obtain ⟨rest, hrest⟩ := hhead
  rw [hrest]
  rfl

@[simp] theorem attributeAlign?_onA (condition : String) (n : Nat) :
    attributeAlign? condition side
        ("#[cfg_attr(" ++ condition ++ ", " ++ ModuleTarget.packed n ++ ")]")
      = if side = .a then some n else none := by
  have hline : "#[cfg_attr(" ++ condition ++ ", " ++ ModuleTarget.packed n ++ ")]"
      = "#[" ++ ("cfg_attr(" ++ (condition ++ ", " ++ ModuleTarget.packed n) ++ ")") ++ "]" := by
    apply String.ext
    simp
  rw [hline, attributeAlign?_eq, packedAlign?_conditional, conditionalAttribute?_eq]
  cases side with
  | a =>
    have hmatch : (condition ++ ", ").toList.isPrefixOf?
        (condition ++ ", " ++ ModuleTarget.packed n).toList
          = some (ModuleTarget.packed n).toList :=
      List.isPrefixOf?_eq_some_iff_append_eq.mpr (by simp)
    simp only [hmatch, Option.none_or, Option.bind_some, packedAlign?_packed, if_true]
  | b =>
    have hmatch : ("not(" ++ condition ++ "), ").toList.isPrefixOf?
        (condition ++ ", " ++ ModuleTarget.packed n).toList = none := by
      refine Option.eq_none_iff_forall_ne_some.mpr fun rest hrest => ?_
      have heq := List.isPrefixOf?_eq_some_iff_append_eq.mp hrest
      refine append_comma_ne_not_append condition.toList (' ' :: (ModuleTarget.packed n).toList)
        ("), ".toList ++ rest) ?_
      simpa using heq.symm
    simp only [hmatch, Option.none_or, Option.bind_none, reduceCtorEq, if_false]

@[simp] theorem attributeAlign?_onB (condition : String) (n : Nat) :
    attributeAlign? condition side
        ("#[cfg_attr(not(" ++ condition ++ "), " ++ ModuleTarget.packed n ++ ")]")
      = if side = .b then some n else none := by
  have hline : "#[cfg_attr(not(" ++ condition ++ "), " ++ ModuleTarget.packed n ++ ")]"
      = "#[" ++ ("cfg_attr(" ++ ("not(" ++ condition ++ "), " ++ ModuleTarget.packed n) ++ ")")
        ++ "]" := by
    apply String.ext
    simp
  rw [hline, attributeAlign?_eq, packedAlign?_conditional, conditionalAttribute?_eq]
  cases side with
  | a =>
    have hmatch : (condition ++ ", ").toList.isPrefixOf?
        ("not(" ++ condition ++ "), " ++ ModuleTarget.packed n).toList = none := by
      refine Option.eq_none_iff_forall_ne_some.mpr fun rest hrest => ?_
      have heq := List.isPrefixOf?_eq_some_iff_append_eq.mp hrest
      refine append_comma_ne_not_append condition.toList (' ' :: rest)
        ("), ".toList ++ (ModuleTarget.packed n).toList) ?_
      simpa using heq
    simp only [hmatch, Option.none_or, Option.bind_none, reduceCtorEq, if_false]
  | b =>
    have hmatch : ("not(" ++ condition ++ "), ").toList.isPrefixOf?
        ("not(" ++ condition ++ "), " ++ ModuleTarget.packed n).toList
          = some (ModuleTarget.packed n).toList :=
      List.isPrefixOf?_eq_some_iff_append_eq.mpr (by simp)
    simp only [hmatch, Option.none_or, Option.bind_some, packedAlign?_packed, if_true]

/-- The attributes of a struct give it on each platform the alignment that its value has there. -/
@[simp] theorem findSome?_packing (value : PlatformNumber) :
    (target.packing value).findSome? (attributeAlign? target.condition side)
      = some (side.pick (value.split target.packA target.packB)) := by
  cases value with
  | literal n =>
    rw [ModuleTarget.packing, List.findSome?_singleton, attributeAlign?_eq, packedAlign?_packed]
    cases side <;> rfl
  | conditional a b =>
    cases side <;> simp [ModuleTarget.packing, PlatformNumber.split, Side.pick]
  | packSize =>
    cases side <;> simp [ModuleTarget.packing, PlatformNumber.split, Side.pick]

end Target

end AbiBridge
