import AbiBridge.Constant.Enumerators
import AbiBridge.Proofs.Constant.EnumeratorLiteral
import Mathlib.Data.List.Infix
import Mathlib.Data.List.Nodup

/-!
# The constants of an enum

Which enumerators become constants, and which values these have. An enumerator gives way to a
constant with its name, and to any earlier enumerator with its literal, even if that one gave way
itself. So a number is lost if its first enumerator has a name that is taken. Constants have
different names and different numbers; a negative number and the unsigned one with the same bits
have the same value.
-/

namespace AbiBridge

open Constant

/-- The enumerator has a number that fits 32 bits, with a sign or without. -/
def EnumeratorValue.InRange (value : EnumeratorValue) : Prop :=
  ∃ n ∈ value.number?, -2 ^ 31 ≤ n ∧ n < 2 ^ 32

instance : DecidablePred EnumeratorValue.InRange := fun value =>
  inferInstanceAs (Decidable (∃ n ∈ value.number?, -2 ^ 31 ≤ n ∧ n < 2 ^ 32))

@[simp] theorem EnumeratorValue.isSome_literal?_iff {value : EnumeratorValue} :
    value.literal?.isSome ↔ value.InRange := by
  rw [literal?, InRange]
  cases value.number? with
  | none => simp
  | some n => simpa using isSome_enumeratorLiteral?_iff

/-- The constant that the enumerator becomes if nothing before it is in the way. -/
def EnumeratorDecl.constant? (decl : EnumeratorDecl) : Option Enumerator :=
  decl.value.literal?.map (⟨decl.name, ·⟩)

theorem EnumeratorDecl.constant?_eq_some_iff {decl : EnumeratorDecl} {constant : Enumerator} :
    decl.constant? = some constant
      ↔ decl.value.literal? = some constant.literal ∧ decl.name = constant.name := by
  obtain ⟨name, literal⟩ := constant
  simp [constant?, and_comm]

theorem EnumeratorDecl.exists_constant? {decl : EnumeratorDecl} (h : decl.value.InRange) :
    ∃ constant, decl.constant? = some constant := by
  obtain ⟨literal, hliteral⟩ := Option.isSome_iff_exists.mp (EnumeratorValue.isSome_literal?_iff.mpr h)
  exact ⟨⟨decl.name, literal⟩, constant?_eq_some_iff.mpr ⟨hliteral, rfl⟩⟩

section Run

variable {literals literals' : List EnumeratorLiteral} {names names' : List String}

/-- What is marked as seen counts as a set. -/
theorem enumeratorsFrom_congr (hliterals : ∀ literal, literal ∈ literals ↔ literal ∈ literals')
    (hnames : ∀ name, name ∈ names ↔ name ∈ names') (decls : List EnumeratorDecl) :
    enumeratorsFrom literals names decls = enumeratorsFrom literals' names' decls := by
  induction decls generalizing literals literals' names names' with
  | nil => rfl
  | cons decl decls ih =>
    rw [enumeratorsFrom, enumeratorsFrom]
    cases decl.value.literal? with
    | none => exact ih hliterals hnames
    | some literal =>
      have hmarked : ∀ other, other ∈ literal :: literals ↔ other ∈ literal :: literals' := by
        simp [hliterals]
      have htaken : ∀ other, other ∈ decl.name :: names ↔ other ∈ decl.name :: names' := by
        simp [hnames]
      simp only [hliterals, hnames, ih hliterals hnames, ih hmarked hnames, ih hmarked htaken]

/-- One enumerator marks its literal, and its name if it becomes a constant. -/
theorem enumeratorsFrom_cons (decl : EnumeratorDecl) (decls : List EnumeratorDecl) :
    enumeratorsFrom literals names (decl :: decls)
      = enumeratorsFrom literals names [decl]
        ++ enumeratorsFrom (literals ++ decl.value.literal?.toList)
          (names ++ (enumeratorsFrom literals names [decl]).map (·.name)) decls := by
  simp only [enumeratorsFrom]
  cases decl.value.literal? with
  | none => simp
  | some literal =>
    dsimp only
    split
    · next hseen =>
      apply enumeratorsFrom_congr <;> simp +contextual [hseen]
    · split
      · apply enumeratorsFrom_congr <;> simp [or_comm]
      · rw [List.singleton_append, List.cons_inj_right]
        apply enumeratorsFrom_congr <;> simp [or_comm]

def constantsOf (decls : List EnumeratorDecl) : List Enumerator :=
  enumeratorsFrom [] [] decls

theorem constantsOf_append (before after : List EnumeratorDecl) :
    constantsOf (before ++ after) = constantsOf before
      ++ enumeratorsFrom (before.filterMap (·.value.literal?))
          ((constantsOf before).map (·.name)) after := by
  induction before using List.reverseRecOn generalizing after with
  | nil => rfl
  | append_singleton before decl ih =>
    have hliteral : [decl].filterMap (·.value.literal?) = decl.value.literal?.toList := by
      rw [List.filterMap_cons]
      cases decl.value.literal? <;> rfl
    rw [List.append_assoc, List.singleton_append, ih, ih, enumeratorsFrom_cons, List.append_assoc,
      List.filterMap_append, List.map_append, hliteral]

end Run

/-- No enumerator has the literal of the constant, and no constant of theirs has its name. -/
def IsFree (decls : List EnumeratorDecl) (constant : Enumerator) : Prop :=
  (∀ decl ∈ decls, decl.value.literal? ≠ some constant.literal)
    ∧ ∀ earlier ∈ constantsOf decls, earlier.name ≠ constant.name

instance (decls : List EnumeratorDecl) : DecidablePred (IsFree decls) := fun _ =>
  inferInstanceAs (Decidable (_ ∧ _))

/-- The constant that the enumerator becomes after others. -/
def chosen? (before : List EnumeratorDecl) (decl : EnumeratorDecl) : Option Enumerator :=
  decl.constant?.filter fun constant => IsFree before constant

theorem constantsOf_concat (before : List EnumeratorDecl) (decl : EnumeratorDecl) :
    constantsOf (before ++ [decl]) = constantsOf before ++ (chosen? before decl).toList := by
  rw [constantsOf_append, List.append_right_inj, enumeratorsFrom, chosen?, EnumeratorDecl.constant?]
  cases decl.value.literal? with
  | none => rfl
  | some literal =>
    have hfree : IsFree before ⟨decl.name, literal⟩
        ↔ literal ∉ before.filterMap (·.value.literal?)
          ∧ decl.name ∉ (constantsOf before).map (·.name) := by
      simp [IsFree]
    simp only [enumeratorsFrom, Option.map_some, Option.filter_some, hfree, decide_eq_true_eq]
    split
    · next hseen => simp [hseen]
    · next hseen =>
      split
      · next htaken => simp [htaken]
      · next htaken => simp only [hseen, htaken, not_false_eq_true, and_self, if_true]; rfl

theorem constantsOf_isPrefix (before after : List EnumeratorDecl) :
    constantsOf before <+: constantsOf (before ++ after) := by
  rw [constantsOf_append]
  exact List.prefix_append _ _

section Account

variable {decls before after : List EnumeratorDecl} {decl : EnumeratorDecl}
  {constant : Enumerator} {literal : EnumeratorLiteral}

/-- The constants stand in the order of their enumerators. -/
theorem constantsOf_sublist (decls : List EnumeratorDecl) :
    (constantsOf decls).Sublist (decls.filterMap (·.constant?)) := by
  induction decls using List.reverseRecOn with
  | nil => exact List.Sublist.refl _
  | append_singleton decls decl ih =>
    have hchosen : (chosen? decls decl).toList.Sublist ([decl].filterMap (·.constant?)) := by
      rw [chosen?, List.filterMap_cons]
      cases decl.constant? with
      | none => exact List.Sublist.refl _
      | some constant =>
        rw [Option.filter_some]
        split
        · exact List.Sublist.refl _
        · exact List.nil_sublist _
    rw [constantsOf_concat, List.filterMap_append]
    exact ih.append hchosen

theorem exists_of_mem_constantsOf (h : constant ∈ constantsOf decls) :
    ∃ decl ∈ decls, decl.constant? = some constant :=
  List.mem_filterMap.mp ((constantsOf_sublist decls).subset h)

/-- An enumerator has the literal, and its name is that of a constant before it. -/
def IsSpent (decls : List EnumeratorDecl) (literal : EnumeratorLiteral) : Prop :=
  ∃ before decl after, decls = before ++ decl :: after ∧ decl.value.literal? = some literal
    ∧ ∃ earlier ∈ constantsOf before, earlier.name = decl.name

theorem IsSpent.append (h : IsSpent before literal) (after : List EnumeratorDecl) :
    IsSpent (before ++ after) literal := by
  obtain ⟨first, decl, rest, rfl, hdecl⟩ := h
  exact ⟨first, decl, rest ++ after, by simp, hdecl⟩

/-- The first enumerator with a literal is a constant, or its name was taken. -/
theorem exists_literal?_iff :
    (∃ decl ∈ decls, decl.value.literal? = some literal)
      ↔ (∃ constant ∈ constantsOf decls, constant.literal = literal) ∨ IsSpent decls literal := by
  constructor
  · induction decls using List.reverseRecOn with
    | nil => simp
    | append_singleton decls decl ih =>
      rintro ⟨other, hother, hliteral⟩
      by_cases hbefore : ∃ decl ∈ decls, decl.value.literal? = some literal
      · rcases ih hbefore with ⟨constant, hconstant, heq⟩ | hspent
        · exact .inl ⟨constant, (constantsOf_isPrefix decls _).subset hconstant, heq⟩
        · exact .inr (hspent.append _)
      · obtain rfl : other = decl := by
          rcases List.mem_append.mp hother with hmem | hmem
          · exact absurd ⟨other, hmem, hliteral⟩ hbefore
          · exact List.mem_singleton.mp hmem
        have hconstant : other.constant? = some ⟨other.name, literal⟩ :=
          EnumeratorDecl.constant?_eq_some_iff.mpr ⟨hliteral, rfl⟩
        by_cases htaken : ∃ earlier ∈ constantsOf decls, earlier.name = other.name
        · exact .inr ⟨decls, other, [], rfl, hliteral, htaken⟩
        · have hfree : IsFree decls ⟨other.name, literal⟩ :=
            ⟨fun decl hdecl heq => hbefore ⟨decl, hdecl, heq⟩,
              fun earlier hearlier heq => htaken ⟨earlier, hearlier, heq⟩⟩
          have hchosen : chosen? decls other = some ⟨other.name, literal⟩ :=
            Option.filter_eq_some_iff.mpr ⟨hconstant, decide_eq_true hfree⟩
          rw [constantsOf_concat, hchosen]
          exact .inl ⟨_, List.mem_append_right _ (List.mem_singleton_self _), rfl⟩
  · rintro (⟨constant, hconstant, rfl⟩ | ⟨before, decl, after, rfl, hliteral, -⟩)
    · obtain ⟨decl, hdecl, heq⟩ := exists_of_mem_constantsOf hconstant
      exact ⟨decl, hdecl, (EnumeratorDecl.constant?_eq_some_iff.mp heq).1⟩
    · exact ⟨decl, by simp, hliteral⟩

/-- A constant before has the text or the name of this one, or the literal is spent. -/
def GivesWay (before : List EnumeratorDecl) (constant : Enumerator) : Prop :=
  (∃ earlier ∈ constantsOf before,
      earlier.literal.text = constant.literal.text ∨ earlier.name = constant.name)
    ∨ IsSpent before constant.literal

theorem givesWay_iff_not_isFree : GivesWay before constant ↔ ¬ IsFree before constant := by
  have hliteral : (∃ decl ∈ before, decl.value.literal? = some constant.literal)
      ↔ (∃ earlier ∈ constantsOf before, earlier.literal = constant.literal)
        ∨ IsSpent before constant.literal := exists_literal?_iff
  simp only [EnumeratorLiteral.text_inj, GivesWay, and_or_left, exists_or]
  rw [or_right_comm, ← hliteral, IsFree]
  simp only [not_and_or, not_forall, ne_eq, not_not, exists_prop]

end Account

/-- An enumerator in range becomes a constant unless a constant before it has its expression or
its name, or an enumerator with its number gave way to a constant with the name of that. The other
enumerators are reported in their order, and the constants stand in the order of declaration. -/
theorem EnumDecl.enumerators_account (decl : EnumDecl) (owner : String) :
    (∀ before value after, decl.values = before ++ value :: after →
        constantsOf (before ++ [value]) <+: decl.enumerators
          ∧ (¬ value.value.InRange → constantsOf (before ++ [value]) = constantsOf before)
          ∧ (value.value.InRange → ∃ constant, value.constant? = some constant
            ∧ (GivesWay before constant
              → constantsOf (before ++ [value]) = constantsOf before)
            ∧ (¬ GivesWay before constant
              → constantsOf (before ++ [value]) = constantsOf before ++ [constant])))
      ∧ decl.enumerators.Sublist (decl.values.filterMap (·.constant?))
      ∧ decl.issues owner = (decl.values.filter fun value => ¬ value.value.InRange).map
          fun value => .enumeratorTooWide owner value.name value.value.expression := by
  refine ⟨?_, constantsOf_sublist decl.values, ?_⟩
  · intro before value after hvalues
    refine ⟨?_, ?_, ?_⟩
    · have hstart := constantsOf_isPrefix (before ++ [value]) after
      rwa [List.append_assoc, List.singleton_append, ← hvalues] at hstart
    · intro hrange
      rw [← EnumeratorValue.isSome_literal?_iff, Option.not_isSome_iff_eq_none] at hrange
      rw [constantsOf_concat, chosen?, EnumeratorDecl.constant?, hrange]
      simp
    · intro hrange
      obtain ⟨constant, hconstant⟩ := EnumeratorDecl.exists_constant? hrange
      refine ⟨constant, hconstant, ?_, ?_⟩
      · intro htaken
        rw [givesWay_iff_not_isFree] at htaken
        rw [constantsOf_concat, chosen?, hconstant, Option.filter_some,
          if_neg (by simpa using htaken), Option.toList_none, List.append_nil]
      · intro hfree
        rw [givesWay_iff_not_isFree, not_not] at hfree
        rw [constantsOf_concat, chosen?, hconstant, Option.filter_some,
          if_pos (decide_eq_true hfree), Option.toList_some]
  · rw [issues]
    congr 1
    refine List.filter_congr fun value _ => ?_
    rw [Bool.eq_iff_iff, decide_eq_true_eq, ← EnumeratorValue.isSome_literal?_iff,
      Option.isNone_iff_eq_none, Option.not_isSome_iff_eq_none]

/-- Enumerators of which the second repeats the first and the last is out of range. -/
def stateEnum : EnumDecl where
  name := "EState"
  values := [⟨"k_EStateNone", .signed 0⟩, ⟨"k_EStateDefault", .text "0"⟩,
    ⟨"k_EStateMax", .text "0x7fffffff"⟩, ⟨"k_EStateHuge", .unsigned 1099511627776⟩]

theorem EnumDecl.enumerators_account_state :
    constantsOf (stateEnum.values.take 3)
        = constantsOf (stateEnum.values.take 2) ++ [⟨"k_EStateMax", .signed 2147483647⟩]
      ∧ constantsOf (stateEnum.values.take 3) <+: stateEnum.enumerators := by
  obtain ⟨hstart, -, hrange⟩ := (enumerators_account stateEnum "EState").1
    (stateEnum.values.take 2) ⟨"k_EStateMax", .text "0x7fffffff"⟩
    [⟨"k_EStateHuge", .unsigned 1099511627776⟩] rfl
  obtain ⟨constant, hconstant, -, hadded⟩ := hrange (by decide +kernel)
  obtain rfl : constant = ⟨"k_EStateMax", .signed 2147483647⟩ := by
    have hmax : (⟨"k_EStateMax", .text "0x7fffffff"⟩ : EnumeratorDecl).constant?
        = some ⟨"k_EStateMax", .signed 2147483647⟩ := by decide +kernel
    exact Option.some.inj (hconstant.symm.trans hmax)
  refine ⟨hadded ?_, hstart⟩
  rw [givesWay_iff_not_isFree, not_not]
  decide +kernel

/-- Enumerators of which the second repeats the name of the first, and the third the number of
the second. -/
def modeEnum : EnumDecl where
  name := "EMode"
  values := [⟨"k_EModeOff", .signed 0⟩, ⟨"k_EModeOff", .signed 1⟩, ⟨"k_EModeOn", .signed 1⟩]

/-- The second enumerator is no constant, but the third gives way to it. -/
theorem EnumDecl.enumerators_lost :
    ∃ value ∈ modeEnum.values, value.value.InRange
      ∧ ∃ constant, value.constant? = some constant ∧ constant ∉ modeEnum.enumerators
        ∧ ∀ other ∈ modeEnum.enumerators,
          other.literal.text ≠ constant.literal.text ∧ other.name ≠ constant.name :=
  ⟨⟨"k_EModeOn", .signed 1⟩, by decide, by decide, ⟨"k_EModeOn", .signed 1⟩, by decide, by decide,
    by decide⟩

theorem pairwise_constantsOf (decls : List EnumeratorDecl) :
    (constantsOf decls).Pairwise fun first second =>
      first.name ≠ second.name ∧ first.literal ≠ second.literal := by
  induction decls using List.reverseRecOn with
  | nil => exact List.Pairwise.nil
  | append_singleton decls decl ih =>
    rw [constantsOf_concat, List.pairwise_append]
    refine ⟨ih, ?_, ?_⟩
    · cases chosen? decls decl <;> simp
    · intro earlier hearlier constant hconstant
      have hfree := (Option.filter_eq_some_iff.mp (Option.mem_toList.mp hconstant)).2
      obtain ⟨hliteral, hname⟩ := of_decide_eq_true hfree
      obtain ⟨decl, hdecl, hmade⟩ := exists_of_mem_constantsOf hearlier
      refine ⟨hname earlier hearlier, fun heq => hliteral decl hdecl ?_⟩
      rw [(EnumeratorDecl.constant?_eq_some_iff.mp hmade).1, heq]

/-- A constant has the number of an enumerator with its name. -/
theorem exists_number_of_mem_constantsOf {decls : List EnumeratorDecl} {constant : Enumerator}
    (h : constant ∈ constantsOf decls) :
    ∃ decl ∈ decls, decl.name = constant.name
      ∧ decl.value.number? = some constant.literal.number
      ∧ enumeratorLiteral? constant.literal.number = some constant.literal := by
  obtain ⟨decl, hdecl, hmade⟩ := exists_of_mem_constantsOf h
  obtain ⟨hliteral, hname⟩ := EnumeratorDecl.constant?_eq_some_iff.mp hmade
  obtain ⟨n, hn, hmade⟩ := Option.bind_eq_some_iff.mp hliteral
  obtain rfl := number_of_enumeratorLiteral? hmade
  exact ⟨decl, hdecl, hname, hn, hmade⟩

/-- Constants have different names and expressions, and the value of each is the number of its
enumerator, wrapped. Two have the same value exactly if their numbers differ by the number of
words of 32 bits. -/
theorem EnumDecl.enumerators_values (decl : EnumDecl) :
    (decl.enumerators.map (·.name)).Nodup
      ∧ (∀ constant ∈ decl.enumerators, ∃ value ∈ decl.values, value.name = constant.name
        ∧ value.value.number? = some constant.literal.number
        ∧ wordValue? constant.literal.text = some (Word.wrap 32 constant.literal.number))
      ∧ decl.enumerators.Pairwise fun first second =>
        first.literal.text ≠ second.literal.text
          ∧ (wordValue? first.literal.text = wordValue? second.literal.text
            ↔ first.literal.number = second.literal.number + 2 ^ 32
              ∨ second.literal.number = first.literal.number + 2 ^ 32) := by
  have hpairs := pairwise_constantsOf decl.values
  have hnumbers : ∀ constant ∈ decl.enumerators, ∃ value ∈ decl.values,
      value.name = constant.name ∧ value.value.number? = some constant.literal.number
        ∧ enumeratorLiteral? constant.literal.number = some constant.literal :=
    fun _ => exists_number_of_mem_constantsOf
  refine ⟨List.pairwise_map.mpr (hpairs.imp And.left), ?_, ?_⟩
  · intro constant hconstant
    obtain ⟨value, hvalue, hname, hnumber, hliteral⟩ := hnumbers constant hconstant
    exact ⟨value, hvalue, hname, hnumber, wordValue?_text hliteral⟩
  · apply List.Pairwise.imp_of_mem _ hpairs
    intro first second hfirst hsecond hne
    obtain ⟨-, -, -, -, hfirst⟩ := hnumbers first hfirst
    obtain ⟨-, -, -, -, hsecond⟩ := hnumbers second hsecond
    have hnumber : first.literal.number ≠ second.literal.number := by
      intro heq
      rw [heq, hsecond] at hfirst
      exact hne.2 (Option.some.inj hfirst).symm
    have hbounds := wrap_eq_wrap_iff
      (isSome_enumeratorLiteral?_iff.mp (Option.isSome_of_eq_some hfirst))
      (isSome_enumeratorLiteral?_iff.mp (Option.isSome_of_eq_some hsecond))
    refine ⟨fun heq => hne.2 (EnumeratorLiteral.text_inj.mp heq), ?_⟩
    rw [wordValue?_text hfirst, wordValue?_text hsecond, Option.some.injEq, hbounds,
      or_iff_right hnumber]

/-- Enumerators with a negative number and one that wraps. -/
def flagEnum : EnumDecl where
  name := "EFlag"
  values := [⟨"k_EFlagNone", .signed 0⟩, ⟨"k_EFlagAll", .text "~0"⟩,
    ⟨"k_EFlagTop", .unsigned 2147483648⟩]

theorem EnumDecl.enumerators_values_flag :
    ⟨"k_EFlagTop", .wrapped 2147483648⟩ ∈ flagEnum.enumerators
      ∧ wordValue? (EnumeratorLiteral.wrapped 2147483648).text = some (-2147483648) := by
  have hmem : ⟨"k_EFlagTop", .wrapped 2147483648⟩ ∈ flagEnum.enumerators := by decide +kernel
  obtain ⟨-, -, -, -, hvalue⟩ := (enumerators_values flagEnum).2.1 _ hmem
  exact ⟨hmem, hvalue⟩

/-- Enumerators whose numbers have the same bits. -/
def maskEnum : EnumDecl where
  name := "EMask"
  values := [⟨"k_EMaskNone", .signed (-1)⟩, ⟨"k_EMaskAll", .unsigned 4294967295⟩]

/-- Both enumerators are constants, of one value. -/
theorem EnumDecl.enumerators_same_value :
    maskEnum.enumerators.map (·.name) = ["k_EMaskNone", "k_EMaskAll"]
      ∧ ¬ (maskEnum.enumerators.map fun constant => wordValue? constant.literal.text).Nodup := by
  decide +kernel

end AbiBridge
