import AbiBridge.Proofs.Generate.CallbackUnion

/-!
# Who gets the number of a callback

Every struct that carries a number becomes a callback or is rejected, and what becomes of it
depends on the structs before it that became callbacks. The numbers that are marked as taken
are at any time those of the callbacks made so far.
-/

namespace AbiBridge

variable {index : Index} {deny : List String} {item : StructItem} {id : Int} {first : String}

/-- The type is, if only inside arrays, one that cannot be made from bytes. -/
inductive NotFromBytes (index : Index) : CType → Prop
  | slice {element : CType} {isConst : Bool} : NotFromBytes index (.slice element isConst)
  | zeroTerminated {element : CType} : NotFromBytes index (.zeroTerminated element)
  | interface {name : String} (h : index.kind? name = some .interface) :
      NotFromBytes index (.named name)
  | opaqueType {name : String} (h : index.kind? name = some .opaqueType) :
      NotFromBytes index (.named name)
  | array {element : CType} {length : Nat} (h : NotFromBytes index element) :
      NotFromBytes index (.array element length)

theorem cannotBeBytes_eq_true_iff {type : CType} :
    cannotBeBytes index type = true ↔ NotFromBytes index type := by
  constructor
  · intro h
    fun_induction cannotBeBytes index type with
    | case1 => exact .slice
    | case2 => exact .zeroTerminated
    | case3 element length ih => exact .array (ih h)
    | case4 name =>
      rcases Bool.or_eq_true_iff.mp h with h | h
      · exact .interface (beq_iff_eq.mp h)
      · exact .opaqueType (beq_iff_eq.mp h)
    | case5 => cases h
  · intro h
    induction h with
    | slice => rfl
    | zeroTerminated => rfl
    | interface h => rw [cannotBeBytes, h]; rfl
    | opaqueType h => rw [cannotBeBytes, h]; rfl
    | array _ ih => rw [cannotBeBytes, ih]

/-- The field is the first of the struct that cannot be made from bytes. -/
def StructItem.IsFirstNotFromBytes (item : StructItem) (index : Index) (field : FieldItem) : Prop :=
  NotFromBytes index field.type ∧ ∃ before after, item.fields = before ++ field :: after
    ∧ ∀ earlier ∈ before, ¬ NotFromBytes index earlier.type

theorem find?_cannotBeBytes_eq_some_iff {field : FieldItem} :
    (item.fields.find? fun field => cannotBeBytes index field.type) = some field
      ↔ item.IsFirstNotFromBytes index field := by
  rw [List.find?_eq_some_iff_append, StructItem.IsFirstNotFromBytes]
  simp only [cannotBeBytes_eq_true_iff, Bool.not_eq_true', ← Bool.not_eq_true]

theorem find?_cannotBeBytes_eq_none_iff :
    (item.fields.find? fun field => cannotBeBytes index field.type) = none
      ↔ ∀ field ∈ item.fields, ¬ NotFromBytes index field.type := by
  rw [List.find?_eq_none]
  simp only [cannotBeBytes_eq_true_iff]

abbrev Decisions := List (StructItem × CallbackOutcome)

variable {before decided : Decisions} {outcome : CallbackOutcome}

def HasNumber (decided : Decisions) (id : Int) (name : String) : Prop :=
  ∃ item callback, (item, .accepted callback) ∈ decided ∧ item.callbackId = some id
    ∧ item.name = name

/-- What becomes of a struct after the decisions on those before it, each outcome with the
reason for it. -/
structure IsDecision (index : Index) (deny : List String) (before : Decisions) (item : StructItem)
    (id : Int) (outcome : CallbackOutcome) : Prop where
  idTaken_iff : ∀ first, outcome = .rejected item.name (.callbackIdTaken id first item.name)
    ↔ HasNumber before id first
  notFromBytes_iff : ∀ field type,
    outcome = .rejected item.name (.payloadNotFromBytes item.name field type)
      ↔ (∀ first, ¬ HasNumber before id first)
        ∧ ∃ first, item.IsFirstNotFromBytes index first
          ∧ first.name = field ∧ first.type.cText = type
  accepted_iff : outcome = .accepted (item.toCallback id deny)
    ↔ (∀ first, ¬ HasNumber before id first)
      ∧ ∀ field ∈ item.fields, ¬ NotFromBytes index field.type

/-- The taken numbers are those of the callbacks so far. -/
def Tracks (taken : List (Int × String)) (before : Decisions) : Prop :=
  ∀ id first, taken.lookup id = some first ↔ HasNumber before id first

theorem Tracks.free_iff {taken : List (Int × String)} (htracks : Tracks taken before) :
    taken.lookup id = none ↔ ∀ first, ¬ HasNumber before id first := by
  rw [Option.eq_none_iff_forall_ne_some]
  exact forall_congr' fun first => not_congr (htracks id first)

theorem tracks_nil : Tracks [] [] :=
  fun _ _ => ⟨nofun, fun ⟨_, _, hmem, _⟩ => absurd hmem List.not_mem_nil⟩

@[simp] theorem hasNumber_append_rejected {payload : String} {issue : Issue} :
    HasNumber (before ++ [(item, .rejected payload issue)]) id first
      ↔ HasNumber before id first := by
  simp [HasNumber]

/-- A rejection takes no number. -/
theorem Tracks.rejected {taken : List (Int × String)} (htracks : Tracks taken before)
    {payload : String} {issue : Issue} :
    Tracks taken (before ++ [(item, .rejected payload issue)]) :=
  fun id first => (htracks id first).trans hasNumber_append_rejected.symm

/-- A callback takes its number, which was free. -/
theorem Tracks.accepted {taken : List (Int × String)} (htracks : Tracks taken before)
    (hid : item.callbackId = some id) (hfree : taken.lookup id = none) {callback : Callback} :
    Tracks ((id, item.name) :: taken) (before ++ [(item, .accepted callback)]) := by
  have hother : ∀ other first, HasNumber (before ++ [(item, .accepted callback)]) other first
      ↔ HasNumber before other first ∨ other = id ∧ item.name = first := by
    intro other first
    simp [HasNumber, or_and_right, exists_or, hid, eq_comm]
  intro other first
  rw [hother, List.lookup_cons]
  by_cases heq : other = id
  · subst heq
    have hnone := htracks.free_iff.mp hfree first
    simp [hnone]
  · rw [beq_eq_false_iff_ne.mpr heq]
    simp [heq, htracks other first]

section Decide

variable {taken : List (Int × String)}

theorem isDecision_idTaken (htracks : Tracks taken before) (htaken : taken.lookup id = some first) :
    IsDecision index deny before item id
      (.rejected item.name (.callbackIdTaken id first item.name)) := by
  have hheld := (htracks id first).mp htaken
  constructor
  case idTaken_iff =>
    intro other
    rw [← htracks id other, htaken]
    simp
  case notFromBytes_iff => exact fun _ _ => ⟨nofun, fun h => absurd hheld (h.1 first)⟩
  case accepted_iff => exact ⟨nofun, fun h => absurd hheld (h.1 first)⟩

theorem isDecision_notFromBytes (htracks : Tracks taken before) (hfree : taken.lookup id = none)
    {field : FieldItem} (hfield : item.IsFirstNotFromBytes index field) :
    IsDecision index deny before item id
      (.rejected item.name (.payloadNotFromBytes item.name field.name field.type.cText)) := by
  have hnone := htracks.free_iff.mp hfree
  constructor
  case idTaken_iff => exact fun first => ⟨nofun, fun h => absurd h (hnone first)⟩
  case notFromBytes_iff =>
    intro name type
    constructor
    · intro h
      cases h
      exact ⟨hnone, field, hfield, rfl, rfl⟩
    · rintro ⟨-, other, hother, rfl, rfl⟩
      have hsame := (find?_cannotBeBytes_eq_some_iff.mpr hfield).symm.trans
        (find?_cannotBeBytes_eq_some_iff.mpr hother)
      cases hsame
      rfl
  case accepted_iff =>
    obtain ⟨hbytes, earlier, later, hfields, -⟩ := hfield
    exact ⟨nofun, fun h => absurd hbytes (h.2 field (hfields ▸ by simp))⟩

theorem isDecision_accepted (htracks : Tracks taken before) (hfree : taken.lookup id = none)
    (hbytes : ∀ field ∈ item.fields, ¬ NotFromBytes index field.type) :
    IsDecision index deny before item id (.accepted (item.toCallback id deny)) := by
  have hnone := htracks.free_iff.mp hfree
  constructor
  case idTaken_iff => exact fun first => ⟨nofun, fun h => absurd h (hnone first)⟩
  case notFromBytes_iff =>
    rintro field type
    refine ⟨nofun, ?_⟩
    rintro ⟨-, other, ⟨hother, earlier, later, hfields, -⟩, -⟩
    exact absurd hother (hbytes other (hfields ▸ by simp))
  case accepted_iff => exact ⟨fun _ => ⟨hnone, hbytes⟩, fun _ => rfl⟩

/-- One decision, and the numbers that are taken after it. -/
theorem exists_isDecision (htracks : Tracks taken before) (hid : item.callbackId = some id)
    (items : List StructItem) :
    ∃ outcome taken', IsDecision index deny before item id outcome
      ∧ Tracks taken' (before ++ [(item, outcome)])
      ∧ decideFrom index deny taken (item :: items)
        = outcome :: decideFrom index deny taken' items := by
  rw [decideFrom, hid]
  cases htaken : taken.lookup id with
  | some first =>
    exact ⟨_, taken, isDecision_idTaken htracks htaken, htracks.rejected, by simp [htaken]⟩
  | none =>
    cases hfind : item.fields.find? fun field => cannotBeBytes index field.type with
    | some field =>
      have hfield := find?_cannotBeBytes_eq_some_iff.mp hfind
      exact ⟨_, taken, isDecision_notFromBytes htracks htaken hfield, htracks.rejected,
        by simp [htaken]⟩
    | none =>
      have hbytes := find?_cannotBeBytes_eq_none_iff.mp hfind
      exact ⟨_, _, isDecision_accepted htracks htaken hbytes, htracks.accepted hid htaken,
        by simp [htaken]⟩

/-- The decisions on all structs that carry a number, each right after those before it. -/
def AreDecisions (index : Index) (deny : List String) (before decided : Decisions) : Prop :=
  ∀ middle item outcome after, decided = middle ++ (item, outcome) :: after →
    ∀ id, item.callbackId = some id → IsDecision index deny (before ++ middle) item id outcome

theorem AreDecisions.cons (hid : item.callbackId = some id)
    (hhead : IsDecision index deny before item id outcome)
    (htail : AreDecisions index deny (before ++ [(item, outcome)]) decided) :
    AreDecisions index deny before ((item, outcome) :: decided) := by
  intro middle other result after hsplit id' hid'
  rcases List.cons_eq_append_iff.mp hsplit with ⟨rfl, heq⟩ | ⟨middle, rfl, heq⟩
  · cases heq
    cases hid.symm.trans hid'
    rwa [List.append_nil]
  · have hdecision := htail middle other result after heq id' hid'
    rwa [List.append_assoc] at hdecision

theorem exists_areDecisions (index : Index) (deny : List String) (htracks : Tracks taken before)
    (items : List StructItem) :
    ∃ decided : Decisions, decided.map (·.1) = items.filter (·.callbackId.isSome)
      ∧ decided.map (·.2) = decideFrom index deny taken items
      ∧ AreDecisions index deny before decided := by
  induction items generalizing taken before with
  | nil => exact ⟨[], rfl, rfl, fun middle _ _ _ h => by cases middle <;> cases h⟩
  | cons item items ih =>
    cases hid : item.callbackId with
    | none =>
      obtain ⟨decided, hitems, houtcomes, hdecided⟩ := ih htracks
      refine ⟨decided, ?_, ?_, hdecided⟩
      · rw [hitems, List.filter_cons_of_neg (by rw [hid]; nofun)]
      · rw [houtcomes, decideFrom, hid]
    | some id =>
      obtain ⟨outcome, taken', hhead, htracks', hstep⟩ := exists_isDecision htracks hid items
      obtain ⟨decided, hitems, houtcomes, hdecided⟩ := ih htracks'
      refine ⟨(item, outcome) :: decided, ?_, ?_, hdecided.cons hid hhead⟩
      · rw [List.map_cons, hitems, List.filter_cons_of_pos (by rw [hid]; rfl)]
      · rw [List.map_cons, houtcomes, hstep]

end Decide

theorem HasNumber.mono {decided' : Decisions} (h : HasNumber decided id first)
    (hsubset : decided ⊆ decided') : HasNumber decided' id first :=
  have ⟨item, callback, hmem, hid, hname⟩ := h
  ⟨item, callback, hsubset hmem, hid, hname⟩

theorem mem_rejectedNames_iff_exists {outcomes : List CallbackOutcome} {name : String} :
    name ∈ rejectedNames outcomes ↔ ∃ issue, .rejected name issue ∈ outcomes := by
  rw [rejectedNames, List.mem_map]
  constructor
  · rintro ⟨issue, hissue, rfl⟩
    obtain ⟨outcome, houtcome, hrejected⟩ := List.mem_filterMap.mp hissue
    cases outcome with
    | accepted callback => cases hrejected
    | rejected payload issue =>
      cases hrejected
      exact ⟨_, houtcome⟩
  · rintro ⟨issue, hissue⟩
    exact ⟨⟨name, issue⟩, List.mem_filterMap.mpr ⟨_, hissue, rfl⟩, rfl⟩

/-- There are three outcomes, and a struct has one of them. -/
theorem IsDecision.outcome_cases (h : IsDecision index deny before item id outcome) :
    (∃ first, HasNumber before id first
        ∧ outcome = .rejected item.name (.callbackIdTaken id first item.name))
      ∨ (∃ field ∈ item.fields, NotFromBytes index field.type
        ∧ outcome = .rejected item.name
          (.payloadNotFromBytes item.name field.name field.type.cText))
      ∨ (∀ field ∈ item.fields, ¬ NotFromBytes index field.type)
        ∧ outcome = .accepted (item.toCallback id deny) := by
  by_cases hheld : ∃ first, HasNumber before id first
  · obtain ⟨first, hfirst⟩ := hheld
    exact .inl ⟨first, hfirst, (h.idTaken_iff first).mpr hfirst⟩
  · have hfree := not_exists.mp hheld
    cases hfind : item.fields.find? fun field => cannotBeBytes index field.type with
    | some field =>
      have hfield := find?_cannotBeBytes_eq_some_iff.mp hfind
      exact .inr (.inl ⟨field, List.mem_of_find?_eq_some hfind, hfield.1,
        (h.notFromBytes_iff _ _).mpr ⟨hfree, field, hfield, rfl, rfl⟩⟩)
    | none =>
      have hbytes := find?_cannotBeBytes_eq_none_iff.mp hfind
      exact .inr (.inr ⟨hbytes, h.accepted_iff.mpr ⟨hfree, hbytes⟩⟩)

section Rejected

variable {items : List StructItem}

/-- Whoever is rejected has a field that cannot be made from bytes, or comes after another struct
with its number that has none. -/
theorem exists_of_mem_rejected {issue : EntityIssue}
    (h : issue ∈ (chooseCallbacks items index deny).rejected) :
    ∃ item ∈ items, ∃ id, item.callbackId = some id ∧ item.name = issue.entity
      ∧ ((∃ field ∈ item.fields, NotFromBytes index field.type)
        ∨ ∃ first, [first, item].Sublist items ∧ first.callbackId = some id
          ∧ (∀ field ∈ first.fields, ¬ NotFromBytes index field.type)
          ∧ issue.issue = .callbackIdTaken id first.name item.name) := by
  obtain ⟨decided, hitems, houtcomes, hdecided⟩ := exists_areDecisions index deny tracks_nil items
  obtain ⟨outcome, houtcome, hrejected⟩ := List.mem_filterMap.mp h
  rw [← houtcomes] at houtcome
  obtain ⟨⟨item, outcome⟩, hmem, rfl⟩ := List.mem_map.mp houtcome
  have hcarries : ∀ decision ∈ decided, decision.1 ∈ items
      ∧ ∃ id, decision.1.callbackId = some id := by
    intro decision hdecision
    have hitem := List.mem_map_of_mem (f := (·.1)) hdecision
    rw [hitems, List.mem_filter, Option.isSome_iff_exists] at hitem
    exact hitem
  obtain ⟨hitem, id, hid⟩ := hcarries _ hmem
  obtain ⟨before, after, rfl⟩ := List.append_of_mem hmem
  refine ⟨item, hitem, id, hid, ?_⟩
  rcases (hdecided before item outcome after rfl id hid).outcome_cases with
    ⟨first, ⟨holder, callback, hholder, hnumber, rfl⟩, rfl⟩ | ⟨field, hfield, hbytes, rfl⟩ | ⟨-, rfl⟩
  · cases hrejected
    refine ⟨rfl, .inr ⟨holder, ?_, hnumber, ?_, rfl⟩⟩
    · have hpair : [(holder, .accepted callback), (item, .rejected item.name
          (.callbackIdTaken id holder.name item.name))].Sublist (before ++ (item, .rejected item.name
            (.callbackIdTaken id holder.name item.name)) :: after) :=
        List.Sublist.append (List.singleton_sublist.mpr hholder)
          (List.singleton_sublist.mpr List.mem_cons_self)
      have hnames := hpair.map (·.1)
      rw [hitems] at hnames
      exact hnames.trans List.filter_sublist
    · obtain ⟨earlier, later, rfl⟩ := List.append_of_mem hholder
      have hdecision := hdecided earlier holder (.accepted callback) _ (List.append_assoc ..)
        id hnumber
      rcases hdecision.outcome_cases with ⟨_, -, heq⟩ | ⟨_, _, -, heq⟩ | ⟨hbytes, -⟩
      · cases heq
      · cases heq
      · exact hbytes
  · cases hrejected
    exact ⟨rfl, .inl ⟨field, hfield, hbytes⟩⟩
  · cases hrejected

/-- A decision that is no callback is a rejection. -/
theorem IsDecision.eq_rejected (h : IsDecision index deny before item id outcome)
    (hnot : outcome ≠ .accepted (item.toCallback id deny)) :
    ∃ issue, outcome = .rejected item.name issue := by
  rcases h.outcome_cases with ⟨_, -, heq⟩ | ⟨_, _, -, heq⟩ | ⟨-, heq⟩
  · exact ⟨_, heq⟩
  · exact ⟨_, heq⟩
  · exact absurd heq hnot

theorem mem_rejectedNames_of_notFromBytes (hitem : item ∈ items) (hid : item.callbackId = some id)
    {field : FieldItem} (hfield : field ∈ item.fields) (hbytes : NotFromBytes index field.type) :
    item.name ∈ rejectedNames (decideFrom index deny [] items) := by
  obtain ⟨decided, hitems, houtcomes, hdecided⟩ := exists_areDecisions index deny tracks_nil items
  have hnumbered : item ∈ decided.map (·.1) := by
    rw [hitems, List.mem_filter, hid]
    exact ⟨hitem, rfl⟩
  obtain ⟨⟨item, outcome⟩, hmem, rfl⟩ := List.mem_map.mp hnumbered
  obtain ⟨before, after, rfl⟩ := List.append_of_mem hmem
  have hdecision := hdecided before item outcome after rfl id hid
  obtain ⟨issue, rfl⟩ := hdecision.eq_rejected fun heq =>
    (hdecision.accepted_iff.mp heq).2 field hfield hbytes
  rw [mem_rejectedNames_iff_exists, ← houtcomes]
  exact ⟨issue, List.mem_map_of_mem (f := (·.2)) hmem⟩

/-- Behind a struct with its number that can be made from bytes every struct is rejected: that
one has the number, or another one before it. -/
theorem mem_rejectedNames_of_sublist {holder : StructItem} (hpair : [holder, item].Sublist items)
    (hholder : holder.callbackId = some id) (hid : item.callbackId = some id)
    (hbytes : ∀ field ∈ holder.fields, ¬ NotFromBytes index field.type) :
    item.name ∈ rejectedNames (decideFrom index deny [] items) := by
  obtain ⟨decided, hitems, houtcomes, hdecided⟩ := exists_areDecisions index deny tracks_nil items
  have hsub : [holder, item].Sublist (decided.map (·.1)) := by
    have hfilter := hpair.filter (·.callbackId.isSome)
    rwa [List.filter_cons_of_pos (by rw [hholder]; rfl), List.filter_cons_of_pos (by rw [hid]; rfl),
      List.filter_nil, ← hitems] at hfilter
  obtain ⟨left, right, hsplit, hleft, hright⟩ := List.cons_sublist_iff.mp hsub
  obtain ⟨early, late, rfl, rfl, rfl⟩ := List.map_eq_append_iff.mp hsplit
  obtain ⟨⟨holder, first⟩, hfirst, rfl⟩ := List.mem_map.mp hleft
  obtain ⟨⟨item, outcome⟩, hmem, rfl⟩ := List.mem_map.mp (List.singleton_sublist.mp hright)
  obtain ⟨start, middle, rfl⟩ := List.append_of_mem hfirst
  obtain ⟨between, after, rfl⟩ := List.append_of_mem hmem
  have htaken : ∃ name,
      HasNumber ((start ++ (holder, first) :: middle) ++ between) id name := by
    have hdecision := hdecided start holder first _ (List.append_assoc ..) id hholder
    rcases hdecision.outcome_cases with ⟨name, hname, -⟩ | ⟨field, hfield, hnot, -⟩ | ⟨-, rfl⟩
    · refine ⟨name, hname.mono ?_⟩
      rw [List.append_assoc]
      exact List.subset_append_left _ _
    · exact absurd hnot (hbytes field hfield)
    · exact ⟨holder.name, holder, holder.toCallback id deny, by simp, hholder, rfl⟩
  obtain ⟨name, hname⟩ := htaken
  have hdecision := hdecided ((start ++ (holder, first) :: middle) ++ between) item outcome after
    (by simp) id hid
  obtain ⟨issue, rfl⟩ := hdecision.eq_rejected fun heq =>
    (hdecision.accepted_iff.mp heq).1 name hname
  rw [mem_rejectedNames_iff_exists, ← houtcomes]
  exact ⟨issue, by simp⟩

end Rejected

def Callback.withDeny (callback : Callback) (deny : List String) : Callback :=
  { callback with inShim := !deny.contains callback.payload }

def CallbackOutcome.withDeny (outcome : CallbackOutcome) (deny : List String) : CallbackOutcome :=
  match outcome with
  | .accepted callback => .accepted (callback.withDeny deny)
  | .rejected payload issue => .rejected payload issue

@[simp] theorem CallbackOutcome.callback?_withDeny (outcome : CallbackOutcome) :
    (outcome.withDeny deny).callback? = outcome.callback?.map (·.withDeny deny) := by
  cases outcome <;> rfl

@[simp] theorem CallbackOutcome.rejection?_withDeny (outcome : CallbackOutcome) :
    (outcome.withDeny deny).rejection? = outcome.rejection? := by
  cases outcome <;> rfl

/-- The deny list decides nothing but what the library is asked to send. -/
theorem decideFrom_withDeny (index : Index) (deny other : List String)
    (taken : List (Int × String)) (items : List StructItem) :
    decideFrom index deny taken items
      = (decideFrom index other taken items).map (·.withDeny deny) := by
  induction items generalizing taken with
  | nil => rfl
  | cons item items ih =>
    rw [decideFrom, decideFrom]
    cases item.callbackId with
    | none => exact ih taken
    | some id =>
      dsimp only
      cases taken.lookup id with
      | some first => exact congrArg (List.cons _) (ih taken)
      | none =>
        cases item.fields.find? fun field => cannotBeBytes index field.type with
        | some field => exact congrArg (List.cons _) (ih taken)
        | none => exact congrArg (List.cons _) (ih _)

/-- Every struct that carries a number becomes a callback or is rejected. -/
theorem chooseCallbacks_partition (items : List StructItem) (index : Index) (deny : List String) :
    (∃ decided : Decisions, decided.map (·.1) = items.filter (·.callbackId.isSome)
      ∧ (chooseCallbacks items index deny).callbacks = decided.filterMap (·.2.callback?)
      ∧ (chooseCallbacks items index deny).rejected = decided.filterMap (·.2.rejection?)
      ∧ AreDecisions index deny [] decided)
    ∧ ((chooseCallbacks items index deny).callbacks.map (·.id)).Nodup
    ∧ ∀ other,
      (chooseCallbacks items index deny).rejected = (chooseCallbacks items index other).rejected
      ∧ (chooseCallbacks items index deny).callbacks
        = (chooseCallbacks items index other).callbacks.map (·.withDeny deny) := by
  refine ⟨?_, (ids_decideFrom items).2, fun other => ?_⟩
  · obtain ⟨decided, hitems, houtcomes, hdecided⟩ := exists_areDecisions index deny tracks_nil items
    refine ⟨decided, hitems, ?_, ?_, hdecided⟩
    all_goals
      simp only [chooseCallbacks, ← houtcomes, List.filterMap_map]
      rfl
  · simp [chooseCallbacks, decideFrom_withDeny index deny other, List.filterMap_map,
      List.map_filterMap]

end AbiBridge
