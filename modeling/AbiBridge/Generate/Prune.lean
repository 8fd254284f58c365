import AbiBridge.Generate.Progress
import AbiBridge.Generate.Scope
import AbiBridge.Module.Basic

/-!
# Leaving out what refers to left-out entities

A typedef or a struct that names an entity which was left out is left out as well,
by value or behind a pointer, until no such reference remains. Each round compares
with the names that were left out before it. Methods of the structs that stay are
looked at afterwards.
-/

namespace AbiBridge

structure Survivors where
  extraTypedefs : List TypedefItem
  typedefs : List TypedefItem
  callbackStructs : List StructItem
  structs : List StructItem

def Survivors.size (items : Survivors) : Nat :=
  items.extraTypedefs.length + items.typedefs.length + items.callbackStructs.length
    + items.structs.length

def TypedefItem.dropped? (dropped : List String) (item : TypedefItem) : Option String :=
  firstDropped? dropped item.type

def StructItem.dropped? (dropped : List String) (item : StructItem) : Option String :=
  item.fields.findSome? fun field => firstDropped? dropped field.type

def Method.dropped? (dropped : List String) (method : Method) : Option String :=
  (method.params.map (·.type) ++ method.result.toList).findSome? (firstDropped? dropped)

def unresolvedItems {α : Type} (name : α → String) (dropped? : α → Option String)
    (items : List α) : List EntityIssue :=
  items.filterMap fun item =>
    (dropped? item).map fun missing => ⟨name item, .unresolvedName (name item) missing⟩

namespace Survivors

def retain (dropped : List String) (items : Survivors) : Survivors where
  extraTypedefs := items.extraTypedefs.filter fun item => (item.dropped? dropped).isNone
  typedefs := items.typedefs.filter fun item => (item.dropped? dropped).isNone
  callbackStructs := items.callbackStructs.filter fun item => (item.dropped? dropped).isNone
  structs := items.structs.filter fun item => (item.dropped? dropped).isNone

def issues (dropped : List String) (items : Survivors) : List EntityIssue :=
  unresolvedItems (·.name) (TypedefItem.dropped? dropped) items.extraTypedefs
    ++ unresolvedItems (·.name) (TypedefItem.dropped? dropped) items.typedefs
    ++ unresolvedItems (·.name) (StructItem.dropped? dropped) items.callbackStructs
    ++ unresolvedItems (·.name) (StructItem.dropped? dropped) items.structs

theorem length_unresolvedItems {α : Type} (name : α → String) (dropped? : α → Option String)
    (items : List α) :
    (unresolvedItems name dropped? items).length
      + (items.filter fun item => (dropped? item).isNone).length = items.length := by
  induction items with
  | nil => rfl
  | cons item items ih =>
    simp only [unresolvedItems] at ih ⊢
    cases h : dropped? item <;> simp [h] <;> omega

theorem size_retain (dropped : List String) (items : Survivors) :
    (items.issues dropped).length + (items.retain dropped).size = items.size := by
  simp only [issues, retain, size, List.length_append]
  have h₁ := length_unresolvedItems (·.name) (TypedefItem.dropped? dropped) items.extraTypedefs
  have h₂ := length_unresolvedItems (·.name) (TypedefItem.dropped? dropped) items.typedefs
  have h₃ := length_unresolvedItems (·.name) (StructItem.dropped? dropped) items.callbackStructs
  have h₄ := length_unresolvedItems (·.name) (StructItem.dropped? dropped) items.structs
  omega

end Survivors

/-- Items with the issues of those that were left out, and all left-out names. -/
structure Pruned where
  items : Survivors
  log : List EntityIssue
  dropped : List String

/-- Leave items out until none names a left-out entity. -/
def prune (dropped : List String) (items : Survivors) : Pruned :=
  match _found : items.issues dropped with
  | [] => ⟨items, [], dropped⟩
  | issue :: issues =>
    let log := issue :: issues
    let rest := prune (log.map (·.entity) ++ dropped) (items.retain dropped)
    { rest with log := log ++ rest.log }
termination_by items.size
decreasing_by
  have := items.size_retain dropped
  simp only [_found, List.length_cons] at this
  omega

def StructItem.retainMethods (dropped : List String) (item : StructItem) : StructItem :=
  { item with methods := item.methods.filter fun method => (method.dropped? dropped).isNone }

def StructItem.methodIssues (dropped : List String) (item : StructItem) : List EntityIssue :=
  unresolvedItems (fun method => qualifiedName item.name method.flatName)
    (Method.dropped? dropped) item.methods

/-- Leave out typedefs, structs and methods that refer to left-out entities. -/
def pruneAll (dropped : List String) (items : Survivors) : Pruned :=
  let pruned := prune dropped items
  let items := pruned.items
  { items := { items with
      callbackStructs := items.callbackStructs.map (·.retainMethods pruned.dropped)
      structs := items.structs.map (·.retainMethods pruned.dropped) }
    log := pruned.log
      ++ (items.callbackStructs ++ items.structs).flatMap (·.methodIssues pruned.dropped)
    dropped := pruned.dropped }

end AbiBridge
