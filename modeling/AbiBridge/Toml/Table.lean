import AbiBridge.Json.Basic

/-!
# Tables of a configuration file

A table collects keys from headers, from dotted keys and from inline tables, which
restrict each other: a table is defined once, and what was written in one way is
not continued in another.
-/

namespace AbiBridge.Toml

inductive Origin where
  /-- By its own header. -/
  | header
  /-- As the parent of another table's header. -/
  | parent
  /-- As a part of a dotted key. -/
  | dotted
  deriving DecidableEq, Repr

inductive Node where
  /-- A value that is complete, an array or an inline table among them. -/
  | value (json : Json)
  | table (origin : Origin) (entries : List (String × Node))
  /-- An array of tables, the last one first. -/
  | tables (items : List (List (String × Node)))
  deriving Inhabited

abbrev Entries := List (String × Node)

/-- Put a node in place of another, or at the end. -/
def Entries.set (entries : Entries) (key : String) (node : Node) : Entries :=
  match entries with
  | [] => [(key, node)]
  | (name, old) :: rest =>
    if name = key then (key, node) :: rest else (name, old) :: Entries.set rest key node

/-- Change the table that a path leads to. Tables that are missing are created, and of
an array of tables the last is meant. A dotted path does not enter tables that have a
header. The change is told how the table came to be. -/
def descend (isDotted : Bool) (origin : Origin) (change : Origin → Entries → Option Entries) :
    List String → Entries → Option Entries
  | [], entries => change origin entries
  | key :: path, entries =>
    match entries.lookup key with
    | none =>
      let created := if isDotted then Origin.dotted else Origin.parent
      (descend isDotted created change path []).map fun inner =>
        entries.set key (.table created inner)
    | some (.value _) => none
    | some (.table origin inner) =>
      if isDotted ∧ origin = .header then none
      else (descend isDotted origin change path inner).map fun inner =>
        entries.set key (.table origin inner)
    | some (.tables []) => none
    | some (.tables (last :: items)) =>
      (descend isDotted .header change path last).map fun last =>
        entries.set key (.tables (last :: items))

def openTable (path : List String) (key : String) : Entries → Option Entries :=
  descend false .header (fun _ entries =>
    match entries.lookup key with
    | none => some (entries.set key (.table .header []))
    | some (.table .parent inner) => some (entries.set key (.table .header inner))
    | _ => none) path

def openItem (path : List String) (key : String) : Entries → Option Entries :=
  descend false .header (fun _ entries =>
    match entries.lookup key with
    | none => some (entries.set key (.tables [[]]))
    | some (.tables items) => some (entries.set key (.tables ([] :: items)))
    | _ => none) path

/-- Bind a key that is preceded by a dotted path. A plain key goes into a table that
was not made by a dotted one, and the other way round. -/
def bind (path : List String) (key : String) (node : Node) : Entries → Option Entries :=
  descend true .header (fun origin entries =>
    if (origin == .dotted) == path.isEmpty then none
    else
      match entries.lookup key with
      | none => some (entries.set key node)
      | some _ => none) path

/-- Bind a key inside the table that the last header opened. -/
def bindUnder (header : List String) (path : List String) (key : String) (json : Json) :
    Entries → Option Entries :=
  descend false .header (fun _ entries => bind path key (.value json) entries) header

mutual

def Node.toJson : Node → Json
  | .value json => json
  | .table _ entries => .object (entriesToJson entries)
  | .tables items => .array (itemsToJson items)

def entriesToJson : List (String × Node) → List (String × Json)
  | [] => []
  | (key, node) :: entries => (key, node.toJson) :: entriesToJson entries

/-- The documents of the tables of an array, in the order of writing. -/
def itemsToJson : List (List (String × Node)) → List Json
  | [] => []
  | item :: items => itemsToJson items ++ [.object (entriesToJson item)]

end

end AbiBridge.Toml
