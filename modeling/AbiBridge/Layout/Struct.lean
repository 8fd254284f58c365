import AbiBridge.Descriptor.Basic
import AbiBridge.Issue
import AbiBridge.Layout.PlatformNumber

/-!
# Reconciled layouts

The reports of two platforms about a struct are compared field by field. What
they agree on becomes a literal, and what they do not a value for each platform.
-/

namespace AbiBridge

/-- A platform: its name, the condition that selects it, and how it packs structs. -/
structure Platform where
  name : String
  condition : Option String := none
  packSize : Nat
  deriving DecidableEq, Inhabited

structure FieldLayout where
  name : String
  /-- Absent if a report lacks the field. -/
  align : Option PlatformNumber
  /-- Present if both reports give one. -/
  offset : Option PlatformNumber
  deriving DecidableEq, Inhabited

structure StructLayout where
  name : String
  size : PlatformNumber
  align : PlatformNumber
  fields : List FieldLayout
  /-- The struct has no fields and is declared with one byte of padding. -/
  filler : Bool
  /-- The facts that the reports lack about fields. -/
  diagnostics : List Issue
  deriving DecidableEq

def StructLayout.field? (layout : StructLayout) (name : String) : Option FieldLayout :=
  layout.fields.find? (·.name == name)

def conditionalNote (what : String) (value : PlatformNumber) (a b : String) : List String :=
  match value with
  | .conditional onA onB =>
    [what ++ ": " ++ toString onA ++ " on " ++ a ++ ", " ++ toString onB ++ " on " ++ b]
  | _ => []

def StructLayout.notes (layout : StructLayout) (a b : String) : List String :=
  conditionalNote (layout.name ++ ".size") layout.size a b
    ++ conditionalNote (layout.name ++ ".align") layout.align a b
    ++ layout.fields.flatMap fun field =>
      let note what := fun value =>
        conditionalNote (layout.name ++ "." ++ field.name ++ what) value a b
      (field.align.map (note ".align")).getD [] ++ (field.offset.map (note ".offset")).getD []

structure PlatformPair where
  a : Platform
  b : Platform
  reportA : PlatformReport
  reportB : PlatformReport

namespace PlatformPair

def fieldLayout (pair : PlatformPair) (name : String) (onA onB : Option ReportedField) :
    FieldLayout :=
  match onA, onB with
  | some onA, some onB =>
    { name
      align := some (.alignment onA.align onB.align pair.a.packSize pair.b.packSize)
      offset := onA.offset.bind fun a => onB.offset.map fun b => .exact a b }
  | _, _ => { name, align := none, offset := none }

def missingFacts (pair : PlatformPair) (struct field : String) (onA onB : Option ReportedField) :
    List Issue :=
  (if onA.isNone then [.unreportedField struct field pair.a.name] else [])
    ++ (if onB.isNone then [.unreportedField struct field pair.b.name] else [])

def layoutOf (pair : PlatformPair) (decl : StructDecl) (onA onB : ReportedStruct) : StructLayout :=
  let filler := decl.fields.isEmpty
  let size := PlatformNumber.exact onA.size onB.size
  { name := decl.name
    size := if filler then size.atLeast 1 else size
    align := .alignment onA.align onB.align pair.a.packSize pair.b.packSize
    fields := decl.fields.map fun field =>
      pair.fieldLayout field.name (onA.field? field.name) (onB.field? field.name)
    filler
    diagnostics := decl.fields.flatMap fun field =>
      pair.missingFacts decl.name field.name (onA.field? field.name) (onB.field? field.name) }

/-- The layout of a struct, or the first platform that has no report on it. -/
def structLayout (pair : PlatformPair) (decl : StructDecl) : Except Issue StructLayout :=
  match pair.reportA.get? decl.name, pair.reportB.get? decl.name with
  | none, _ => .error (.unreportedStruct decl.name pair.a.name)
  | some _, none => .error (.unreportedStruct decl.name pair.b.name)
  | some onA, some onB => .ok (pair.layoutOf decl onA onB)

end PlatformPair

abbrev Layouts := Dictionary (Except Issue StructLayout)

/-- Add a struct, unless its name is taken. -/
def Layouts.add (pair : PlatformPair) (table : Layouts) (decl : StructDecl) :
    Layouts :=
  if table.contains decl.name then table else table.insert decl.name (pair.structLayout decl)

/-- The layouts of structs; of several with one name the first counts. -/
def Layouts.ofStructs (pair : PlatformPair) (decls : List StructDecl) : Layouts :=
  decls.foldl (Layouts.add pair) .empty

def Layouts.available (table : Layouts) : List StructLayout :=
  table.entries.filterMap fun (_, entry) => entry.toOption

end AbiBridge
