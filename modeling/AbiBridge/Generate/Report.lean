import AbiBridge.Issue
import AbiBridge.Module.Basic

/-!
# Reports

What a run says about itself: the entities that were left out, those that were made
in degraded form, the values that differ between the platforms, and how many
entities of each kind the module has.
-/

namespace AbiBridge

structure Counts where
  typedefs : Nat
  enums : Nat
  consts : Nat
  structs : Nat
  callbacks : Nat
  interfaces : Nat
  methods : Nat
  deriving DecidableEq

def Bindings.counts (bindings : Bindings) : Counts where
  typedefs := bindings.extraTypedefs.length + bindings.typedefs.length
  enums := bindings.enums.length
  consts := bindings.consts.length
  structs := bindings.allStructs.length
  callbacks := bindings.callbacks.length
  interfaces := bindings.interfaces.length
  methods := bindings.methods.length

structure Report where
  /-- The entities that were left out, each with its reason. -/
  errors : List EntityIssue
  /-- The entities that were made in degraded form. -/
  diagnostics : List EntityIssue
  notes : List String
  counts : Counts
  filesWritten : List String := []

namespace Report

/-- The report for a module, from all issues in their order. -/
def ofLog (log : List EntityIssue) (notes : List String) (bindings : Bindings) :
    Report where
  errors := log.filter (·.issue.isFatal)
  diagnostics := log.filter (!·.issue.isFatal)
  notes
  counts := bindings.counts

/-- Something was left out. -/
def hasErrors (report : Report) : Bool :=
  !report.errors.isEmpty

def rule : String :=
  String.ofList (List.replicate 60 '=')

/-- A paragraph with a heading, unless it has no lines. -/
def paragraph (heading : String) (lines : List String) : List String :=
  if lines.isEmpty then [] else heading :: lines.map ("    - " ++ ·) ++ [""]

def countedParagraph (heading : String) (lines : List String) : List String :=
  paragraph (heading ++ ": " ++ toString lines.length) lines

def summary (report : Report) : List String :=
  ["", rule, "  Binding Generation Report", rule, "",
   "  [OK] Typedefs:         " ++ toString report.counts.typedefs,
   "  [OK] Enums:            " ++ toString report.counts.enums,
   "  [OK] Constants:        " ++ toString report.counts.consts,
   "  [OK] Structs:          " ++ toString report.counts.structs,
   "  [OK] Callbacks:        " ++ toString report.counts.callbacks,
   "  [OK] Interfaces:       " ++ toString report.counts.interfaces,
   "  [OK] Flat functions:   " ++ toString report.counts.methods, ""]
    ++ countedParagraph "  Platform-conditional values" report.notes
    ++ countedParagraph "  [WARN] Diagnostics" (report.diagnostics.map (·.issue.message))
    ++ countedParagraph "  [ERROR] Entities skipped"
      (report.errors.map fun e => e.entity ++ ": " ++ e.issue.message)
    ++ paragraph "  Generated:" report.filesWritten
    ++ [rule]

end Report

end AbiBridge
