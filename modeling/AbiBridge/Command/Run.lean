import AbiBridge.Command.Arguments
import AbiBridge.Command.Help
import AbiBridge.Config.Write
import AbiBridge.Project.Basic

/-!
# Running commands

What a command prints, what it does to files, and with which code it ends: 0 for
success, 1 for a failure, 2 for misuse.
-/

namespace AbiBridge

structure Outcome where
  code : Nat
  output : List String := []
  errors : List String := []

namespace Outcome

def success (output : List String) : Outcome := { code := 0, output }

def failed (message : String) (output : List String) : Outcome :=
  { code := 1, output, errors := ["[ERROR] " ++ message] }

def misuse : Outcome :=
  { code := 2, errors := ["Usage: " ++ HelpTopic.program.callForm] }

/-- The outcome for a report. A strict run fails if something was left out. -/
def ofReport (report : Report) (strict : Bool) : Outcome :=
  if strict && report.hasErrors then
    failed (toString report.errors.length ++ " entities skipped (--strict)") report.summary
  else success report.summary

def ofAttempt {m : Type → Type} [Monad m] (attempt : ExceptT Failure m Outcome) : m Outcome := do
  match ← attempt.run with
  | .ok outcome => return outcome
  | .error failure => return failed failure.message []

end Outcome

namespace Command

def versionLine : String := "vbind-gen 0.3.1"

def resolveOutcome (resolver : Resolver) (raw : String) (signature : Bool) : Outcome :=
  match resolver.resolve raw (if signature then .signature else .value) with
  | .ok type => .success ["C:    " ++ type.cText, "Rust: " ++ type.rustText]
  | .error failure => .failed ("unsupported type " ++ Issue.quote failure.raw) []

variable {m : Type → Type} [Monad m] (patterns : PatternLanguage)

def overrides (files : FileAccess m) : Option String → ExceptT Failure m (Dictionary String)
  | none => return .empty
  | some path => do return (← Config.load patterns files path).typeOverrides

def run (files : FileAccess m) : Command → ExceptT Failure m Outcome
  | generate path strict => do
    let project ← Project.load patterns files path
    return .ofReport (← project.generate patterns files) strict
  | check path strict => do
    let project ← Project.load patterns files path
    return .ofReport (← project.check patterns files) strict
  | genConfig path => do
    orFail (files.write path Config.sample.fileText) (.write path)
    return .success ["Generated configuration file: " ++ path]
  | resolve raw signature path => do
    let table ← overrides patterns files path
    return resolveOutcome (.ofOverrides table) raw signature
  | version => return .success [versionLine]
  | help topic => return .success topic.lines

def runArguments (files : FileAccess m) (arguments : List String) : m Outcome :=
  match ofArguments? arguments with
  | none => return .misuse
  | some command => Outcome.ofAttempt (run patterns files command)

end Command

end AbiBridge
