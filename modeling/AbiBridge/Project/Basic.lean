import AbiBridge.Config.Read
import AbiBridge.Config.Validate
import AbiBridge.Descriptor.Read
import AbiBridge.FileSystem.Basic
import AbiBridge.Generate.Output
import AbiBridge.Path

/-!
# Projects

A project is a configuration file with the inputs and outputs that it names. Their
paths are relative to the folder of that file. The inputs are read in a fixed order,
and the first failure ends a run; outputs that were written before it stay.
-/

namespace AbiBridge

inductive LoadFailure where
  | file (error : FileError)
  | notToml
  | invalid (fault : ConfigFault)

inductive Failure where
  | load (path : String) (cause : LoadFailure)
  | read (path : String) (error : FileError)
  /-- The file is no JSON document of the shape that is expected. -/
  | parse (path : String)
  | pattern (failure : InvalidPattern)
  | createFolder (path : String) (error : FileError)
  | write (path : String) (error : FileError)

/-- The wordings of what lies behind a failure, outermost first. -/
def LoadFailure.causes : LoadFailure → List String
  | file error => ["I/O error: " ++ error.message, error.message]
  | notToml => ["TOML parse error"]
  | invalid fault => ["Invalid configuration: " ++ fault.message]

namespace Failure

def context : Failure → String
  | load path _ => "Failed to load " ++ path
  | read path _ => "Failed to read " ++ path
  | parse path => "Failed to parse " ++ path
  | pattern failure => failure.message
  | createFolder path _ => "Failed to create " ++ path
  | write path _ => "Failed to write " ++ path

/-- What lies behind the failure, outermost first. -/
def causes : Failure → List String
  | load _ cause => cause.causes
  | read _ error | createFolder _ error | write _ error => [error.message]
  | parse _ => ["JSON parse error"]
  | pattern _ => ["regex parse error"]

def message (failure : Failure) : String :=
  ": ".intercalate (failure.context :: failure.causes)

end Failure

variable {m : Type → Type} [Monad m]

/-- Say what an access was for if it is refused. -/
def orFail {α : Type} (access : ExceptT FileError m α) (failure : FileError → Failure) :
    ExceptT Failure m α :=
  access.adapt failure

def Config.load (patterns : PatternLanguage) (files : FileAccess m) (path : String) :
    ExceptT Failure m Config := do
  let text ← orFail (files.read path) fun error => .load path (.file error)
  match Config.ofText? text with
  | none => throw (.load path .notToml)
  | some config =>
    match config.fault? patterns with
    | some fault => throw (.load path (.invalid fault))
    | none => return config

/-- A configuration with the folder that its paths are relative to. -/
structure Project where
  config : Config
  folder : String

structure ProjectInputs where
  api : Api
  reportA : PlatformReport
  reportB : PlatformReport

namespace Project

def load (patterns : PatternLanguage) (files : FileAccess m) (path : String) :
    ExceptT Failure m Project := do
  let config ← Config.load patterns files path
  return ⟨config, (Path.parent? path).getD "."⟩

/-- A configured path from where the program runs. -/
def path (project : Project) (configured : String) : String :=
  Path.join project.folder configured

def input {α : Type} (project : Project) (files : FileAccess m) (reader : Json.Reader α)
    (configured : String) : ExceptT Failure m α := do
  let path := project.path configured
  let text ← orFail (files.read path) (.read path)
  match Json.decodeText reader text with
  | .ok value => return value
  | .error _ => throw (.parse path)

def inputs (project : Project) (files : FileAccess m) : ExceptT Failure m ProjectInputs := do
  let paths := project.config.inputs
  let api ← project.input files Descriptor.readApi paths.api
  let reportA ← project.input files Descriptor.readLayoutReport paths.layoutA
  let reportB ← project.input files Descriptor.readLayoutReport paths.layoutB
  return ⟨api, reportA, reportB⟩

/-- Make the module and the report without writing anything. -/
def run (project : Project) (patterns : PatternLanguage) (files : FileAccess m) :
    ExceptT Failure m Generated := do
  let inputs ← project.inputs files
  match project.config.generate patterns inputs.api inputs.reportA inputs.reportB with
  | .ok generated => return generated
  | .error failure => throw (.pattern failure)

/-- Write an output and return where it went. -/
def output (project : Project) (files : FileAccess m) (configured text : String) :
    ExceptT Failure m String := do
  let path := project.path configured
  match Path.parent? path with
  | some folder => orFail (files.createFolders folder) (.createFolder folder)
  | none => pure ()
  orFail (files.write path text) (.write path)
  return path

def check (project : Project) (patterns : PatternLanguage) (files : FileAccess m) :
    ExceptT Failure m Report := do
  return (← project.run patterns files).report

def generate (project : Project) (patterns : PatternLanguage) (files : FileAccess m) :
    ExceptT Failure m Report := do
  let generated ← project.run patterns files
  let outputs := project.config.outputs
  let rust ← project.output files outputs.rust (generated.moduleText project.config)
  let shim ← project.output files outputs.shim (generated.shimText project.config)
  return { generated.report with filesWritten := [rust, shim] }

end Project

end AbiBridge
