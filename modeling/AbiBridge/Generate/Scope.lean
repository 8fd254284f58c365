import AbiBridge.Config.Basic
import AbiBridge.Descriptor.Index
import AbiBridge.Issue
import AbiBridge.Pattern.Language
import AbiBridge.Text.Quotation

/-!
# What is in scope

The settings and names by which the types of a descriptor are read, and the
entities that were left out so far. A name that stands for nothing, or for an
entity that was left out, does not resolve.
-/

namespace AbiBridge

/-- A rule for retyping fields, its pattern read. -/
structure Retyper where
  finds : String → Bool
  source : String
  target : String

structure Scope where
  index : Index
  resolver : Resolver
  retypers : List Retyper
  boolMarker : String
  skippedConstants : List String

structure InvalidPattern where
  pattern : String
  deriving DecidableEq

def InvalidPattern.message (failure : InvalidPattern) : String :=
  "Invalid field patch pattern " ++ Text.quotation failure.pattern

def Retyping.toRetyper (patterns : PatternLanguage) (retyping : Retyping) :
    Except InvalidPattern Retyper :=
  match patterns.read? retyping.pattern with
  | some finds => .ok ⟨finds, retyping.source, retyping.target⟩
  | none => .error ⟨retyping.pattern⟩

/-- The first name in a type that stands for an entity that was left out. -/
def firstDropped? (dropped : List String) (type : CType) : Option String :=
  type.names.find? fun name => dropped.contains name

def UnsupportedType.toIssue (failure : UnsupportedType) (entity : String) : Issue :=
  .unsupportedType entity failure.raw

namespace Scope

def ofConfig (patterns : PatternLanguage) (config : Config) (api : Api) :
    Except InvalidPattern Scope := do
  let retypers ← config.retypings.mapM (Retyping.toRetyper patterns)
  return {
    index := .ofApi api config.extraTypedefs config.opaqueTypes
    resolver := .ofOverrides config.typeOverrides
    retypers
    boolMarker := config.naming.boolMarker
    skippedConstants := config.filters.skippedConstants }

def firstMissing? (scope : Scope) (dropped : List String) (type : CType) : Option String :=
  (scope.index.firstUnknown? type).or (firstDropped? dropped type)

def checkNames (scope : Scope) (dropped : List String) (entity : String) (type : CType) :
    Except Issue CType :=
  match scope.firstMissing? dropped type with
  | some name => .error (.unresolvedName entity name)
  | none => .ok type

/-- Read a type for an entity that does not lie in another one. -/
def resolve (scope : Scope) (dropped : List String) (entity raw : String)
    (position : Position) : Except Issue CType := do
  let type ← (scope.resolver.resolve raw position).mapError (·.toIssue entity)
  scope.checkNames dropped entity type

/-- Read a type for an entity that lies in `owner`. -/
def resolveIn (scope : Scope) (dropped : List String) (owner entity raw : String)
    (position : Position) : Except Issue CType := do
  let type ← (scope.resolver.resolve raw position).mapError (·.toIssue entity)
  scope.checkNames dropped entity (scope.index.qualify owner type)

def resolveResultIn (scope : Scope) (dropped : List String) (owner entity raw : String) :
    Except Issue (Option CType) := do
  match ← (scope.resolver.resolveResult raw .signature).mapError (·.toIssue entity) with
  | none => return none
  | some type => some <$> scope.checkNames dropped entity (scope.index.qualify owner type)

end Scope

end AbiBridge
