import AbiBridge.CType.Resolve
import AbiBridge.Dictionary

/-!
# Overridden spellings

A configuration may replace whole spellings before they are read. A replacement
applies to every spelling with the same tokens.
-/

namespace AbiBridge

/-- The replacements, by the normal forms of what they replace. -/
structure Resolver where
  replacements : Dictionary String

namespace Resolver

/-- Replacements as they are configured. Of two for the same tokens the later counts. -/
def ofOverrides (overrides : Dictionary String) : Resolver :=
  ⟨.ofList (overrides.entries.map fun (raw, replacement) =>
    (CType.normalize raw, replacement))⟩

def plain : Resolver := ⟨.empty⟩

def replace (resolver : Resolver) (raw : String) : String :=
  (resolver.replacements.get? (CType.normalize raw)).getD raw

def resolve (resolver : Resolver) (raw : String) (position : Position) :
    Except UnsupportedType CType :=
  CType.resolve (resolver.replace raw) position

def resolveResult (resolver : Resolver) (raw : String) (position : Position) :
    Except UnsupportedType (Option CType) :=
  CType.resolveResult (resolver.replace raw) position

end Resolver

end AbiBridge
