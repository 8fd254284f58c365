/-!
# Values on two platforms

A size, an alignment or an offset that may differ between the two platforms of a
generated module.
-/

namespace AbiBridge

/-- A number on each of two platforms, A and B. -/
inductive PlatformNumber where
  | literal (n : Nat)
  | conditional (a b : Nat)
  /-- The default packing of structs on the platform. -/
  | packSize
  deriving DecidableEq, Repr

namespace PlatformNumber

/-- The value of a size or an offset, which is never the packing. -/
def exact (a b : Nat) : PlatformNumber :=
  if a = b then literal a else conditional a b

/-- The value of an alignment. Where the platforms differ and the larger alignment is
the packing of its platform, both are taken to be the packing. -/
def alignment (a b packA packB : Nat) : PlatformNumber :=
  if a = b then literal a
  else if (b < a ∧ a = packA) ∨ (a < b ∧ b = packB) then packSize
  else conditional a b

def split (value : PlatformNumber) (packA packB : Nat) : Nat × Nat :=
  match value with
  | literal n => (n, n)
  | conditional a b => (a, b)
  | packSize => (packA, packB)

/-- The values are given one by one. -/
def isConditional : PlatformNumber → Bool
  | conditional .. => true
  | _ => false

def atLeast (value : PlatformNumber) (least : Nat) : PlatformNumber :=
  match value with
  | literal n => literal (max n least)
  | conditional a b => exact (max a least) (max b least)
  | packSize => packSize

end PlatformNumber

end AbiBridge
