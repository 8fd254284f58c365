/-!
# Names of buffers and their counts

By convention the name of a buffer pointer starts with a marker of its kind, and
the name of the parameter that counts its elements starts with a marker of its
own, followed by the name of the buffer without marker.
-/

namespace AbiBridge

structure BufferLabel where
  marker : String
  /-- The name behind the marker, which starts with a capital. -/
  logical : String
  deriving DecidableEq, Repr

namespace BufferLabel

def markers : List String :=
  ["pv", "pch", "pc", "psz", "pub", "p"]

/-- Take a marker off a name if a capital follows it. -/
def ofMarker? (name marker : String) : Option BufferLabel :=
  match marker.toList.isPrefixOf? name.toList with
  | some (c :: cs) => if c.isUpper then some ⟨marker, String.ofList (c :: cs)⟩ else none
  | _ => none

def ofName? (name : String) : Option BufferLabel :=
  markers.findSome? (ofMarker? name)

/-- The marker says that the buffer ends with a zero. -/
def isZeroTerminated (buffer : BufferLabel) : Bool :=
  'z' ∈ buffer.marker.toList

end BufferLabel

def countMarkers : List String :=
  ["n", "cub", "cch", "cbMax", "cb"]

/-- The candidate names the count of the buffer with the given logical name: a
marker, the logical name, and anything after it. -/
def namesCountOf (logical candidate : String) : Bool :=
  countMarkers.any fun marker => (marker.toList ++ logical.toList).isPrefixOf candidate.toList

end AbiBridge
