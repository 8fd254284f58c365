import AbiBridge.Text.Search

/-!
# Paths

Paths are texts with slashes between their pieces. An empty piece and a single dot
say nothing, save at the start of a path. Joining does not simplify paths.
-/

namespace AbiBridge.Path

def isAbsolute (path : String) : Bool :=
  path.toList.head? == some '/'

/-- The path ends with a slash, as only the path of a folder may. -/
def endsInSlash (path : String) : Bool :=
  path.toList.getLast? == some '/'

/-- The path of `path` inside `base`, unless it is absolute. -/
def join (base path : String) : String :=
  if isAbsolute path then path
  else if base.isEmpty || endsInSlash base then base ++ path
  else base ++ "/" ++ path

def pieces (path : String) : List String :=
  (Text.splitAt '/' path.toList).map String.ofList

/-- Leave out the first pieces that say nothing; the pieces are in reverse order and
the last one always counts. -/
def dropSilent : List String → List String
  | [] => []
  | [piece] => [piece]
  | piece :: rest => if piece = "" ∨ piece = "." then dropSilent rest else piece :: rest

def ofPieces (pieces : List String) : String :=
  if pieces = [""] then "/" else "/".intercalate pieces

/-- The path of the folder around the last piece. The empty path and the root lie in no
folder. -/
def parent? (path : String) : Option String :=
  match dropSilent (pieces path).reverse with
  | [] => none
  | [piece] => if piece = "" then none else some ""
  | _ :: rest => some (ofPieces (dropSilent rest).reverse)

end AbiBridge.Path
