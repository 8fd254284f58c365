import AbiBridge.Dictionary
import AbiBridge.FileSystem.Basic
import AbiBridge.Path

/-!
# Trees of files

A file system in memory. Every file and every folder below the top is entered under
the names that lead to it, with slashes between them. Absolute paths lead out of the
tree and are not found.
-/

namespace AbiBridge

inductive FileNode where
  | file (text : String)
  | folder
  deriving DecidableEq

structure FileTree where
  nodes : Dictionary FileNode

namespace FileTree

/-- The name under which a place is entered. -/
def entryName (place : List String) : String :=
  "/".intercalate place

/-- What is at a place; the top is a folder. -/
def node? (tree : FileTree) (place : List String) : Option FileNode :=
  if place.isEmpty then some .folder else tree.nodes.get? (entryName place)

def put (tree : FileTree) (place : List String) (node : FileNode) : FileTree :=
  ⟨tree.nodes.insert (entryName place) node⟩

def step (place : List String) (piece : String) : List String :=
  if piece = "" ∨ piece = "." then place
  else if piece = ".." then place.dropLast
  else place ++ [piece]

/-- Follow the pieces of a path. All places on the way must be folders; the last one
need not exist. -/
def walk (tree : FileTree) (place : List String) : List String → Except FileError (List String)
  | [] => .ok place
  | piece :: rest =>
    match tree.node? place with
    | some .folder => walk tree (step place piece) rest
    | some (.file _) => .error .notFolder
    | none => .error .notFound

def locate (tree : FileTree) (path : String) : Except FileError (List String) :=
  if path.isEmpty || Path.isAbsolute path then .error .notFound
  else walk tree [] (Path.pieces path)

def isFolder (tree : FileTree) (path : String) : Bool :=
  match tree.locate path with
  | .ok place => tree.node? place == some .folder
  | .error _ => false

def read (tree : FileTree) (path : String) : Except FileError String := do
  match tree.node? (← tree.locate path) with
  | some (.file text) => .ok text
  | some .folder => .error .isFolder
  | none => .error .notFound

/-- Write a file, new or in place of an old one. -/
def write (tree : FileTree) (path text : String) : Except FileError FileTree := do
  if Path.endsInSlash path then
    let _ ← tree.locate (Path.ofPieces (Path.dropSilent (Path.pieces path).reverse).reverse)
    .error .isFolder
  else
    let place ← tree.locate path
    match tree.node? place with
    | some .folder => .error .isFolder
    | _ => .ok (tree.put place (.file text))

def createFolder (tree : FileTree) (path : String) : Except FileError FileTree := do
  let place ← tree.locate path
  match tree.node? place with
  | some _ => .error .alreadyExists
  | none => .ok (tree.put place .folder)

/-- Create a folder with the given pieces, in reverse order, and all folders around it. -/
def createFolders (tree : FileTree) : List String → Except FileError FileTree
  | [] => .ok tree
  | piece :: around =>
    let path := Path.ofPieces (piece :: around).reverse
    if tree.isFolder path then .ok tree
    else
      match tree.createFolder path with
      | .ok tree => .ok tree
      | .error .notFound => do
        let tree ← createFolders tree around
        if tree.isFolder path then .ok tree else tree.createFolder path
      | .error e => .error e

/-- Access to a tree that is kept in a state. -/
def access : FileAccess (StateM FileTree) where
  read path := do ExceptT.mk (return (← get).read path)
  write path text := change fun tree => tree.write path text
  createFolders path := change fun tree =>
    if path.isEmpty then .ok tree
    else tree.createFolders (Path.dropSilent (Path.pieces path).reverse)
where
  change (f : FileTree → Except FileError FileTree) : ExceptT FileError (StateM FileTree) Unit := do
    match f (← get) with
    | .ok tree => set tree
    | .error e => throw e

def addFolders (tree : FileTree) (place : List String) : FileTree :=
  (List.range place.length).foldl
    (fun tree n => if n = 0 then tree else tree.put (place.take n) .folder) tree

/-- Add the file at a path, or a folder if the path ends with a slash, with all folders
around it. -/
def add (tree : FileTree) (path text : String) : FileTree :=
  let place := (Path.pieces path).foldl step []
  (tree.addFolders place).put place (if Path.endsInSlash path then .folder else .file text)

def ofFiles (files : List (String × String)) : FileTree :=
  files.foldl (fun tree (path, text) => tree.add path text) ⟨.empty⟩

/-- The files that are new or have other texts than before. -/
def changedFiles (before after : FileTree) : List (String × String) :=
  after.nodes.entries.filterMap fun (name, node) =>
    match node with
    | .file text => if before.nodes.get? name = some node then none else some (name, text)
    | .folder => none

end FileTree

end AbiBridge
