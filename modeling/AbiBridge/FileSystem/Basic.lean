/-!
# Access to files

What a program needs of a file system, and why it can be refused.
-/

namespace AbiBridge

inductive FileError where
  | notFound
  | alreadyExists
  | notFolder
  | isFolder
  /-- Another reason in the words of the system. -/
  | other (text : String)
  deriving DecidableEq

def FileError.message : FileError → String
  | notFound => "No such file or directory (os error 2)"
  | alreadyExists => "File exists (os error 17)"
  | notFolder => "Not a directory (os error 20)"
  | isFolder => "Is a directory (os error 21)"
  | other text => text

/-- Ways to read a file, to write one, and to create a folder with all folders around
it. -/
structure FileAccess (m : Type → Type) where
  read : String → ExceptT FileError m String
  write : String → String → ExceptT FileError m Unit
  createFolders : String → ExceptT FileError m Unit

end AbiBridge
