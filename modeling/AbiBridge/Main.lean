import AbiBridge.Command.Run
import AbiBridge.Pattern.Read

/-!
# The program

The command line on the file system of the machine.
-/

namespace AbiBridge

def FileError.ofSystem : IO.Error → FileError
  | .noFileOrDirectory .. | .noSuchThing .. => .notFound
  | .alreadyExists .. => .alreadyExists
  | .inappropriateType _ 20 _ => .notFolder
  | .inappropriateType _ 21 _ => .isFolder
  | error => .other (toString error)

def systemAccess {α : Type} (action : IO α) : ExceptT FileError IO α :=
  ExceptT.mk (do
    match ← action.toBaseIO with
    | .ok value => return .ok value
    | .error error => return .error (.ofSystem error))

def systemFiles : FileAccess IO where
  read path := systemAccess (IO.FS.readFile path)
  write path text := systemAccess (IO.FS.writeFile path text)
  createFolders path :=
    if path.isEmpty then return () else systemAccess (IO.FS.createDirAll path)

end AbiBridge

open AbiBridge in
def main (arguments : List String) : IO UInt32 := do
  let outcome ← Command.runArguments Pattern.language systemFiles arguments
  outcome.output.forM IO.println
  outcome.errors.forM fun line => IO.eprintln line
  return outcome.code.toUInt32
