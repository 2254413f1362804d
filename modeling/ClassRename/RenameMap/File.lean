import ClassRename.Files.Access
import ClassRename.RenameMap.Json

/-!
# Rename maps in files
-/

namespace ClassRename

inductive RenameMapError where
  | unreadable (path : String) (cause : FileError)
  | unwritable (path : String) (cause : FileError)
  | malformed (cause : Json.Error)
  deriving DecidableEq, Repr

namespace RenameMapError

def cause : RenameMapError → String
  | .unreadable _ cause => cause.message
  | .unwritable _ cause => cause.message
  | .malformed cause => cause.message

def message : RenameMapError → String
  | .unreadable path cause => "Failed to read rename map " ++ path ++ ": " ++ cause.message
  | .unwritable path cause => "Failed to write rename map " ++ path ++ ": " ++ cause.message
  | .malformed cause => "Invalid rename map JSON: " ++ cause.message

end RenameMapError

namespace RenameMap

variable {m : Type → Type} [Monad m] [FileAccess m]

def load (path : String) : ExceptT RenameMapError m RenameMap := do
  let text ← ExceptT.adapt (.unreadable path) (FileAccess.readText path)
  match ofJson text with
  | .ok map => return map
  | .error error => throw (.malformed error)

def save (map : RenameMap) (path : String) : ExceptT RenameMapError m Unit :=
  ExceptT.adapt (.unwritable path) (FileAccess.writeText path map.toJson)

end RenameMap

end ClassRename
