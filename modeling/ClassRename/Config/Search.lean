import ClassRename.Config.Toml
import ClassRename.Files.Access

/-!
# Finding a configuration

A configuration holds for its folder and all that lies below: it is looked for in a folder and then
in the folders above, as far as the path tells them.
-/

namespace ClassRename

inductive ConfigError where
  | unreadable (path : String) (cause : FileError)
  | malformed (path : String)
  deriving DecidableEq, Repr

namespace ConfigError

def message : ConfigError → String
  | .unreadable path _ => "Failed to read " ++ path
  | .malformed path => "Failed to parse " ++ path

/-- The text of what lies behind an error, where it is told. -/
def cause? : ConfigError → Option String
  | .unreadable _ cause => some cause.message
  | .malformed _ => none

end ConfigError

namespace Config

variable {m : Type → Type} [Monad m] [FileAccess m]

def load (path : String) : ExceptT ConfigError m Config := do
  let text ← ExceptT.adapt (.unreadable path) (FileAccess.readText path)
  match ofToml? text with
  | some config => return config
  | none => throw (.malformed path)

/-- The paths of a folder and of the folders above it; `budget` bounds their number. -/
def foldersFrom : (budget : Nat) → (folder : String) → List String
  | 0, _ => []
  | budget + 1, folder =>
    folder :: match Path.parent? folder with
      | none => []
      | some parent => foldersFrom budget parent

/-- Read the first configuration file that is there, and tell its path. -/
def loadFirst : (paths : List String) → ExceptT ConfigError m (Option (Config × String))
  | [] => return none
  | path :: later => do
    if ← ExceptT.adapt (.unreadable path) (FileAccess.isThere path) then
      return some (← load path, path)
    else loadFirst later

/-- The configuration that holds for a folder, with its path. -/
def search (folder : String) : ExceptT ConfigError m (Option (Config × String)) :=
  loadFirst ((foldersFrom (folder.length + 2) folder).map fun folder => Path.join folder fileName)

end Config

end ClassRename
