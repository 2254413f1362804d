import ClassRename.Files.Error
import ClassRename.Path
import ClassRename.Text.Utf8

/-!
# Access to files

All that a run does to files goes through six operations. A program that is written over them runs
on the disk as well as on a file system that is a value.
-/

namespace ClassRename

open Text (Utf8.Bytes)

inductive FileKind where
  | file
  | folder
  | link
  /-- Devices and the like. -/
  | other
  deriving DecidableEq, Repr

/-- Access to files in a monad. Links are followed except where an entry of a folder is listed. -/
class FileAccess (m : Type → Type) where
  /-- What a path leads to. -/
  kindOf (path : String) : ExceptT FileError m FileKind
  /-- The names in a folder, in no order that counts, each with what it stands for; a link stands for
  itself. -/
  entriesOf (path : String) : ExceptT FileError m (List (String × FileKind))
  /-- The one path without links, for all the paths that lead to one place. -/
  canonical (path : String) : ExceptT FileError m String
  /-- The bytes of a file. -/
  read (path : String) : ExceptT FileError m Utf8.Bytes
  /-- Give a file these bytes; it is made if it is missing and its folder is there. -/
  write (path : String) (content : Utf8.Bytes) : ExceptT FileError m Unit
  /-- Make a folder in a folder that is there. -/
  makeFolder (path : String) : ExceptT FileError m Unit
  /-- The path of the folder in which relative paths start. -/
  currentFolder : ExceptT FileError m String

namespace FileAccess

variable {m : Type → Type} [Monad m] [FileAccess m]

def readText (path : String) : ExceptT FileError m String := do
  match Text.Utf8.decode (← read path) with
  | .ok text => return text
  | .error _ => throw .notText

def writeText (path text : String) : ExceptT FileError m Unit :=
  write path (Text.Utf8.encode text)

def isThere (path : String) : ExceptT FileError m Bool :=
  tryCatch (do let _ ← kindOf path; return true) fun _ => return false

def isFolder (path : String) : ExceptT FileError m Bool :=
  tryCatch (return (← kindOf path) == .folder) fun _ => return false

/-- What stands in for a folder that cannot be made: the folder itself, if it is there. -/
def acceptFolder (path : String) (error : FileError) : ExceptT FileError m Unit := do
  if ← isFolder path then return else throw error

/-- Make a folder and the folders on the way to it, unless they are there; `budget` bounds the number
of steps of the path. -/
def ensureFoldersWithin : (budget : Nat) → (path : String) → ExceptT FileError m Unit
  | 0, _ => throw .nameTooLong
  | budget + 1, path =>
    if path.isEmpty then return
    else tryCatch (makeFolder path) fun
      | .missing => match Path.parent? path with
        | none => throw (.other "failed to create whole tree")
        | some parent => do
          ensureFoldersWithin budget parent
          tryCatch (makeFolder path) (acceptFolder path)
      | error => acceptFolder path error

def ensureFolders (path : String) : ExceptT FileError m Unit :=
  ensureFoldersWithin (path.length + 1) path

end FileAccess

end ClassRename
