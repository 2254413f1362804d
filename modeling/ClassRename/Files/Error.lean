/-!
# Why a file cannot be used

Each cause has the text, and where the system gives one the number, that users know it by.
-/

namespace ClassRename

inductive FileError where
  | missing
  | alreadyExists
  | notFolder
  | isFolder
  | nameTooLong
  /-- More links follow one another than may. -/
  | tooManyLinks
  /-- A link leads back to a folder on the way to it. -/
  | folderLoop
  /-- The path holds a character that no name may hold. -/
  | nulInPath
  /-- The bytes of a file are no text. -/
  | notText
  /-- Any other cause, with its text. -/
  | other (text : String)
  deriving DecidableEq, Repr

def FileError.message : FileError → String
  | .missing => "No such file or directory (os error 2)"
  | .alreadyExists => "File exists (os error 17)"
  | .notFolder => "Not a directory (os error 20)"
  | .isFolder => "Is a directory (os error 21)"
  | .nameTooLong => "File name too long (os error 36)"
  | .tooManyLinks => "Too many levels of symbolic links (os error 40)"
  | .folderLoop => "filesystem loop"
  | .nulInPath => "file name contained an unexpected NUL byte"
  | .notText => "stream did not contain valid UTF-8"
  | .other text => text

end ClassRename
