import ClassRename.ColorToken
import ClassRename.Files.Access

/-!
# Colour tokens in files
-/

namespace ClassRename

inductive ColorTokenError where
  | unreadable (path : String) (cause : FileError)
  | malformed (cause : Json.Error)
  deriving DecidableEq, Repr

namespace ColorTokenError

def cause : ColorTokenError → String
  | .unreadable _ cause => cause.message
  | .malformed cause => cause.message

def message : ColorTokenError → String
  | .unreadable path cause => "Failed to read token file " ++ path ++ ": " ++ cause.message
  | .malformed cause => "Invalid color tokens: " ++ cause.message

end ColorTokenError

def ColorToken.load {m : Type → Type} [Monad m] [FileAccess m] (path : String) :
    ExceptT ColorTokenError m ColorToken := do
  let text ← ExceptT.adapt (.unreadable path) (FileAccess.readText path)
  match ColorToken.parse text with
  | .ok token => return token
  | .error error => throw (.malformed error)

end ClassRename
