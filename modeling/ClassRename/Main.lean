import ClassRename.CommandLine

/-!
# The program

The command line runs on the files of the disk.
-/

namespace ClassRename.Disk

/-- The number and the text that the system gives for an error. -/
def codeAndText : IO.Error → UInt32 × String
  | .alreadyExists _ code text | .otherError code text | .resourceBusy code text
  | .resourceVanished code text | .unsupportedOperation code text | .hardwareFault code text
  | .unsatisfiedConstraints code text | .illegalOperation code text | .protocolError code text
  | .timeExpired code text | .interrupted _ code text | .noFileOrDirectory _ code text
  | .invalidArgument _ code text | .permissionDenied _ code text | .resourceExhausted _ code text
  | .inappropriateType _ code text | .noSuchThing _ code text => (code, text)
  | .unexpectedEof => (0, "unexpected end of file")
  | .userError text => (0, text)

/-- Why a file cannot be used, from what the system says. Some calls negate the number. -/
def fileError (error : IO.Error) : FileError :=
  let (given, text) := codeAndText error
  let code := if 0x80000000 ≤ given then 0 - given else given
  if code = 2 then .missing
  else if code = 17 then .alreadyExists
  else if code = 20 then .notFolder
  else if code = 21 then .isFolder
  else if code = 36 then .nameTooLong
  else if code = 40 then .tooManyLinks
  else .other (text ++ " (os error " ++ toString code ++ ")")

def kindOfType : IO.FS.FileType → FileKind
  | .file => .file
  | .dir => .folder
  | .symlink => .link
  | .other => .other

def attempt {α : Type} (action : IO α) : ExceptT FileError IO α := do
  match ← action.toBaseIO with
  | .ok value => return value
  | .error error => throw (fileError error)

instance : FileAccess IO where
  kindOf path := attempt do return kindOfType (← (System.mkFilePath [path]).metadata).type
  entriesOf path := attempt do
    let entries ← (System.mkFilePath [path]).readDir
    entries.toList.mapM fun entry => do
      return (entry.fileName, kindOfType (← entry.path.symlinkMetadata).type)
  canonical path := attempt do return (← IO.FS.realPath path).toString
  read path := attempt do return (← IO.FS.readBinFile path).toList
  write path content := attempt (IO.FS.writeBinFile path ⟨content.toArray⟩)
  makeFolder path := attempt (IO.FS.createDir path)
  currentFolder := attempt do return (← IO.currentDir).toString

end ClassRename.Disk

def main (words : List String) : IO UInt32 := do
  let result : ClassRename.CommandLine.RunResult ← ClassRename.CommandLine.run words
  IO.print result.output
  IO.eprint result.problems
  return UInt32.ofNat result.code
