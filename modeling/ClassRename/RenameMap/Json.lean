import ClassRename.Json.Value
import ClassRename.Json.Writer
import ClassRename.RenameMap

/-!
# Rename maps as JSON

A rename map is kept as an object of strings, one entry to a line.
-/

namespace ClassRename.RenameMap

def toJson (map : RenameMap) : String := Json.writtenObject map.entries

/-- Read a rename map; of two entries with one old name the later stays. -/
def ofJson (text : String) : Except Json.Error RenameMap :=
  (Json.readAll Json.Reader.stringMembers text).map ofList

end ClassRename.RenameMap
