import ClassRename.Files.Access

/-!
# A file system as a value

Places are lists of names, and each place of the file system holds a file, a folder or a link. A path
is followed step by step from a folder, links on the way included; only so many links may be
followed on one way, so links that lead in circles lead nowhere.
-/

namespace ClassRename

open Text (Utf8.Bytes)

/-- A place: the names that lead to it from the root, the last one first. -/
abbrev Location := List String

namespace Location

def path (location : Location) : String :=
  "/" ++ String.intercalate "/" location.reverse

end Location

/-- What a place holds. -/
inductive FileNode where
  | file (content : Utf8.Bytes)
  | folder
  /-- A link and the path that it stands for. -/
  | link (target : String)
  deriving DecidableEq, Repr

def FileNode.kind : FileNode → FileKind
  | .file _ => .file
  | .folder => .folder
  | .link _ => .link

/-- A file system, and the folder that relative paths start in. -/
structure FileSystem where
  /-- What the places hold; of two entries for one place the first counts. -/
  nodes : List (Location × FileNode)
  current : Location
  deriving Repr

inductive PathEnd where
  /-- At a place that holds something. -/
  | found (location : Location)
  /-- At a free name in a folder; `slashed` tells that a slash follows the name. -/
  | vacant (folder : Location) (name : String) (slashed : Bool)
  deriving DecidableEq, Repr

def isFileName (name : String) : Bool :=
  name != "" && name != "." && name != ".." && name.utf8ByteSize ≤ 255 &&
    name.toList.all fun c => c != '/' && c != '\x00'

namespace FileSystem

/-- What a place holds; the root is a folder. -/
def node? (files : FileSystem) (location : Location) : Option FileNode :=
  if location = [] then some .folder else files.nodes.lookup location

def put (files : FileSystem) (location : Location) (node : FileNode) : FileSystem :=
  { files with nodes := (location, node) :: files.nodes }

/-- The name under which a place lies in a folder. -/
def nameIn? (folder : Location) : Location → Option String
  | [] => none
  | name :: parent => if parent = folder ∧ isFileName name then some name else none

/-- The names in a folder, each once, in the order of the nodes. A name that comes twice keeps its
last place, so a file that is written again stays where it was. -/
def namesIn (files : FileSystem) (folder : Location) : List String :=
  (files.nodes.filterMap fun entry => nameIn? folder entry.1).foldr List.insert []

/-- Follow segments of a path from a place. At a link `follow` takes over, with the place to start at
and the segments from there on; the link at the end of the path is left alone unless `last` is set. -/
def walk (files : FileSystem) (last : Bool)
    (follow : Location → List (List Char) → Except FileError PathEnd) :
    Location → List (List Char) → Except FileError PathEnd
  | here, [] => .ok (.found here)
  | here, segment :: rest =>
    if files.node? here ≠ some .folder then .error .notFolder
    else if segment = [] ∨ segment = ['.'] then files.walk last follow here rest
    else if segment = ['.', '.'] then files.walk last follow here.tail rest
    else
      let name := String.ofList segment
      if 255 < name.utf8ByteSize then .error .nameTooLong
      else match files.node? (name :: here) with
        | some (.link target) =>
          if rest = [] ∧ !last then .ok (.found (name :: here))
          else follow (if Path.isAbsolute target then [] else here)
            (Path.segments target.toList ++ rest)
        | some _ => files.walk last follow (name :: here) rest
        | none =>
          if rest.all (·.isEmpty) then .ok (.vacant here name (!rest.isEmpty))
          else .error .missing

/-- Follow segments of a path from a place over at most `links` links. -/
def resolve (files : FileSystem) (last : Bool) :
    (links : Nat) → Location → List (List Char) → Except FileError PathEnd
  | 0 => files.walk last fun _ _ => .error .tooManyLinks
  | links + 1 => files.walk last (files.resolve last links)

def linkLimit : Nat := 40

def locate (files : FileSystem) (last : Bool) (path : String) : Except FileError PathEnd :=
  if path.toList.contains '\x00' then .error .nulInPath
  else if path.isEmpty then .error .missing
  else files.resolve last linkLimit (if Path.isAbsolute path then [] else files.current)
    (Path.segments path.toList)

/-- The place that a path leads to. -/
def find (files : FileSystem) (path : String) : Except FileError Location := do
  match ← files.locate true path with
  | .found location => return location
  | .vacant _ _ _ => throw .missing

def kindOf (files : FileSystem) (path : String) : Except FileError FileKind := do
  match files.node? (← files.find path) with
  | some node => return node.kind
  | none => throw .missing

/-- The names in the folder that a path leads to, each with what it stands for. -/
def entriesOf (files : FileSystem) (path : String) :
    Except FileError (List (String × FileKind)) := do
  let folder ← files.find path
  if files.node? folder ≠ some .folder then throw .notFolder
  return (files.namesIn folder).filterMap fun name =>
    (files.node? (name :: folder)).map fun node => (name, node.kind)

/-- The one path without links, for all the paths that lead to one place. -/
def canonical (files : FileSystem) (path : String) : Except FileError String := do
  return (← files.find path).path

def read (files : FileSystem) (path : String) : Except FileError Utf8.Bytes := do
  match files.node? (← files.find path) with
  | some (.file content) => return content
  | some _ => throw .isFolder
  | none => throw .missing

def write (files : FileSystem) (path : String) (content : Utf8.Bytes) :
    Except FileError FileSystem := do
  match ← files.locate true path with
  | .found location => match files.node? location with
    | some (.file _) => return files.put location (.file content)
    | _ => throw .isFolder
  | .vacant folder name slashed =>
    if slashed then throw .isFolder
    return files.put (name :: folder) (.file content)

/-- The file system after a node other than a file was made where nothing was. -/
def make (files : FileSystem) (path : String) (node : FileNode) : Except FileError FileSystem := do
  match ← files.locate false path with
  | .found _ => throw .alreadyExists
  | .vacant folder name _ => return files.put (name :: folder) node

/-- An operation that only looks at the file system. -/
def looking {α : Type} (look : FileSystem → Except FileError α) :
    ExceptT FileError (StateM FileSystem) α :=
  fun files => (look files, files)

/-- An operation that changes the file system unless it fails. -/
def changing (change : FileSystem → Except FileError FileSystem) :
    ExceptT FileError (StateM FileSystem) Unit := fun files =>
  match change files with
  | .ok changed => (.ok (), changed)
  | .error error => (.error error, files)

instance : FileAccess (StateM FileSystem) where
  kindOf path := looking (·.kindOf path)
  entriesOf path := looking (·.entriesOf path)
  canonical path := looking (·.canonical path)
  read path := looking (·.read path)
  write path content := changing (·.write path content)
  makeFolder path := changing (·.make path .folder)
  currentFolder := looking fun files => .ok files.current.path

end FileSystem

end ClassRename
