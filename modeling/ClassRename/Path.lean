/-!
# Paths

A path is a text of names separated by slashes. Its meaning is its list of steps: repeated slashes
and inner `.` steps are skipped, so `a//b/.` and `a/b` have the same steps.
-/

namespace ClassRename

/-- One step of a path, in the order in which paths are compared: the root first, names last. -/
inductive PathStep where
  /-- The leading slash. -/
  | root
  /-- A leading `.`. -/
  | here
  /-- `..`. -/
  | up
  /-- An entry's name. -/
  | name (text : String)
  deriving DecidableEq, Repr

namespace Path

def segments (path : List Char) : List (List Char) :=
  path.foldr (fun c segments => if c = '/' then [] :: segments else match segments with
    | [] => [[c]]
    | segment :: later => (c :: segment) :: later) [[]]

/-- The step that a segment after the first stands for. -/
def stepOf? (segment : List Char) : Option PathStep :=
  if segment = [] ∨ segment = ['.'] then none
  else if segment = ['.', '.'] then some .up
  else some (.name (String.ofList segment))

def steps (path : String) : List PathStep :=
  match segments path.toList with
  | [] => []
  | first :: later =>
    let leading : List PathStep :=
      if first = [] then (if later = [] then [] else [.root])
      else if first = ['.'] then [.here]
      else (stepOf? first).toList
    leading ++ later.filterMap stepOf?

/-- The name of the entry that a path leads to; a path that ends in the root or in `..` has none. -/
def fileName? (path : String) : Option String :=
  match (steps path).getLast? with
  | some (.name text) => some text
  | _ => none

/-- The extension in an entry's name: what follows the last dot, which must not be the first
character. -/
def extensionOf? (fileName : String) : Option String :=
  let reversed := fileName.toList.reverse
  let extension := reversed.takeWhile (· ≠ '.')
  match reversed.drop extension.length with
  | [] => none
  | [_] => none
  | _ => some (String.ofList extension.reverse)

def extension? (path : String) : Option String :=
  (fileName? path).bind extensionOf?

def isAbsolute (path : String) : Bool := path.toList.head? == some '/'

/-- Segments as a path; no segment but the empty first one is the root. -/
def ofSegments (first : List Char) (later : List (List Char)) : String :=
  if first = [] ∧ later = [] then "/"
  else String.ofList (first ++ later.flatMap ('/' :: ·))

/-- The path without its last step and without what only fills the space before it. The root and the
empty path have no parent; the parent of a single step is the empty path. -/
def parent? (path : String) : Option String :=
  match segments path.toList with
  | [] => none
  | first :: later =>
    let isFiller (segment : List Char) : Bool := (stepOf? segment).isNone
    match later.reverse.dropWhile isFiller with
    | [] => if first = [] then none else some ""
    | _ :: before => some (ofSegments first (before.dropWhile isFiller).reverse)

/-- A path that starts where another leads; an absolute one stays as it is. -/
def join (base path : String) : String :=
  if isAbsolute path then path
  else if base.isEmpty || base.toList.getLast? == some '/' then base ++ path
  else base ++ "/" ++ path

end Path

end ClassRename
