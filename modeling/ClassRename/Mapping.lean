import ClassRename.ColorToken
import ClassRename.RenameMap
import ClassRename.Text.Lowercase

/-!
# Renames from colours of equal value

A legacy colour and a current colour with the same value, letter case aside, make a pair, and each
pair renames the legacy colour and, with every prefix before it, a class. A legacy colour with
several partners takes the last of them and is reported.
-/

namespace ClassRename

/-- A legacy colour with several partners. -/
structure AmbiguousColor where
  legacyPath : String
  /-- The paths of its partners, in the order of the pairs. -/
  candidates : List String
  /-- The partner that the renames use. -/
  chosen : String
  deriving DecidableEq, Repr

/-- The renames that two token trees give. -/
structure Mapping where
  /-- Legacy paths with current ones. -/
  colors : RenameMap
  /-- Legacy classes with current ones. -/
  classes : RenameMap
  ambiguous : List AmbiguousColor

namespace Mapping

/-- The prefixes of the classes that a colour makes, unless others are asked for. -/
def defaultPrefixes : List String := ["text", "bg", "border"]

def classesFile : String := "tw-classes-map.json"

def colorsFile : String := "tw-colors-map.json"

/-- The pairs of paths whose colours have one value, letter case aside: by the order of the legacy
tree, then by that of the current tree. -/
def colorPairs (legacy current : ColorToken) : List (String × String) :=
  let current := current.flatten.map fun (path, value) => (path, Text.lowercase value)
  legacy.flatten.flatMap fun (legacyPath, legacyValue) =>
    let legacyValue := Text.lowercase legacyValue
    (current.filter fun entry => entry.2 == legacyValue).map fun entry => (legacyPath, entry.1)

def className (before path : String) : String := before ++ "-" ++ path

def classPairs (prefixes : List String) (pairs : List (String × String)) :
    List (String × String) :=
  prefixes.flatMap fun before =>
    pairs.map fun (legacy, current) => (className before legacy, className before current)

/-- A pair taken up into the colours found: its current path is a further candidate of its legacy path,
which comes last if it is new. -/
def addCandidate (colors : RenameMap) :
    List AmbiguousColor → String × String → List AmbiguousColor
  | [], (legacyPath, currentPath) =>
    [{ legacyPath, candidates := [currentPath], chosen := (colors.get? legacyPath).getD "" }]
  | color :: later, (legacyPath, currentPath) =>
    if color.legacyPath = legacyPath then
      { color with candidates := color.candidates ++ [currentPath] } :: later
    else color :: addCandidate colors later (legacyPath, currentPath)

/-- The legacy colours that occur in several pairs. -/
def ambiguousColors (colors : RenameMap) (pairs : List (String × String)) :
    List AmbiguousColor :=
  (pairs.foldl (addCandidate colors) []).filter fun color => 1 < color.candidates.length

def build (prefixes : List String) (legacy current : ColorToken) : Mapping :=
  let pairs := colorPairs legacy current
  let colors := RenameMap.ofList pairs
  { colors
    classes := RenameMap.ofList (classPairs prefixes pairs)
    ambiguous := ambiguousColors colors pairs }

end Mapping

end ClassRename
