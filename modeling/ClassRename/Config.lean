import ClassRename.Glob
import ClassRename.Path
import ClassRename.Rule

/-!
# Configuration

What a project may settle in advance: the rename map to use, which files are sources, which of them
stay as they are, the attributes that hold class names, and the prefixes of generated classes.
-/

namespace ClassRename

/-- The settings of a project. -/
structure Config where
  /-- The file of the rename map, relative to the folder of the configuration. -/
  map : Option String := none
  /-- The extensions of source files. -/
  extensions : List String := ["jsx", "tsx"]
  /-- The attributes that hold class names. -/
  attributes : Options := {}
  /-- Patterns of the files that stay as they are. -/
  exclude : List String := []
  /-- The prefixes of generated classes. -/
  prefixes : Option (List String) := none
  deriving DecidableEq, Repr, Inhabited

def occursIn (part : List Char) : List Char → Bool
  | [] => part.isEmpty
  | c :: rest => part.isPrefixOf (c :: rest) || occursIn part rest

/-- Whether a pattern stands for a path or for the name at its end. -/
def globExcludes (pattern path : String) : Bool :=
  match Glob.ofString? pattern with
  | none => false
  | some glob => glob.isMatch path || (Path.fileName? path).any glob.isMatch

/-- The folder that a pattern with a slash at its end names. -/
def folderOf? (pattern : String) : Option (List Char) :=
  let reversed := pattern.toList.reverse
  if reversed.head? = some '/' then some (reversed.dropWhile (· == '/')).reverse else none

/-- Whether a pattern names a folder that a path leads through. -/
def folderExcludes (pattern path : String) : Bool :=
  match folderOf? pattern with
  | none => false
  | some folder =>
    occursIn ('/' :: folder ++ ['/']) path.toList || (folder ++ ['/']).isPrefixOf path.toList

namespace Config

def fileName : String := ".twmod.toml"

def hasSourceExtension (config : Config) (path : String) : Bool :=
  (Path.extension? path).any config.extensions.contains

def excludes (config : Config) (path : String) : Bool :=
  config.exclude.any fun pattern => globExcludes pattern path || folderExcludes pattern path

def isEligible (config : Config) (path : String) : Bool :=
  config.hasSourceExtension path && !config.excludes path

/-- The file of the rename map, as seen from where the path of the configuration is. -/
def mapPath? (config : Config) (configPath : Option String) : Option String :=
  config.map.map fun map =>
    if Path.isAbsolute map then map
    else match configPath.bind Path.parent? with
      | some folder => Path.join folder map
      | none => map

end Config

end ClassRename
