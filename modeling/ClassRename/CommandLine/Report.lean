import ClassRename.ColorToken.File
import ClassRename.Config.Search
import ClassRename.Mapping
import ClassRename.RenameMap.File
import ClassRename.SourceRun

/-!
# What a run tells

A run tells what became of each source file and ends with a count. Files that were skipped are told
apart from the rest, as problems. A run that fails tells the chain of causes.
-/

namespace ClassRename.CommandLine

def line (text : String) : String := text ++ "\n"

def pluralEnding (count : Nat) : String := if count = 1 then "" else "s"

def counted (count : Nat) (noun : String) : String :=
  toString count ++ " " ++ noun ++ pluralEnding count

namespace Report

/-- What is told before source files are rewritten. -/
def header (mapPath : String) (map : RenameMap) : String :=
  line ("Map: " ++ mapPath) ++ line ("Classes: " ++ toString map.size) ++
    line ("Rules: " ++ String.intercalate ", " (Rule.all.map Rule.name)) ++ line ""

def editLine (note : EditNote) : String :=
  line ("  " ++ toString note.position.line ++ ":" ++ toString note.position.column ++ " -> " ++
    note.message)

def fileLines (verbose : Bool) (path : String) : Outcome → String
  | .unchanged => if verbose then line (path ++ ": No changes needed") else ""
  | .rewritten notes =>
    line ("Rewrote " ++ path ++ " (" ++ counted notes.length "edit" ++ ")") ++
      if verbose then String.join (notes.map editLine) else ""
  | _ => ""

def problemLine (path : String) (outcome : Outcome) : String :=
  match outcome.problem? with
  | none => ""
  | some problem => line ("Skipped " ++ path ++ ": " ++ problem)

def editCount : Outcome → Nat
  | .rewritten notes => notes.length
  | _ => 0

def isRewritten : Outcome → Bool
  | .rewritten _ => true
  | _ => false

def summary (outcomes : List Outcome) : String :=
  let skipped := outcomes.countP (·.problem?.isSome)
  line "" ++ line ("Done: " ++ counted outcomes.length "file" ++ " scanned, " ++
    toString (outcomes.countP isRewritten) ++ " rewritten, " ++
    counted (outcomes.foldl (fun total outcome => total + editCount outcome) 0) "edit" ++
    if skipped = 0 then "" else ", " ++ toString skipped ++ " skipped")

def output (verbose : Bool) (results : List (String × Outcome)) : String :=
  String.join (results.map fun result => fileLines verbose result.1 result.2) ++
    summary (results.map (·.2))

def problems (results : List (String × Outcome)) : String :=
  String.join (results.map fun result => problemLine result.1 result.2)

def mappingLines (mapping : Mapping) (prefixes : List String) (outDir : String) : String :=
  line ("Wrote " ++ toString mapping.colors.size ++ " color renames to " ++
    Path.join outDir Mapping.colorsFile) ++
  line ("Wrote " ++ toString mapping.classes.size ++ " class renames (" ++
    String.intercalate ", " prefixes ++ ") to " ++ Path.join outDir Mapping.classesFile) ++
  if mapping.ambiguous.isEmpty then ""
  else line ("Warning: " ++ counted mapping.ambiguous.length "legacy color" ++
    " matched several current colors; the last match was kept")

end Report

/-- Why a run fails. -/
inductive RunError where
  | config (error : ConfigError)
  | renameMap (error : RenameMapError)
  /-- The rename map in a file has no matcher. -/
  | matcher (mapPath : String) (error : MatcherError)
  | colorToken (error : ColorTokenError)
  /-- The folder for rename maps cannot be made. -/
  | outDir (path : String) (cause : FileError)
  /-- The current folder is not known. -/
  | currentFolder (cause : FileError)
  | file (failure : FileFailure)
  deriving DecidableEq, Repr

namespace RunError

/-- An error and what lies behind it. -/
def chain : RunError → List String
  | .config error => error.message :: error.cause?.toList
  | .renameMap error => [error.message, error.cause]
  | .matcher mapPath error => ["Failed to build matcher from " ++ mapPath, error.message, error.cause]
  | .colorToken error => [error.message, error.cause]
  | .outDir path cause => ["Failed to create " ++ path, cause.message]
  | .currentFolder cause => [cause.message]
  | .file failure => [failure.message, failure.cause.message]

def message (error : RunError) : String :=
  line ("Error: " ++ String.intercalate ": " error.chain)

/-- The exit code of a run that fails: trouble with source files has its own. -/
def code : RunError → Nat
  | .file _ => 12
  | _ => 1

end RunError

end ClassRename.CommandLine
