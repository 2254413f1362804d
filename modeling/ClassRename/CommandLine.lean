import ClassRename.CommandLine.Arguments
import ClassRename.CommandLine.Report

/-!
# Running a command line

A run loads the configuration and then does what its command asks for. It gives an exit code and two
texts: what it tells, and its problems. How large a pattern is, is up to what compiles patterns, so a run
takes a measure of them.
-/

namespace ClassRename.CommandLine

/-- What a run leaves behind, apart from the files. -/
structure RunResult where
  code : Nat
  output : String
  problems : String
  deriving DecidableEq, Repr

def versionText : String := "twmod 0.1.0"

/-- The result of a run that fails after it has told something. -/
def RunResult.failed (output : String) (error : RunError) : RunResult :=
  { code := error.code, output, problems := error.message }

variable {m : Type → Type} [Monad m] [FileAccess m]

def loadConfig : ConfigChoice → ExceptT RunError m (Config × Option String)
  | .ignore => return ({}, none)
  | .file path => return (← ExceptT.adapt .config (Config.load path), some path)
  | .search => do
    let folder ← ExceptT.adapt .currentFolder FileAccess.currentFolder
    match ← ExceptT.adapt .config (Config.search folder) with
    | some (config, path) => return (config, some path)
    | none => return ({}, none)

/-- The file of the rename map: the one asked for, else the one of the configuration, else the one
that rename maps are written to. -/
def mapPath (asked : Option String) (config : Config) (configPath : Option String) : String :=
  (asked.or (config.mapPath? configPath)).getD Mapping.classesFile

def runRewrite (patternSize : PatternSize) (verbose : Bool) (config : Config) (mapPath root : String) :
    m RunResult := do
  match ← (RenameMap.load mapPath : ExceptT RenameMapError m RenameMap).run with
  | .error error => return .failed "" (.renameMap error)
  | .ok map =>
    match Matcher.build patternSize map with
    | .error error => return .failed "" (.matcher mapPath error)
    | .ok matcher =>
      let header := if verbose then Report.header mapPath matcher.map else ""
      let rewriting : ExceptT FileFailure m (List (String × Outcome)) :=
        Sources.rewriteAll config matcher root
      match ← rewriting.run with
      | .error failure => return .failed header (.file failure)
      | .ok results =>
        return { code := 0
                 output := header ++ Report.output verbose results
                 problems := Report.problems results }

def runMap (config : Config) (legacy current outDir : String) (prefixes : List String) :
    ExceptT RunError m String := do
  let legacy ← ExceptT.adapt .colorToken (ColorToken.load legacy)
  let current ← ExceptT.adapt .colorToken (ColorToken.load current)
  let prefixes :=
    if prefixes.isEmpty then config.prefixes.getD Mapping.defaultPrefixes else prefixes
  let mapping := Mapping.build prefixes legacy current
  ExceptT.adapt (.outDir outDir) (FileAccess.ensureFolders outDir)
  ExceptT.adapt .renameMap (mapping.colors.save (Path.join outDir Mapping.colorsFile))
  ExceptT.adapt .renameMap (mapping.classes.save (Path.join outDir Mapping.classesFile))
  return Report.mappingLines mapping prefixes outDir

def Invocation.run (patternSize : PatternSize) (invocation : Invocation) : m RunResult := do
  match ← (loadConfig invocation.config : ExceptT RunError m _).run with
  | .error error => return .failed "" error
  | .ok (config, configPath) =>
    match invocation.task with
    | .rewrite root map =>
      runRewrite patternSize invocation.verbose config (mapPath map config configPath) root
    | .map legacy current outDir prefixes =>
      match ← (runMap config legacy current outDir prefixes : ExceptT RunError m String).run with
      | .error error => return .failed "" error
      | .ok output => return { code := 0, output, problems := "" }

/-- Run the words of a command line, with a measure of patterns. -/
def runWith (patternSize : PatternSize) (words : List String) : m RunResult :=
  match Invocation.ofWords words with
  | .error (.usage error) =>
    return { code := 2, output := "", problems := line ("error: " ++ error.message) }
  | .error .version => return { code := 0, output := line versionText, problems := "" }
  | .ok invocation => invocation.run patternSize

def run (words : List String) : m RunResult := runWith Matcher.roughSize words

end ClassRename.CommandLine
