/-!
# The words of a command line

A command line names one command, with options before and after it. Options that concern every
command may stand on both sides; where both sides give a value, the one after the command counts.
-/

namespace ClassRename.CommandLine

inductive Command where
  /-- Rename the classes in source files. -/
  | rewrite
  /-- Make a rename map from colour tokens. -/
  | map
  deriving DecidableEq, Repr

def Command.name : Command → String
  | .rewrite => "rewrite"
  | .map => "map"

def Command.ofName? (name : String) : Option Command :=
  [Command.rewrite, .map].find? (·.name == name)

inductive Flag where
  | version
  | verbose
  | config
  | noConfig
  | folder
  | map
  | legacy
  | current
  | outDir
  | classPrefix
  deriving DecidableEq, Repr

namespace Flag

def name : Flag → String
  | .version => "version"
  | .verbose => "verbose"
  | .config => "config"
  | .noConfig => "no-config"
  | .folder => "folder"
  | .map => "map"
  | .legacy => "legacy"
  | .current => "current"
  | .outDir => "out-dir"
  | .classPrefix => "prefix"

def letter? : Flag → Option Char
  | .version => some 'V'
  | .verbose => some 'v'
  | _ => none

def takesValue : Flag → Bool
  | .version | .verbose | .noConfig => false
  | _ => true

/-- Whether an option may be given more than once, and with an empty value. -/
def isFree : Flag → Bool
  | .classPrefix => true
  | _ => false

/-- The options that concern every command. -/
def shared : List Flag := [.verbose, .config, .noConfig]

/-- The options before the command. -/
def ofProgram : List Flag := .version :: shared

/-- The options after a command. -/
def ofCommand : Command → List Flag
  | .rewrite => shared ++ [.folder, .map]
  | .map => shared ++ [.legacy, .current, .outDir, .classPrefix]

end Flag

/-- Why a command line cannot be understood. -/
inductive UsageError where
  | unexpected (word : String)
  | valueMissing (flag : Flag)
  | repeated (flag : Flag)
  | missing (flag : Flag)
  | commandMissing
  /-- A configuration file is given, and none is to be used. -/
  | configConflict
  deriving DecidableEq, Repr

def UsageError.message : UsageError → String
  | .unexpected word => "unexpected argument '" ++ word ++ "' found"
  | .valueMissing flag => "a value is required for '--" ++ flag.name ++ "'"
  | .repeated flag => "the argument '--" ++ flag.name ++ "' cannot be used multiple times"
  | .missing flag => "the argument '--" ++ flag.name ++ "' was not provided"
  | .commandMissing => "a command was not provided"
  | .configConflict => "the argument '--no-config' cannot be used with '--config'"

/-- Why reading ends before the end of the command line. -/
inductive Stop where
  | usage (error : UsageError)
  /-- The version is asked for. -/
  | version
  deriving DecidableEq, Repr

inductive WordForm where
  /-- Two hyphens: no options follow. -/
  | endOfOptions
  | long (name : String) (value : Option String)
  | short (letters : List Char)
  | plain
  deriving DecidableEq, Repr

/-- What a word looks like: one hyphen alone is a plain word. -/
def WordForm.ofWord (word : String) : WordForm :=
  match word.toList with
  | ['-', '-'] => .endOfOptions
  | '-' :: '-' :: rest =>
    let name := String.ofList (rest.takeWhile (· ≠ '='))
    match rest.dropWhile (· ≠ '=') with
    | [] => .long name none
    | _ :: value => .long name (some (String.ofList value))
  | ['-'] => .plain
  | '-' :: letters => .short letters
  | _ => .plain

/-- Options with their values, in the order of the command line. -/
abbrev Given := List (Flag × String)

namespace Given

def value? (given : Given) (flag : Flag) : Option String := given.lookup flag

def has (given : Given) (flag : Flag) : Bool := (given.value? flag).isSome

def values (given : Given) (flag : Flag) : List String :=
  (given.filter (·.1 == flag)).map (·.2)

def add (given : Given) (flag : Flag) (value : String) : Except Stop Given :=
  if flag = .version then .error .version
  else if flag.isFree then .ok (given ++ [(flag, value)])
  else if given.has flag then .error (.usage (.repeated flag))
  else if flag.takesValue ∧ value.isEmpty then .error (.usage (.valueMissing flag))
  else .ok (given ++ [(flag, value)])

/-- The options that letters stand for. -/
def addLetters (allowed : List Flag) (word : String) : Given → List Char → Except Stop Given
  | given, [] => .ok given
  | given, c :: letters =>
    match allowed.find? (·.letter? == some c) with
    | none => .error (.usage (.unexpected word))
    | some flag => do addLetters allowed word (← given.add flag "") letters

/-- Read options up to the first plain word that is no option's value. What is left begins with that
word. -/
def read (allowed : List Flag) : Given → List String → Except Stop (Given × List String)
  | given, [] => .ok (given, [])
  | given, word :: rest =>
    match WordForm.ofWord word with
    | .plain => .ok (given, word :: rest)
    | .endOfOptions => match rest with
      | [] => .ok (given, [])
      | next :: _ => .error (.usage (.unexpected next))
    | .short letters => do read allowed (← given.addLetters allowed word letters) rest
    | .long name value? =>
      match allowed.find? (·.name == name) with
      | none => .error (.usage (.unexpected word))
      | some flag =>
        match value? with
        | some value =>
          if flag.takesValue then do read allowed (← given.add flag value) rest
          else .error (.usage (.unexpected word))
        | none =>
          if flag.takesValue then
            match rest with
            | [] => .error (.usage (.valueMissing flag))
            | value :: later =>
              if WordForm.ofWord value = .plain then do read allowed (← given.add flag value) later
              else .error (.usage (.valueMissing flag))
          else do read allowed (← given.add flag "") rest

/-- Refuse options that contradict each other. -/
def checkConfig (given : Given) : Except Stop Unit :=
  if given.has .config ∧ given.has .noConfig then .error (.usage .configConflict) else .ok ()

def required (given : Given) (flag : Flag) : Except Stop String :=
  match given.value? flag with
  | some value => .ok value
  | none => .error (.usage (.missing flag))

end Given

/-- Which configuration to use. -/
inductive ConfigChoice where
  /-- The one that holds for the current folder. -/
  | search
  /-- The one in a file. -/
  | file (path : String)
  /-- None. -/
  | ignore
  deriving DecidableEq, Repr

/-- What a command is to do. -/
inductive Task where
  /-- Rename classes in the source files that a root stands for, by the map in a file. -/
  | rewrite (root : String) (map : Option String)
  /-- Make rename maps from two token files and write them to a folder. -/
  | map (legacy current outDir : String) (prefixes : List String)
  deriving DecidableEq, Repr

/-- A command line that is understood. -/
structure Invocation where
  verbose : Bool
  config : ConfigChoice
  task : Task
  deriving DecidableEq, Repr

/-- The task of a command with its options. -/
def Task.ofGiven (command : Command) (given : Given) : Except Stop Task :=
  match command with
  | .rewrite => return .rewrite (← given.required .folder) (given.value? .map)
  | .map =>
    return .map (← given.required .legacy) (← given.required .current)
      ((given.value? .outDir).getD ".") (given.values .classPrefix)

/-- The choice that the options on both sides of the command make. -/
def ConfigChoice.ofGiven (before after : Given) : ConfigChoice :=
  if before.has .noConfig || after.has .noConfig then .ignore
  else match (after.value? .config).or (before.value? .config) with
    | some path => .file path
    | none => .search

/-- Understand a command line. -/
def Invocation.ofWords (words : List String) : Except Stop Invocation := do
  match ← Given.read Flag.ofProgram [] words with
  | (_, []) => throw (.usage .commandMissing)
  | (before, name :: words) =>
    match Command.ofName? name with
    | none => throw (.usage (.unexpected name))
    | some command =>
      let (after, rest) ← Given.read (Flag.ofCommand command) [] words
      if let word :: _ := rest then throw (.usage (.unexpected word))
      let task ← Task.ofGiven command after
      after.checkConfig
      before.checkConfig
      return { verbose := before.has .verbose || after.has .verbose
               config := ConfigChoice.ofGiven before after
               task }

end ClassRename.CommandLine
