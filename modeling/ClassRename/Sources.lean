import ClassRename.Config
import ClassRename.Files.Access

/-!
# Collecting source files

A run takes a root: a file, which is taken if it is a source file, or a folder, from which all source
files below are taken. Links are followed, and a link that leads nowhere or back to a folder on the
way to it ends the collection. The files come in the order of their paths.
-/

namespace ClassRename

/-- What was tried on a file or a folder. -/
inductive FileActivity where
  | look
  | list
  | read
  | write
  deriving DecidableEq, Repr

def FileActivity.name : FileActivity → String
  | .look => "stat"
  | .list => "read directory"
  | .read => "read"
  | .write => "write"

/-- A file or a folder that cannot be used, which ends a run. -/
structure FileFailure where
  activity : FileActivity
  path : String
  cause : FileError
  deriving DecidableEq, Repr

def FileFailure.message (failure : FileFailure) : String :=
  "Failed to " ++ failure.activity.name ++ " " ++ failure.path

namespace PathStep

def rank : PathStep → Nat
  | .root => 0
  | .here => 1
  | .up => 2
  | .name _ => 3

/-- Whether a step comes before another: by kind, and names by their text. -/
def before : PathStep → PathStep → Bool
  | .name a, .name b => a < b
  | a, b => a.rank < b.rank

end PathStep

namespace Path

/-- Whether steps come before others or are the same: step by step, and the shorter first. -/
def stepsUpTo : List PathStep → List PathStep → Bool
  | [], _ => true
  | _ :: _, [] => false
  | a :: as, b :: bs => if a = b then stepsUpTo as bs else a.before b

/-- Whether a path comes before another or has the same steps. -/
def upTo (a b : String) : Bool := stepsUpTo (steps a) (steps b)

end Path

namespace Sources

variable {m : Type → Type} [Monad m] [FileAccess m]

def trying {α : Type} (activity : FileActivity) (path : String) (run : ExceptT FileError m α) :
    ExceptT FileFailure m α :=
  ExceptT.adapt (fun cause => { activity, path, cause }) run

/-- What an entry of a folder leads to, where `ancestors` are the folders on the way to it. -/
def followed (ancestors : List String) (path : String) :
    FileKind → ExceptT FileFailure m FileKind
  | .link => do
    let kind ← trying .list path (FileAccess.kindOf path)
    if kind = .folder then
      let folder ← trying .list path (FileAccess.canonical path)
      if ancestors.contains folder then
        throw { activity := .list, path, cause := .folderLoop }
    return kind
  | kind => return kind

/-- The source files below a folder, where `ancestors` are the folders on the way to it and `depth`
bounds how deep they lie. -/
def below (config : Config) : (depth : Nat) → (ancestors : List String) → (folder : String) →
    ExceptT FileFailure m (List String)
  | 0, _, folder => throw { activity := .list, path := folder, cause := .nameTooLong }
  | depth + 1, ancestors, folder => do
    let entries ← trying .list folder (FileAccess.entriesOf folder)
    let ancestors := (← trying .list folder (FileAccess.canonical folder)) :: ancestors
    let found ← entries.mapM fun (name, kind) => do
      let path := Path.join folder name
      match ← followed ancestors path kind with
      | .folder => below config depth ancestors path
      | .file => return if config.isEligible path then [path] else []
      | _ => return []
    return found.flatten

/-- A path has fewer bytes than this, and so it has fewer steps. -/
def depthLimit : Nat := 4096

/-- The source files that a root stands for, in the order of their paths. -/
def collect (config : Config) (root : String) : ExceptT FileFailure m (List String) := do
  match ← trying .look root (FileAccess.kindOf root) with
  | .folder => return (← below config depthLimit [] root).mergeSort Path.upTo
  | _ => return if config.isEligible root then [root] else []

end Sources

end ClassRename
