import ClassRename.Rewrite
import ClassRename.Sources
import ClassRename.Text.Position

/-!
# Rewriting source files

Each source file is rewritten in place, one after the other. A file that is no text, or no program,
is left as it is and the run goes on; a file that cannot be read or written ends the run, and the
files before it stay rewritten.
-/

namespace ClassRename

/-- An edit that was made, for the reader. -/
structure EditNote where
  position : Text.Position
  message : String
  deriving DecidableEq, Repr

inductive Outcome where
  /-- There was nothing to rename. -/
  | unchanged
  | rewritten (notes : List EditNote)
  /-- The file is no text. -/
  | notText (fault : Text.Utf8.Fault)
  /-- The text is no program. -/
  | notProgram (error : Script.SyntaxError)
  /-- The edits cannot be made. -/
  | notEditable (error : EditError)
  deriving DecidableEq, Repr

/-- The reason why a file was left alone, if something is wrong with it. -/
def Outcome.problem? : Outcome → Option String
  | .unchanged => none
  | .rewritten _ => none
  | .notText fault => some ("Not valid UTF-8: " ++ fault.message)
  | .notProgram _ => some "Parse error"
  | .notEditable error => some error.message

def EditNote.ofEdit (source : String) (edit : Edit) : EditNote :=
  { position := Text.Position.ofOffset source.toList edit.span.start
    message := edit.message }

/-- A way to rewrite the scripts of each dialect, whatever the rules. -/
abbrev Rewriting := Script.Dialect → String → Except RewriteError Rewritten

/-- How the class names of a file's content come out: its new text, if there is one, and what to
tell. -/
def rewriteContentBy (rewriting : Rewriting) (path : String) (content : Text.Utf8.Bytes) :
    Option String × Outcome :=
  match Text.Utf8.decode content with
  | .error fault => (none, .notText fault)
  | .ok source =>
    match rewriting (Script.Dialect.ofPath path) source with
    | .error (.unreadable error) => (none, .notProgram error)
    | .error (.uneditable error) => (none, .notEditable error)
    | .ok result =>
      match result.newSource with
      | none => (none, .unchanged)
      | some text => (some text, .rewritten (result.edits.map (EditNote.ofEdit source)))

namespace Sources

variable {m : Type → Type} [Monad m] [FileAccess m]

def rewriteFileBy (rewriting : Rewriting) (path : String) : ExceptT FileFailure m Outcome := do
  let content ← trying .read path (FileAccess.read path)
  match rewriteContentBy rewriting path content with
  | (none, outcome) => return outcome
  | (some text, outcome) =>
    trying .write path (FileAccess.writeText path text)
    return outcome

/-- Rewrite files in the order given. -/
def rewriteFilesBy (rewriting : Rewriting) (paths : List String) :
    ExceptT FileFailure m (List (String × Outcome)) :=
  paths.mapM fun path => return (path, ← rewriteFileBy rewriting path)

/-- Rewrite all source files that a root stands for. -/
def rewriteAllBy (config : Config) (rewriting : Rewriting) (root : String) :
    ExceptT FileFailure m (List (String × Outcome)) := do
  rewriteFilesBy rewriting (← collect config root)

def rewriteFile (options : Options) (matcher : Matcher) (path : String) :
    ExceptT FileFailure m Outcome :=
  rewriteFileBy (rewrite options matcher) path

def rewriteAll (config : Config) (matcher : Matcher) (root : String) :
    ExceptT FileFailure m (List (String × Outcome)) :=
  rewriteAllBy config (rewrite config.attributes matcher) root

end Sources

end ClassRename
