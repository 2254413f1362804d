import ClassRename.Rule
import ClassRename.Script.Grammar

/-!
# Rewriting a script

A script is read, the rules ask for edits, and the edits are made. All that no edit touches keeps its
text.
-/

namespace ClassRename

open Script

/-- The outcome of rewriting a script: the edits, and the new text if there are any. -/
structure Rewritten where
  edits : List Edit
  newSource : Option String
  deriving DecidableEq, Repr

inductive RewriteError where
  /-- It cannot be read. -/
  | unreadable (error : SyntaxError)
  /-- Its edits cannot be made. -/
  | uneditable (error : EditError)
  deriving DecidableEq, Repr

def RewriteError.message : RewriteError → String
  | .unreadable error => error.message
  | .uneditable error => error.message

/-- Rewrite a script that `read` makes a tree of. -/
def rewriteBy (read : String → Except SyntaxError Node) (options : Options) (matcher : Matcher)
    (source : String) : Except RewriteError Rewritten :=
  match read source with
  | .error error => .error (.unreadable error)
  | .ok tree =>
    let edits := Rule.allEdits options matcher tree
    if edits.isEmpty then .ok { edits, newSource := none }
    else match Edit.applyAll source edits with
      | .ok newSource => .ok { edits, newSource := some newSource }
      | .error error => .error (.uneditable error)

def rewrite (options : Options) (matcher : Matcher) (dialect : Dialect) (source : String) :
    Except RewriteError Rewritten :=
  rewriteBy (parse dialect) options matcher source

end ClassRename
