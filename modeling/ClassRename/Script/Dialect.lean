import ClassRename.Path

/-!
# Dialects

Which forms a script may use is told by the extension of its file: JavaScript or TypeScript, with
or without markup, as a module or as a plain script.
-/

namespace ClassRename.Script

/-- The forms that a script may use. -/
structure Dialect where
  /-- Type annotations and declarations. -/
  typed : Bool
  /-- Markup elements as expressions. -/
  markup : Bool
  /-- A module: `await` at the top level, and no HTML comments. -/
  moduleGoal : Bool
  /-- A declaration file, where nothing needs an implementation. -/
  declarations : Bool
  deriving DecidableEq, Repr

namespace Dialect

/-- The dialect of files with an unknown extension: a typed module with markup. -/
def typedMarkup : Dialect :=
  { typed := true, markup := true, moduleGoal := true, declarations := false }

/-- Whether a file name such as `a.d.ts` marks a declaration file. -/
def marksDeclarations (fileName : String) : Bool :=
  let rec go : List Char → Bool
    | [] => false
    | '.' :: 'd' :: '.' :: _ => true
    | _ :: rest => go rest
  go fileName.toList

def ofExtension? (fileName extension : String) : Option Dialect :=
  match extension with
  | "js" | "mjs" =>
    some { typed := false, markup := false, moduleGoal := true, declarations := false }
  | "cjs" => some { typed := false, markup := false, moduleGoal := false, declarations := false }
  | "jsx" => some { typed := false, markup := true, moduleGoal := true, declarations := false }
  | "ts" | "mts" => some {
      typed := true, markup := false, moduleGoal := true
      declarations := marksDeclarations fileName }
  | "cts" => some {
      typed := true, markup := false, moduleGoal := false
      declarations := marksDeclarations fileName }
  | "tsx" => some typedMarkup
  | _ => none

/-- The dialect of the file at a path; a typed module with markup when the extension says nothing. -/
def ofPath (path : String) : Dialect :=
  match Path.fileName? path with
  | none => typedMarkup
  | some fileName =>
    ((Path.extensionOf? fileName).bind (ofExtension? fileName)).getD typedMarkup

end Dialect

end ClassRename.Script
