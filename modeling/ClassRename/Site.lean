import ClassRename.Edit
import ClassRename.Matcher
import ClassRename.Script.Quoting
import ClassRename.Script.Tree

/-!
# Sites of class names

A site is a string of a program that may hold class names. Renaming the names in it gives an edit
that writes the string anew, each kind of string in its own quotes.
-/

namespace ClassRename

open Script

/-- A string of a program that may hold class names. -/
inductive Site where
  /-- A string literal. -/
  | string (literal : StringLiteral)
  /-- The string of an element's attribute. -/
  | attribute (literal : StringLiteral)
  deriving DecidableEq, Repr

namespace Site

def literal : Site → StringLiteral
  | .string literal => literal
  | .attribute literal => literal

def written : Site → String → String
  | .string _, value => quoted value
  | .attribute _, value => attributeQuoted value

/-- The edit that renames the class names at a site, if there is anything to rename. -/
def edit? (matcher : Matcher) (site : Site) : Option Edit :=
  (matcher.rename site.literal.value).map fun change =>
    { span := site.literal.span
      replacement := site.written change.value
      message := change.describe }

end Site

end ClassRename
