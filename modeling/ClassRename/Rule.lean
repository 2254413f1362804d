import ClassRename.Site

/-!
# Rules

Three rules say where class names are looked for: in the string values of object literals, in the
object of an attribute that holds classes by slot, and in the attribute that holds an element's class
list. There a call joins class names: its string arguments are names, and the objects among its
arguments have names as their keys and conditions as their values, so the first rule leaves those
objects out.
-/

namespace ClassRename

open Script

/-- The attributes that hold class names. -/
structure Options where
  /-- The attribute with an element's class list. -/
  classAttribute : String := "className"
  /-- The attribute with an object of classes by slot. -/
  classesAttribute : String := "classes"
  deriving DecidableEq, Repr, Inhabited

/-- What an expression in an attribute is, its parentheses left out. -/
def unparenthesized : Node → Node
  | .parenthesized inner => unparenthesized inner
  | node => node

/-- The arguments of the call that an attribute has as its value. -/
def joinedArguments? : Node → Option (List Node)
  | .container inner => match unparenthesized inner with
    | .call _ arguments => some arguments
    | _ => none
  | _ => none

def valueSites (members : List Node) : List Site :=
  members.filterMap fun
    | .property _ (.string literal) => some (.string literal)
    | _ => none

def keySites (members : List Node) : List Site :=
  members.filterMap fun
    | .property (.string literal) _ => some (.string literal)
    | _ => none

/-- The sites in an argument of a call that joins class names. -/
def argumentSites : Node → List Site
  | .string literal => [.string literal]
  | .object _ members => keySites members
  | _ => []

def classListSites (value : Node) : List Site :=
  match joinedArguments? value with
  | some arguments => arguments.flatMap argumentSites
  | none => match value with
    | .attributeString literal => [.attribute literal]
    | _ => []

def slotSites : Node → List Site
  | .container (.object _ members) => valueSites members
  | _ => []

/-- The places of the objects among the arguments of the call that an attribute has as its value. -/
def joinedObjects (value : Node) : List Span :=
  ((joinedArguments? value).getD []).filterMap fun
    | .object span _ => some span
    | _ => none

/-- What the search for sites in object literals knows on its way through a tree. -/
structure ObjectSearch where
  /-- The places of the objects met so far that a call joins. -/
  joined : List Span := []
  /-- The sites found so far. -/
  sites : List Site := []

/-- Go on with a search at one node. Objects that a call joins are told by their places, which the
attribute around the call gives before they are met. -/
def ObjectSearch.enter (classAttribute : String) (search : ObjectSearch) : Node → ObjectSearch
  | .attribute name value =>
    if name = .plain classAttribute then
      { search with joined := search.joined ++ joinedObjects value }
    else search
  | .object span members =>
    if search.joined.contains span then search
    else { search with sites := search.sites ++ valueSites members }
  | _ => search

/-- A rule for finding sites. -/
inductive Rule where
  | objectValues
  | classesAttribute
  | classNameAttribute
  deriving DecidableEq, Repr

namespace Rule

/-- All rules, in the order in which they run. -/
def all : List Rule := [.objectValues, .classesAttribute, .classNameAttribute]

def name : Rule → String
  | .objectValues => "object_values"
  | .classesAttribute => "classes_attribute"
  | .classNameAttribute => "class_name_attribute"

def description : Rule → String
  | .objectValues => "Rename classes in string values of object literals"
  | .classesAttribute => "Rename classes in the values of a classes=\x7b\x7b ... \x7d\x7d attribute"
  | .classNameAttribute => "Rename classes in className strings and class-joining call arguments"

def attributeSites (wanted : String) (sitesOf : Node → List Site) : Node → List Site
  | .attribute name value => if name = .plain wanted then sitesOf value else []
  | _ => []

/-- The sites that a rule finds in a tree, in the order in which it meets them. -/
def sites (options : Options) (rule : Rule) (tree : Node) : List Site :=
  match rule with
  | .objectValues => (tree.nodes.foldl (ObjectSearch.enter options.classAttribute) {}).sites
  | .classesAttribute => tree.nodes.flatMap (attributeSites options.classesAttribute slotSites)
  | .classNameAttribute => tree.nodes.flatMap (attributeSites options.classAttribute classListSites)

def edits (options : Options) (matcher : Matcher) (rule : Rule) (tree : Node) : List Edit :=
  (rule.sites options tree).filterMap (Site.edit? matcher)

/-- The edits that several rules ask for, run one after the other, in order and merged. -/
def mergedEdits (options : Options) (matcher : Matcher) (rules : List Rule) (tree : Node) :
    List Edit :=
  Edit.merge (rules.flatMap fun rule => rule.edits options matcher tree)

/-- The edits that all rules ask for, in order and merged. -/
def allEdits (options : Options) (matcher : Matcher) (tree : Node) : List Edit :=
  mergedEdits options matcher all tree

end Rule

end ClassRename
