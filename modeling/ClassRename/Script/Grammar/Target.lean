import ClassRename.Script.Grammar.Names

/-!
# Targets of assignments

What stands before `=` is first read as an expression and then as a pattern: names and members are
targets, array and object literals take values apart, and a default may follow each part. A member
`name = value` of an object literal has a meaning in a pattern only, so a program in which one
remains is faulty.
-/

namespace ClassRename.Script

open Script.Parser

namespace Node

/-- Whether an expression is a target by itself: a name or member, perhaps with a type put to it or
in parentheses. -/
def isSimpleTarget : Node → Bool
  | .identifier _ => true
  | .compound .member _ => true
  | .compound .ascription [value] => value.isSimpleTarget
  | .compound .ascription [.compound .type _, value] => value.isSimpleTarget
  | .compound .ascription [value, .compound .type _] => value.isSimpleTarget
  | .parenthesized inner => inner.isSimpleTarget
  | _ => false

mutual

/-- The pattern that an expression before `=` stands for. -/
def asTarget? : Node → Option Node
  | .object _ members => (membersAsTargets? members).map (.compound .pattern)
  | .compound .array elements => (elementsAsTargets? elements).map (.compound .pattern)
  | node => if node.isSimpleTarget then some node else none

def asTargetWithDefault? : Node → Option Node
  | .compound .assignment parts => some (.compound .pattern parts)
  | node => asTarget? node

/-- The members of an object literal as parts of a pattern; one that takes the rest must be last,
with no comma after it. -/
def membersAsTargets? : List Node → Option (List Node)
  | [] => some []
  | .property key (.compound .defaulted parts) :: later => do
    return .compound .pattern (key :: parts) :: (← membersAsTargets? later)
  | .property key value :: later => do
    return .compound .pattern [key, ← asTargetWithDefault? value] :: (← membersAsTargets? later)
  | [.compound .spread [argument]] => do
    return [.compound .spread [← asTarget? argument]]
  | _ => none

/-- The elements of an array literal as parts of a pattern; one that takes the rest must be last,
with no comma after it. -/
def elementsAsTargets? : List Node → Option (List Node)
  | [] => some []
  | .compound .absent parts :: later => do
    return .compound .absent parts :: (← elementsAsTargets? later)
  | [.compound .spread [argument]] => do
    return [.compound .spread [← asTarget? argument]]
  | .compound .spread _ :: _ => none
  | element :: later => do
    return (← asTargetWithDefault? element) :: (← elementsAsTargets? later)

end

mutual

/-- Whether a member `name = value` remains in an object literal somewhere in a tree. -/
def holdsDefaulted : Node → Bool
  | .identifier _ => false
  | .string _ => false
  | .object _ members => holdDefaulted members
  | .property key value => key.holdsDefaulted || value.holdsDefaulted
  | .call callee arguments => callee.holdsDefaulted || holdDefaulted arguments
  | .parenthesized inner => inner.holdsDefaulted
  | .attribute _ value => value.holdsDefaulted
  | .attributeString _ => false
  | .container inner => inner.holdsDefaulted
  | .compound .defaulted _ => true
  | .compound _ parts => holdDefaulted parts

def holdDefaulted : List Node → Bool
  | [] => false
  | node :: later => node.holdsDefaulted || holdDefaulted later

end

end Node

/-- An expression read as the target of `=`. -/
def target (expression : Node) : Parser Node :=
  match expression.asTarget? with
  | some pattern => return pattern
  | none => fail

/-- An expression read as the target of another assigning operator. -/
def simpleTarget (expression : Node) : Parser Node :=
  if expression.isSimpleTarget then return expression else fail

end ClassRename.Script
