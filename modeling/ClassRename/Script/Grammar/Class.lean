import ClassRename.Script.Grammar.Literal

/-!
# Classes

A class has a name, what it extends and implements, and members: fields, methods, accessors, index
signatures and static blocks, each with decorators and modifiers.
-/

namespace ClassRename.Script

open Script.Parser

/-- The modifiers that a class member may have where types may be written. -/
def typedMemberModifiers : List String :=
  ["declare", "public", "private", "protected", "static", "abstract", "override", "readonly",
    "accessor"]

/-- The modifiers that a class member may have anywhere. -/
def plainMemberModifiers : List String := ["static", "accessor"]

def seesClassModifier : Parser Bool := do
  let modifiers := if ← typed then typedMemberModifiers else plainMemberModifiers
  if ← seesAnyWord modifiers then
    let isStatic ← seesWord "static"
    afterNext do
      if !isStatic && (← afterLineEnd) then return false
      else return (← seesKey) || (← sees .times)
  else return false

/-- The modifiers before a class member, each of them once. A second `static` is no modifier but the
member's name. -/
def classModifiers : Parser (List String) :=
  iterate (fun found => do
    match ← lexeme with
    | .word name false =>
      if (name == "static" && found.contains name) || !(← seesClassModifier) then return none
      else
        faultIf (found.contains name)
        advance
        return some (name :: found)
    | _ => return none) []

/-- The value of a field, in which neither `await` nor `yield` is an operator. -/
def fieldValue? (rules : Rules) : Parser (List Node) :=
  within ({ · with inOperator := true, awaiting := false, yielding := false }) (initializer? rules)

/-- Take the mark of a member that may be missing, or of one that is set elsewhere. -/
def takeMemberMark : Parser Unit := do
  if ← takeTyped .question then return else takeDefinite

/-- A class member after its decorators and modifiers. A static block has no modifiers. -/
def classMemberRest (rules : Rules) (modifiers : List String) : Parser (List Node) := do
  if modifiers.isEmpty && (← seesWord "static") && (← afterNext (sees .braceOpen)) then
    advance
    expect .braceOpen
    let statements ← within (fun context =>
        { Context.ofFunction true false context with returning := false }) <|
      upTo .braceClose (rules (.statement .list))
    expect .braceClose
    return statements
  else if (← seesWord "get") && (← afterNext seesKey) then
    advance
    let key ← classMemberKey rules
    return [key, ← accessor rules true .signatureAllowed]
  else if (← seesWord "set") && (← afterNext seesKey) then
    advance
    let key ← classMemberKey rules
    return [key, ← accessor rules false .signatureAllowed]
  else if (← typed) && (← sees .bracketOpen) && (← opensIndexSignature) then
    let parts ← indexSignature rules
    endTypeMember
    return parts
  else
    let awaiting ← takeAsync
    let yielding ← take .times
    let key ← classMemberKey rules
    takeMemberMark
    if awaiting || yielding || (← seesAny [.parenOpen, .less]) then
      return [key, ← method rules awaiting yielding .signatureAllowed]
    else
      let type ← annotation? rules
      let value ← fieldValue? rules
      endStatement
      return [key] ++ type ++ value

def classMember (rules : Rules) : Parser Node := do
  if ← take .semicolon then return .absent
  else
    let decorators ← decorators rules
    let modifiers ← classModifiers
    return .statement (decorators ++ (← classMemberRest rules modifiers))

/-- What a class extends and implements. -/
def heritage (rules : Rules) : Parser (List Node) := do
  let clauses ← many do
    if ← takeWord "extends" then
      let parent ← rules .leftHandSide
      let arguments ← typeArguments? rules
      return some (parent :: arguments)
    else if (← typed) && (← seesWord "implements") then
      advance
      return some (← commaSeparated (typeReference rules))
    else return none
  return clauses.flatten

/-- Whether the word in view is the name of a class and does not begin what it implements. -/
def seesClassName : Parser Bool := do
  if (← typed) && (← seesWord "implements") then return !(← afterNext seesAnyName)
  else seesIdentifier

/-- A class from the word `class` on, after its decorators. -/
def classFrom (rules : Rules) (decorators : List Node) (needsName : Bool) : Parser Node := do
  expectWord "class"
  let name ← optional seesClassName identifier
  failIf (needsName && name.isEmpty)
  let typeParameters ← typeParameters? rules
  let heritage ← heritage rules
  expect .braceOpen
  let members ← within ({ · with decorating := false }) (upTo .braceClose (classMember rules))
  expect .braceClose
  return .compound .function (decorators ++ name ++ typeParameters ++ heritage ++ members)

end ClassRename.Script
