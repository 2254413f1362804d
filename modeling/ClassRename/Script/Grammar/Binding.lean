import ClassRename.Script.Grammar.Annotation

/-!
# Patterns and parameters

A binding is a name or a pattern that takes an array or object apart; each part of a pattern may
have a default.
-/

namespace ClassRename.Script

open Script.Parser

/-- A value after `=`, if there is one. -/
def initializer? (rules : Rules) : Parser (List Node) := do
  if ← take .assign then
    return [← within ({ · with inOperator := true }) (rules (.assignment true))]
  else return []

def bindingWithDefault (rules : Rules) : Parser Node := do
  let target ← rules .binding
  match ← initializer? rules with
  | [] => return target
  | default => return .compound .pattern (target :: default)

/-- A binding that takes what is left; it has to be the last. -/
def restBinding (rules : Rules) : Parser Node := do
  expect .ellipsis
  let target ← rules .binding
  faultIf (← sees .comma)
  return .compound .spread [target]

def arrayPattern (rules : Rules) : Parser Node := do
  expect .bracketOpen
  let elements ← commaList .bracketClose do
    if ← sees .comma then return .absent
    else if ← sees .ellipsis then restBinding rules
    else bindingWithDefault rules
  expect .bracketClose
  return .compound .pattern elements

def patternMember (rules : Rules) : Parser Node := do
  if ← sees .ellipsis then restBinding rules
  else
    let seesName ← seesIdentifier
    let key ← memberKey rules
    if ← take .colon then
      return .compound .pattern [key, ← bindingWithDefault rules]
    else
      failIf (!seesName)
      match ← initializer? rules with
      | [] => return key
      | default => return .compound .pattern (key :: default)

def objectPattern (rules : Rules) : Parser Node := do
  expect .braceOpen
  let members ← commaList .braceClose (patternMember rules)
  expect .braceClose
  return .compound .pattern members

def binding (rules : Rules) : Parser Node := do
  if ← sees .bracketOpen then arrayPattern rules
  else if ← sees .braceOpen then objectPattern rules
  else identifier

def decorator (rules : Rules) : Parser Node := do
  expect .at
  within ({ · with decorating := true }) (rules .leftHandSide)

def decorators (rules : Rules) : Parser (List Node) :=
  many do if ← sees .at then return some (← decorator rules) else return none

/-- The words that make a property of a constructor's parameter. -/
def propertyModifiers : List String := ["public", "private", "protected", "readonly", "override"]

/-- Whether the word in view is a modifier of the parameter after it. -/
def seesPropertyModifier : Parser Bool := do
  if (← typed) && (← seesAnyWord propertyModifiers) then
    afterNext do
      return (← seesIdentifier) || (← seesAny [.braceOpen, .bracketOpen, .ellipsis])
  else return false

def parameter (rules : Rules) : Parser Node := do
  let decorators ← decorators rules
  let _ ← many do if ← seesPropertyModifier then advance; return some () else return none
  if ← sees .ellipsis then
    expect .ellipsis
    let target ← rules .binding
    let type ← annotation? rules
    let default ← initializer? rules
    faultIf (!default.isEmpty)
    faultIf (← sees .comma)
    return .compound .pattern (decorators ++ [target] ++ type ++ default)
  else if (← typed) && (← seesWord "this") then
    advance
    return .compound .pattern (decorators ++ (← annotation? rules))
  else
    let target ← rules .binding
    let _ ← takeTyped .question
    let type ← annotation? rules
    let default ← initializer? rules
    return .compound .pattern (decorators ++ [target] ++ type ++ default)

def parameters (rules : Rules) : Parser (List Node) := do
  expect .parenOpen
  let parameters ← commaList .parenClose (parameter rules)
  expect .parenClose
  return parameters

end ClassRename.Script
