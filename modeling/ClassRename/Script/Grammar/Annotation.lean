import ClassRename.Script.Grammar.Names

/-!
# Type annotations

Where types are written: after a colon, as the arguments of a generic name, and as the parameters
of a generic declaration.
-/

namespace ClassRename.Script

open Script.Parser

def typeArguments (rules : Rules) : Parser Node := do
  asOpeningAngle
  expect .less
  let arguments ← commaList .greater (rules .type)
  faultIf arguments.isEmpty
  expect .greater
  return .ofType arguments

/-- Type arguments in angles, where types may be written and an angle is in view. -/
def typeArguments? (rules : Rules) : Parser (List Node) := do
  if (← typed) && (← seesAny [.less, .shiftLeft]) then return [← typeArguments rules]
  else return []

/-- Whether the word in view is a modifier of the type parameter after it. -/
def seesParameterModifier : Parser Bool := do
  if ← seesAnyWord ["const", "in", "out"] then
    afterNext do return (← seesIdentifier) || (← seesAnyWord ["in"])
  else return false

def typeParameter (rules : Rules) : Parser Node := do
  let _ ← many do if ← seesParameterModifier then advance; return some () else return none
  let name ← identifier
  let bound ← optional (takeWord "extends") (rules .type)
  let default ← optional (take .assign) (rules .type)
  return .ofType ([name] ++ bound ++ default)

def typeParameters? (rules : Rules) : Parser (List Node) := do
  if (← typed) && (← sees .less) then
    expect .less
    let parameters ← commaList .greater (typeParameter rules)
    faultIf parameters.isEmpty
    expect .greater
    return parameters
  else return []

/-- A type after a colon, if there is one. -/
def annotation? (rules : Rules) : Parser (List Node) := do
  if (← typed) && (← sees .colon) then
    advance
    return [← rules .type]
  else return []

/-- Take the mark of a name that is set elsewhere, on the line in view. -/
def takeDefinite : Parser Unit := do
  if ← afterLineEnd then return else let _ ← takeTyped .not

/-- Whether a name in view is what a predicate such as `x is T` is about. -/
def seesPredicate : Parser Bool := do
  if (← seesIdentifier) || (← seesWord "this") then
    afterNext do return (← seesWord "is") && !(← afterLineEnd)
  else return false

/-- The type of a result, or a predicate about a parameter. -/
def resultType (rules : Rules) : Parser Node := do
  if ← seesPredicate then
    advance
    expectWord "is"
    return .ofType [← rules .type]
  else rules .type

/-- The type of a result after the sign, if there is one. -/
def resultAnnotation? (rules : Rules) (sign : Punctuator) : Parser (List Node) := do
  if (← typed) && (← sees sign) then
    advance
    return [← resultType rules]
  else return []

end ClassRename.Script
