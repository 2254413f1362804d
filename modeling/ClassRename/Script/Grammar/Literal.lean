import ClassRename.Script.Grammar.Type

/-!
# Functions and literals with parts

Templates, arrays, objects, and the functions that object members and expressions define.
-/

namespace ClassRename.Script

open Script.Parser

/-! ## Templates -/

/-- A template in view. Only after a tag may its escapes be malformed. -/
def template (rules : Rules) (hasTag : Bool) : Parser Node := do
  let substitutions ← many do
    match ← lexeme with
    | .template closed wellEscaped =>
      faultIf (!wellEscaped && !hasTag)
      advance
      if closed then return none
      else
        let inner ← within ({ · with inOperator := true, decorating := false }) (rules .expression)
        failIf (!(← sees .braceClose))
        asTemplateRest
        return some inner
    | _ => fail
  return .compound .template substitutions

/-! ## Functions -/

/-- The context of a function's parameters and body. -/
def Context.ofFunction (awaiting yielding : Bool) (context : Context) : Context :=
  { context with
    inOperator := true, awaiting, yielding, decorating := false, conditionalTypes := true }

def functionBody (rules : Rules) : Parser Node := do
  expect .braceOpen
  let statements ← within ({ · with returning := true }) <|
    upTo .braceClose (rules (.statement .list))
  expect .braceClose
  return .statement statements

/-- Whether a function has to have a body. -/
inductive BodyNeed where
  /-- It has to. -/
  | required
  /-- Where types may be written, a signature alone will do. -/
  | signatureAllowed
  /-- It is only declared, so there is none. -/
  | forbidden
  deriving DecidableEq, Repr

/-- Whether there is a body as there has to be; a signature ends like a statement. -/
def checkBody (need : BodyNeed) (hasBody : Bool) : Parser Unit := do
  if hasBody then faultIf (need == .forbidden)
  else
    failIf (need == .required || !(← typed))
    endStatement

structure FunctionParts where
  /-- How many parameters it has. -/
  arity : Nat
  hasBody : Bool
  parts : List Node

def functionParts (rules : Rules) : Parser FunctionParts := do
  let typeParameters ← typeParameters? rules
  let parameters ← parameters rules
  let result ← resultAnnotation? rules .colon
  let body ← optional (sees .braceOpen) (functionBody rules)
  return {
    arity := parameters.length
    hasBody := !body.isEmpty
    parts := typeParameters ++ parameters ++ result ++ body }

/-- A function after its name, with a body if there has to be one. -/
def functionRest (rules : Rules) (awaiting yielding : Bool) (need : BodyNeed) :
    Parser FunctionParts := do
  let function ← within (Context.ofFunction awaiting yielding) (functionParts rules)
  checkBody need function.hasBody
  return function

/-- A function from the word `function` on; its name is read by `name`. -/
def functionFrom (rules : Rules) (awaiting : Bool) (need : BodyNeed)
    (name : (yielding : Bool) → Parser (List Node)) : Parser Node := do
  expectWord "function"
  let yielding ← take .times
  let name ← name yielding
  let function ← functionRest rules awaiting yielding need
  return .compound .function (name ++ function.parts)

def functionName? (awaiting yielding : Bool) : Parser (List Node) := do
  if ← seesIdentifier then
    return [← within ({ · with awaiting, yielding }) identifier]
  else return []

def functionExpression (rules : Rules) : Parser Node := do
  let awaiting ← takeWord "async"
  functionFrom rules awaiting .signatureAllowed (functionName? awaiting)

def method (rules : Rules) (awaiting yielding : Bool) (need : BodyNeed) : Parser Node := do
  let function ← functionRest rules awaiting yielding need
  return .compound .function function.parts

/-- A getter or setter after its key: a getter has no parameter and a setter has exactly one. -/
def accessor (rules : Rules) (reads : Bool) (need : BodyNeed) : Parser Node := do
  let function ← functionRest rules false false need
  faultIf (function.arity != if reads then 0 else 1)
  return .compound .function function.parts

/-! ## Arrays -/

/-- `...` and its argument. A comma after it leaves an absent part: what takes the rest of a value
must not have one. -/
def spread (rules : Rules) : Parser Node := do
  expect .ellipsis
  let argument ← within ({ · with inOperator := true }) (rules (.assignment true))
  return .compound .spread (if ← sees .comma then [argument, .absent] else [argument])

def arrayLiteral (rules : Rules) : Parser Node := do
  expect .bracketOpen
  let elements ← within ({ · with inOperator := true, decorating := false }) <|
    commaList .bracketClose do
      if ← sees .comma then return .absent
      else if ← sees .ellipsis then spread rules
      else rules (.assignment true)
  expect .bracketClose
  return .compound .array elements

/-! ## Objects -/

def seesMemberModifier (name : String) : Parser Bool := do
  if ← seesWord name then
    afterNext do return (← seesKey) || (← sees .times)
  else return false

/-- Take `async` where it is a modifier of the member after it. -/
def takeAsync : Parser Bool := do
  if (← seesMemberModifier "async") && !(← afterNext afterLineEnd) then advance; return true
  else return false

/-- What a member of an object literal is without a value: its name stands for its value, perhaps
with a default for a pattern. -/
def shorthand (rules : Rules) (key : Node) : Parser Node := do
  match key with
  | .identifier _ =>
    match ← initializer? rules with
    | [] => return .property key key
    | default => return .property key (.compound .defaulted (key :: default))
  | _ => fail

def objectMember (rules : Rules) : Parser Node := do
  if ← sees .ellipsis then spread rules
  else if (← seesWord "get") && (← afterNext seesKey) then
    advance
    let key ← memberKey rules
    return .property key (← accessor rules true .required)
  else if (← seesWord "set") && (← afterNext seesKey) then
    advance
    let key ← memberKey rules
    return .property key (← accessor rules false .required)
  else
    let awaiting ← takeAsync
    let yielding ← take .times
    let seesName ← seesIdentifier
    let key ← memberKey rules
    if awaiting || yielding || (← seesAny [.parenOpen, .less]) then
      return .property key (← method rules awaiting yielding .required)
    else if ← take .colon then
      return .property key (← rules (.assignment true))
    else
      failIf (!seesName)
      shorthand rules key

def objectLiteral (rules : Rules) : Parser Node := do
  let opening ← takeToken (· == .punctuator .braceOpen)
  let members ← within ({ · with inOperator := true, decorating := false }) <|
    commaList .braceClose (objectMember rules)
  let stop := (← token).span.stop
  expect .braceClose
  return .object ⟨opening.val.span.start, stop⟩ members

end ClassRename.Script
