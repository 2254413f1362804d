import ClassRename.Script.Grammar.Literal

/-!
# Elements

Elements and fragments, with their attributes and the text, expressions and elements between their
tags. Names may hold hyphens, attribute strings have no escapes, and closing tags repeat the name of
the opening tag.
-/

namespace ClassRename.Script

open Script.Parser

def markupWord : Parser String := do
  asMarkupName
  match ← lexeme with
  | .word name _ => advance; return name
  | _ => fail

/-- The name of an element: one word, two with a colon between, or several with dots between. -/
def elementName : Parser String := do
  let first ← markupWord
  if ← take .colon then return first ++ ":" ++ (← markupWord)
  else
    iterate (fun name => do
      if ← take .dot then return some (name ++ "." ++ (← markupWord)) else return none) first

def attributeName : Parser AttributeName := do
  let first ← markupWord
  if ← take .colon then return .namespaced first (← markupWord) else return .plain first

/-- Take a closing sign; between elements, text follows it. -/
def expectClosing (nested : Bool) (sign : Punctuator) : Parser Unit :=
  if nested then expectBeforeText sign else expect sign

/-- What stands in the braces of a container; commas are no operators in it. -/
def contained (rules : Rules) (nested : Bool) : Parser Node := do
  if ← sees .braceClose then return .absent
  else if nested && (← sees .ellipsis) then
    advance
    return .compound .spread [← rules .expression]
  else
    let inner ← rules .expression
    faultIf (inner.form? == some .sequence)
    return inner

def container (rules : Rules) (nested : Bool) : Parser Node := do
  expect .braceOpen
  let inner ← within ({ · with inOperator := true, decorating := false }) (contained rules nested)
  expectClosing nested .braceClose
  return .container inner

def attributeString : Parser Node := do
  let token ← takeToken (· matches .attributeString _)
  match token.val.lexeme with
  | .attributeString raw => return .attributeString ⟨token.val.span, raw⟩
  | _ => fail

def attributeValue (rules : Rules) : Parser Node := do
  match ← lexeme with
  | .attributeString _ => attributeString
  | .punctuator .braceOpen => container rules false
  | .punctuator .less => rules (.element false)
  | _ => fail

/-- An attribute, or the attributes that an object holds. -/
def elementAttribute (rules : Rules) : Parser Node := do
  if ← take .braceOpen then
    expect .ellipsis
    let inner ← within ({ · with inOperator := true, decorating := false }) (rules .expression)
    expect .braceClose
    return .compound .spread [inner]
  else
    let name ← attributeName
    if ← sees .assign then
      advanceTo .attributeValue
      return .attribute name (← attributeValue rules)
    else return .attribute name .absent

def elementChildren (rules : Rules) : Parser (List Node) := many do
  match ← lexeme with
  | .markupText =>
    advanceBetweenTags
    return some .absent
  | .punctuator .braceOpen => return some (← container rules true)
  | .punctuator .less =>
    if ← afterNext (sees .divide) then return none
    else return some (← rules (.element true))
  | _ => fail

/-- The closing tag of the element with the name, or of a fragment. -/
def closingTag (nested : Bool) (name : Option String) : Parser Unit := do
  expect .less
  expect .divide
  let closing ← if ← sees .greater then pure none else some <$> elementName
  faultIf (closing != name)
  expectClosing nested .greater

/-- An element or fragment; `nested` when it stands between the tags of another. -/
def element (rules : Rules) (nested : Bool) : Parser Node := do
  expect .less
  if ← sees .greater then
    expectBeforeText .greater
    let children ← elementChildren rules
    closingTag nested none
    return .compound .element children
  else
    let name ← elementName
    let types ← typeArguments? rules
    let attributes ← many do
      if (← seesAny [.less, .greater, .divide]) || (← seesEnd) then return none
      else return some (← elementAttribute rules)
    if ← take .divide then
      expectClosing nested .greater
      return .compound .element (types ++ attributes)
    else
      expectBeforeText .greater
      let children ← elementChildren rules
      closingTag nested (some name)
      return .compound .element (types ++ attributes ++ children)

end ClassRename.Script
