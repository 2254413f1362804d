import ClassRename.Script.Grammar.Expression

/-!
# Statements

Blocks, branches, loops, jumps, and the declarations of variables, functions and classes.
-/

namespace ClassRename.Script

open Script.Parser

/-! ## Variables -/

inductive VariableKind where
  | var | let | const | using
  deriving DecidableEq, Repr

/-- One variable of a declaration. A constant needs a value unless the place is ambient, and so does
a pattern; the head of a loop gives the value in another way. -/
def declarator (rules : Rules) (kind : VariableKind) (inLoopHead : Bool) : Parser Node := do
  let target ← rules .binding
  takeDefinite
  let type ← annotation? rules
  let value ← optional (take .assign) (rules (.assignment true))
  let isPattern := target.form? == some .pattern
  let needsValue := isPattern || ((kind == .const || kind == .using) && !(← context).ambient)
  faultIf (value.isEmpty && !inLoopHead && needsValue)
  return .compound .pattern ([target] ++ type ++ value)

def declarators (rules : Rules) (kind : VariableKind) (inLoopHead : Bool) :
    Parser (List Node) :=
  commaSeparated (declarator rules kind inLoopHead)

def variableStatement (rules : Rules) (kind : VariableKind) (place : Place) : Parser Node := do
  advance
  let declarators ← declarators rules kind false
  endStatement
  faultIf (place == .alone && kind != .var)
  return .statement declarators

/-- Whether `let` in view begins a declaration and is no name. -/
def seesLetDeclaration (place : Place) : Parser Bool := do
  if ← seesWord "let" then
    afterNext do
      if (← seesBinaryOperator) && !(← seesAnyWord ["as", "satisfies"]) then return false
      else if ← seesAny [.dot, .parenOpen, .semicolon, .assign, .operatorAssign,
          .divideAssign] then return false
      else if place == .alone then sees .bracketOpen
      else return true
  else return false

def seesUsing : Parser Bool := do
  if ← seesWord "using" then
    afterNext do return (← seesIdentifier) && !(← afterLineEnd)
  else return false

def seesAwaitUsing : Parser Bool := do
  if ← seesWord "await" then
    afterNext do return !(← afterLineEnd) && (← seesUsing)
  else return false

/-! ## Blocks and bodies -/

def block (rules : Rules) : Parser Node := do
  expect .braceOpen
  let statements ← upTo .braceClose (rules (.statement .list))
  expect .braceClose
  return .statement statements

def headExpression (rules : Rules) : Parser Node := do
  expect .parenOpen
  let inner ← within ({ · with inOperator := true }) (rules .expression)
  expect .parenClose
  return inner

def functionStatement (rules : Rules) (place : Place) (need : BodyNeed) : Parser Node := do
  let awaiting ← takeWord "async"
  let name := fun (yielding : Bool) => do
    faultIf (place == .alone && (awaiting || yielding))
    return [← identifier]
  functionFrom rules awaiting need name

def classStatement (rules : Rules) (place : Place) (decorators : List Node) : Parser Node := do
  faultIf (place == .alone)
  classFrom rules decorators true

def ifStatement (rules : Rules) : Parser Node := do
  expectWord "if"
  let condition ← headExpression rules
  let yes ← rules (.statement .alone)
  let no ← optional (takeWord "else") (rules (.statement .alone))
  return .statement ([condition, yes] ++ no)

/-- What a case of a switch is for; nothing in the default case. -/
def caseLabel (rules : Rules) : Parser (List Node) := do
  if ← takeWord "default" then return []
  else
    expectWord "case"
    return [← rules .expression]

def switchCase (rules : Rules) : Parser Node := do
  let label ← caseLabel rules
  expect .colon
  let statements ← many do
    if (← sees .braceClose) || (← seesAnyWord ["case", "default"]) then return none
    else return some (← rules (.statement .list))
  return .statement (label ++ statements)

def switchStatement (rules : Rules) : Parser Node := do
  expectWord "switch"
  let value ← headExpression rules
  expect .braceOpen
  let cases ← upTo .braceClose (switchCase rules)
  expect .braceClose
  return .statement (value :: cases)

/-- What a handler calls the thrown value, after the opening parenthesis. -/
def catchParameter (rules : Rules) : Parser (List Node) := do
  let target ← rules .binding
  let type ← annotation? rules
  expect .parenClose
  return target :: type

def catchClause (rules : Rules) : Parser (List Node) := do
  let parameter ← optionalList (take .parenOpen) (catchParameter rules)
  return parameter ++ [← block rules]

def tryStatement (rules : Rules) : Parser Node := do
  expectWord "try"
  let body ← block rules
  let handler ← optionalList (takeWord "catch") (catchClause rules)
  let final ← optional (takeWord "finally") (block rules)
  faultIf (handler.isEmpty && final.isEmpty)
  return .statement ([body] ++ handler ++ final)

/-! ## Loops -/

/-- The value that a loop goes over, from `in` or `of` on. -/
def loopedValue (rules : Rules) : Parser Node := do
  if ← takeWord "in" then rules .expression
  else
    expectWord "of"
    rules (.assignment true)

/-- The rest of a loop over the parts of a value, from `in` or `of` on; only the latter can await
them. -/
def eachLoop (rules : Rules) (awaits : Bool) (head : List Node) : Parser Node := do
  faultIf (awaits && !(← seesWord "of"))
  let value ← loopedValue rules
  expect .parenClose
  let body ← rules (.statement .alone)
  return .statement (head ++ [value, body])

/-- The rest of a loop with a condition and a step, from the first semicolon on. -/
def countingLoop (rules : Rules) (awaits : Bool) (head : List Node) : Parser Node := do
  expect .semicolon
  let condition ← optional (return !(← sees .semicolon)) (rules .expression)
  expect .semicolon
  let step ← optional (return !(← sees .parenClose)) (rules .expression)
  expect .parenClose
  faultIf awaits
  let body ← rules (.statement .alone)
  return .statement (head ++ condition ++ step ++ [body])

def declaringLoop (rules : Rules) (kind : VariableKind) (awaits : Bool) : Parser Node := do
  let declarators ← within ({ · with inOperator := false }) (declarators rules kind true)
  if ← seesAnyWord ["in", "of"] then
    faultIf (declarators.length != 1)
    eachLoop rules awaits declarators
  else countingLoop rules awaits declarators

def seesLoopLet : Parser Bool := do
  if ← seesWord "let" then
    afterNext do return (← seesIdentifier) || (← seesAny [.braceOpen, .bracketOpen])
  else return false

def forStatement (rules : Rules) : Parser Node := do
  expectWord "for"
  let awaits ← takeWord "await"
  faultIf (awaits && !(← context).awaiting)
  expect .parenOpen
  if ← sees .semicolon then countingLoop rules awaits []
  else if ← takeWord "var" then declaringLoop rules .var awaits
  else if ← takeWord "const" then declaringLoop rules .const awaits
  else if ← seesLoopLet then
    advance
    declaringLoop rules .let awaits
  else if (← seesUsing) && !(← afterNext (seesWord "of")) then
    advance
    declaringLoop rules .using awaits
  else if ← seesAwaitUsing then
    advance
    advance
    declaringLoop rules .using awaits
  else
    let startsWithLet ← seesWord "let"
    let startsWithAsyncOf := (← seesWord "async") && (← afterNext (seesWord "of"))
    let head ← within ({ · with inOperator := false }) (rules .expression)
    if ← seesAnyWord ["in", "of"] then
      faultIf ((← seesWord "of") && (startsWithLet || (startsWithAsyncOf && !awaits)))
      eachLoop rules awaits [← target head]
    else countingLoop rules awaits [head]

/-- A loop that tests before each round. -/
def whileStatement (rules : Rules) : Parser Node := do
  expectWord "while"
  let condition ← headExpression rules
  return .statement [condition, ← rules (.statement .alone)]

/-- A loop that tests after each round. -/
def doStatement (rules : Rules) : Parser Node := do
  expectWord "do"
  let body ← rules (.statement .alone)
  expectWord "while"
  let condition ← headExpression rules
  let _ ← take .semicolon
  return .statement [body, condition]

/-! ## Jumps -/

/-- `break` or `continue` with the label that it may name. -/
def jumpStatement : Parser Node := do
  advance
  let _ ← optional (return !(← seesStatementEnd)) identifier
  endStatement
  return .statement []

def returnStatement (rules : Rules) : Parser Node := do
  expectWord "return"
  faultIf (!(← context).returning)
  let value ← optional (return !(← seesStatementEnd)) (rules .expression)
  endStatement
  return .statement value

/-- `throw` with its value, which begins on the same line. -/
def throwStatement (rules : Rules) : Parser Node := do
  expectWord "throw"
  faultIf (← afterLineEnd)
  let value ← rules .expression
  endStatement
  return .statement [value]

/-- An expression as a statement, or a name with a colon as the label of one. -/
def expressionStatement (rules : Rules) : Parser Node := do
  let value ← rules .expression
  match value with
  | .identifier _ =>
    if ← take .colon then return .statement [value, ← rules (.statement .alone)]
    else
      endStatement
      return .statement [value]
  | _ =>
    endStatement
    return .statement [value]

end ClassRename.Script
