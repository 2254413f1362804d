import ClassRename.Script.Grammar.Class
import ClassRename.Script.Grammar.Markup
import ClassRename.Script.Grammar.Target

/-!
# Expressions

The grammar of expressions, from names and literals up to assignments and lists with commas.
-/

namespace ClassRename.Script

open Script.Parser

/-! ## Values -/

def parenthesized (rules : Rules) : Parser Node := do
  expect .parenOpen
  let inner ← within ({ · with inOperator := true, decorating := false }) (rules .expression)
  expect .parenClose
  return .parenthesized inner

def seesAsyncFunction : Parser Bool := do
  if ← seesWord "async" then
    afterNext do return (← seesWord "function") && !(← afterLineEnd)
  else return false

def arguments (rules : Rules) : Parser (List Node) := do
  expect .parenOpen
  let arguments ← within ({ · with inOperator := true, decorating := false }) <|
    commaList .parenClose do
      if ← sees .ellipsis then spread rules else rules (.assignment true)
  expect .parenClose
  return arguments

/-- `import(...)` as an expression, or `import.meta`. -/
def importExpression (rules : Rules) : Parser Node := do
  expectWord "import"
  if ← take .dot then
    if ← takeWord "meta" then return .atom
    else
      failIf (!(← seesAnyWord ["source", "defer"]))
      advance
      return .compound .construction (← arguments rules)
  else
    let arguments ← arguments rules
    failIf (arguments.isEmpty || arguments.length > 2)
    return .compound .construction arguments

/-- A name, literal, function, class, or expression in parentheses. -/
def primary (rules : Rules) : Parser Node := do
  match ← lexeme with
  | .word name _ =>
    if ["this", "null", "true", "false"].contains name then advance; return .atom
    else if name == "function" then functionExpression rules
    else if name == "class" then classFrom rules [] false
    else if name == "import" then importExpression rules
    else if name == "super" then
      advance
      failIf (!(← seesAny [.dot, .bracketOpen, .parenOpen]))
      return .atom
    else if name == "new" then rules .constructed
    else if ← seesAsyncFunction then functionExpression rules
    else identifier
  | .number | .bigint => advance; return .atom
  | .string _ => stringLiteral
  | .template _ _ => template rules false
  | .punctuator .parenOpen => parenthesized rules
  | .punctuator .bracketOpen => arrayLiteral rules
  | .punctuator .braceOpen => objectLiteral rules
  | .punctuator .divide | .punctuator .divideAssign =>
    asRegex
    if (← lexeme) == .regex then advance; return .atom else fail
  | .punctuator .at =>
    let decorators ← decorators rules
    classFrom rules decorators false
  | .punctuator .less => if ← markup then rules (.element false) else fail
  | _ => fail

/-! ## Members and calls -/

def seesBinaryOperator : Parser Bool := do
  match ← lexeme with
  | .word name false =>
    return name == "instanceof" || (name == "in" && (← context).inOperator) ||
      ((name == "as" || name == "satisfies") && (← typed))
  | .punctuator sign =>
    return [Punctuator.coalesce, .or, .and, .bitOr, .bitXor, .bitAnd, .equal, .notEqual, .identical,
      .notIdentical, .less, .greater, .lessEqual, .greaterEqual, .shiftLeft, .plus, .minus, .times,
      .divide, .modulo, .power].contains sign
  | _ => return false

def seesExpressionStart : Parser Bool := do
  match ← lexeme with
  | .word name _ =>
    return !reservedWords.contains name ||
      ["this", "null", "true", "false", "function", "class", "new", "super", "typeof", "void",
        "delete", "import"].contains name
  | .privateName _ | .number | .bigint | .string _ | .template _ _ => return true
  | .punctuator sign =>
    return [Punctuator.parenOpen, .bracketOpen, .braceOpen, .divide, .divideAssign, .plus, .minus,
      .not, .bitNot, .increment, .decrement, .less, .at].contains sign
  | _ => return false

/-- Type arguments after a value. What follows has to tell them from comparisons: an opening
parenthesis or a template, a line end, a binary operator, or what begins no expression. -/
def valueTypeArguments (rules : Rules) : Parser Node := do
  asOpeningAngle
  expect .less
  let types ← commaList .greater (rules .type)
  failIf (!(← sees .greater))
  failIf ((joinAngles (← rest)).1 == .greaterEqual)
  advance
  match ← lexeme with
  | .punctuator .parenOpen | .template _ _ => return .ofType types
  | .punctuator .less | .punctuator .greater | .punctuator .plus | .punctuator .minus => fail
  | _ =>
    failIf (!((← afterLineEnd) || (← seesBinaryOperator) || !(← seesExpressionStart)))
    return .ofType types

/-- A value, and whether it is part of a chain that stops at a missing value. -/
abbrev Chained := Node × Bool

/-- Go on from a value after type arguments. -/
def afterTypeArguments (rules : Rules) (calls : Bool) (value types : Node) : Parser Node := do
  match ← lexeme with
  | .punctuator .parenOpen =>
    let instantiated := .compound .instantiation [value, types]
    if calls then return .call instantiated (← arguments rules) else return instantiated
  | .template _ _ => return .compound .tagged [value, types, ← template rules true]
  | _ => return .compound .instantiation [value, types]

/-- The name of a member after a dot, which may be private. -/
def memberName : Parser Node := do
  match ← lexeme with
  | .privateName _ => advance; return .atom
  | _ => anyName

def computedName (rules : Rules) : Parser Node := do
  expect .bracketOpen
  let key ← within ({ · with inOperator := true }) (rules .expression)
  expect .bracketClose
  return key

def optionalLink (rules : Rules) (value : Node) : Parser Node := do
  match ← lexeme with
  | .punctuator .parenOpen => return .call value (← arguments rules)
  | .punctuator .bracketOpen => return .compound .member [value, ← computedName rules]
  | .punctuator .less | .punctuator .shiftLeft =>
    failIf (!(← typed))
    let types ← valueTypeArguments rules
    return .call (.compound .instantiation [value, types]) (← arguments rules)
  | _ => return .compound .member [value, ← memberName]

/-- One step from a value to its member, or where `calls` allows it to its call. -/
def memberStep (rules : Rules) (calls : Bool) (chain : Chained) : Parser (Option Chained) := do
  let (value, chained) := chain
  match ← lexeme with
  | .punctuator .dot =>
    advance
    return some (.compound .member [value, ← memberName], chained)
  | .punctuator .bracketOpen =>
    if (← context).decorating then return none
    else return some (.compound .member [value, ← computedName rules], chained)
  | .punctuator .not =>
    if (← typed) && !(← afterLineEnd) then
      advance
      return some (.compound .ascription [value], chained)
    else return none
  | .template _ _ =>
    faultIf chained
    return some (.compound .tagged [value, ← template rules true], chained)
  | .punctuator .less | .punctuator .shiftLeft =>
    if ← typed then
      match ← attempt (valueTypeArguments rules) with
      | some types => return some (← afterTypeArguments rules calls value types, chained)
      | none => return none
    else return none
  | .punctuator .parenOpen =>
    if calls then return some (.call value (← arguments rules), chained) else return none
  | .punctuator .questionDot =>
    if calls then
      advance
      return some (← optionalLink rules value, true)
    else return none
  | _ => return none

/-- A value with all the members and calls that follow it. -/
def leftHandSide (rules : Rules) : Parser Node := do
  let (value, chained) ← iterate (memberStep rules true) (← primary rules, false)
  if chained then return .compound .optionalChain [value] else return value

def constructed (rules : Rules) : Parser Node := do
  expectWord "new"
  if ← take .dot then
    expectWord "target"
    return .atom
  else
    let (maker, _) ← iterate (memberStep rules false) (← primary rules, false)
    failIf (← sees .questionDot)
    let arguments ← optionalList (sees .parenOpen) (arguments rules)
    return .compound .construction (maker :: arguments)

/-! ## Operators -/

/-- Whether `await` in view is an operator: where it is none, a name or literal right after it still
makes it one, and the program faulty. -/
def seesAwait : Parser Bool := do
  if ← seesWord "await" then
    if (← context).awaiting then return true
    else afterNext do
      match ← lexeme with
      | .word _ _ | .number | .bigint | .string _ => return !(← afterLineEnd)
      | _ => return false
  else return false

def seesYield : Parser Bool := do
  if ← seesWord "yield" then
    if (← context).yielding then return true
    else afterNext do
      match ← lexeme with
      | .word _ _ | .number | .bigint | .string _ => return !(← afterLineEnd)
      | _ => return false
  else return false

/-- A unary operator with its operand, or a value that `++` or `--` may follow. -/
def unary (rules : Rules) : Parser Node := do
  if ← seesAny [.increment, .decrement] then
    advance
    return .compound .update [← simpleTarget (← rules .unary)]
  else if (← seesAny [.plus, .minus, .not, .bitNot]) ||
      (← seesAnyWord ["typeof", "void", "delete"]) then
    advance
    return .compound .unary [← rules .unary]
  else if (← sees .less) && !(← markup) then
    failIf (!(← typed))
    advance
    let type ← rules .type
    expect .greater
    return .compound .ascription [.ofType [type], ← rules .unary]
  else if ← seesAwait then
    faultIf (!(← context).awaiting)
    advance
    return .compound .await [← within ({ · with awaiting := true }) (rules .unary)]
  else
    let value ← rules .leftHandSide
    if (← seesAny [.increment, .decrement]) && !(← afterLineEnd) then
      let target ← simpleTarget value
      advance
      return .compound .update [target]
    else return value

/-- The level of a binary operator; a higher one binds tighter. -/
def operatorLevel? : Punctuator → Option Nat
  | .coalesce => some 1
  | .or => some 2
  | .and => some 3
  | .bitOr => some 4
  | .bitXor => some 5
  | .bitAnd => some 6
  | .equal | .notEqual | .identical | .notIdentical => some 7
  | .less | .greater | .lessEqual | .greaterEqual => some 8
  | .shiftLeft | .shiftRight | .shiftRightUnsigned => some 9
  | .plus | .minus => some 10
  | .times | .divide | .modulo => some 11
  | .power => some 12
  | _ => none

/-- The sign in view, a closing angle joined with what follows it. -/
def operatorSign? : Parser (Option Punctuator) := do
  match ← lexeme with
  | .punctuator .greater => return some (joinAngles (← rest)).1
  | .punctuator sign => return some sign
  | _ => return none

/-- An operator between two operands that are read. Negated values and awaited values have no power,
and `??` does not mix with `||` and `&&`. -/
def joinOperands (sign : Punctuator) (left right : Node) : Parser Node := do
  match sign with
  | .coalesce =>
    faultIf (left.form? == some .logical || right.form? == some .logical)
    return .compound .coalesce [left, right]
  | .or | .and => return .compound .logical [left, right]
  | .power =>
    faultIf (left.form? == some .unary || left.form? == some .await)
    return .compound .binary [left, right]
  | _ => return .compound .binary [left, right]

/-- One step from a left operand over an operator that binds tighter than the level. -/
def operatorStep (rules : Rules) (level : Nat) (left : Node) : Parser (Option Node) := do
  match ← lexeme with
  | .word name false =>
    if level ≥ 8 then return none
    else if name == "instanceof" || (name == "in" && (← context).inOperator) then
      advance
      return some (.compound .binary [left, ← rules (.binary 8)])
    else if (name == "as" || name == "satisfies") && (← typed) && !(← afterLineEnd) then
      advance
      return some (.compound .ascription [left, .ofType [← rules .type]])
    else return none
  | _ =>
    match ← operatorSign? with
    | none => return none
    | some sign =>
      match operatorLevel? sign with
      | none => return none
      | some found =>
        if (if sign == .power then found < level else found ≤ level) then return none
        asOperator
        advance
        return some (← joinOperands sign left (← rules (.binary found)))

/-- The first operand. A private name is one before `in`. -/
def leftOperand (rules : Rules) : Parser Node := do
  match ← lexeme with
  | .privateName _ =>
    advance
    failIf (!(← seesWord "in"))
    return .atom
  | _ => rules .unary

/-- Binary operators that bind tighter than the level, and their operands. -/
def binary (rules : Rules) (level : Nat) : Parser Node := do
  iterate (operatorStep rules level) (← leftOperand rules)

/-! ## Arrow functions -/

inductive ArrowGuess where
  | yes | no | maybe
  deriving DecidableEq, Repr

/-- Ask what the tokens after the one in view say and stay here. -/
def guessAfterNext (question : Parser ArrowGuess) : Parser ArrowGuess :=
  aheadOr .no do advance; question

/-- Whether what an opening parenthesis in view begins are the parameters of an arrow function. -/
def guessParameters : Parser ArrowGuess := guessAfterNext do
  match ← lexeme with
  | .punctuator .parenClose =>
    advance
    if ← seesAny [.arrow, .braceOpen] then return .yes
    else if (← typed) && (← sees .colon) then return .maybe
    else return .no
  | .punctuator .bracketOpen | .punctuator .braceOpen => return .maybe
  | .punctuator .ellipsis =>
    advance
    if (← seesIdentifier) then return .yes
    else if ← seesAny [.bracketOpen, .braceOpen] then return .maybe
    else return .no
  | .punctuator .at => return .maybe
  | .word name _ =>
    let isModifier := propertyModifiers.contains name
    let isName := name == "this" || !reservedWords.contains name
    advance
    if isModifier && (← seesIdentifier) then
      if ← afterNext (seesWord "as") then return .no else return .yes
    else if !isName then return .no
    else if ← sees .colon then return .yes
    else if ← take .question then
      if ← seesAny [.colon, .comma, .assign, .parenClose] then return .yes else return .no
    else if ← seesAny [.comma, .assign, .parenClose] then return .maybe
    else return .no
  | _ => return .no

/-- Whether what an opening angle in view begins are the type parameters of an arrow function. With
elements about, only a bound, a comma or a default tells them from a tag. -/
def guessTypeParameters : Parser ArrowGuess := guessAfterNext do
  if !(← typed) then return .no
  let _ ← takeWord "const"
  if !(← seesIdentifier) then return .no
  else if ← markup then
    advance
    if ← takeWord "extends" then
      if ← seesAny [.assign, .greater, .divide] then return .no else return .yes
    else if ← seesAny [.comma, .assign] then return .yes
    else return .no
  else return .maybe

/-- Whether an arrow function with parentheses is in view. -/
def guessArrow : Parser ArrowGuess := do
  if ← sees .parenOpen then guessParameters
  else if ← sees .less then guessTypeParameters
  else if ← seesWord "async" then
    guessAfterNext do
      if ← afterLineEnd then return .no
      else if ← sees .parenOpen then guessParameters
      else if ← sees .less then guessTypeParameters
      else return .no
  else return .no

def arrowBody (rules : Rules) (awaiting arrowTypes : Bool) : Parser Node := do
  failIf (!(← sees .arrow))
  faultIf (← afterLineEnd)
  advance
  if ← sees .braceOpen then
    within (Context.ofFunction awaiting false) (functionBody rules)
  else
    within ({ · with awaiting, yielding := false }) (rules (.assignment arrowTypes))

structure ArrowHead where
  parameters : List Node
  result : List Node

def arrowHead (rules : Rules) : Parser ArrowHead := do
  let typeParameters ← typeParameters? rules
  let parameters ← parameters rules
  let result ← resultAnnotation? rules .colon
  return { parameters := typeParameters ++ parameters, result }

/-- An arrow function with parentheses. Where `arrowTypes` is false, a result type is one only if a
colon follows the body. -/
def arrowFunction (rules : Rules) (arrowTypes : Bool) : Parser Node := do
  let awaiting ← takeWord "async"
  let head ← within (Context.ofFunction awaiting false) (arrowHead rules)
  let body ← arrowBody rules awaiting arrowTypes
  failIf (!arrowTypes && !head.result.isEmpty && !(← sees .colon))
  return .compound .arrowFunction (head.parameters ++ head.result ++ [body])

def arrowFunction? (rules : Rules) (arrowTypes : Bool) : Parser (Option Node) := do
  match ← guessArrow with
  | .no => return none
  | .yes => return some (← arrowFunction rules arrowTypes)
  | .maybe => attempt (arrowFunction rules arrowTypes)

/-- Whether an `async` arrow function with a bare parameter is in view. -/
def seesAsyncArrow : Parser Bool := do
  if ← seesWord "async" then
    afterNext do
      if (← seesIdentifier) && !(← afterLineEnd) then
        advance
        return (← sees .arrow) && !(← afterLineEnd)
      else return false
  else return false

/-! ## Assignments and lists -/

def seesYieldEnd : Parser Bool := do
  if ← seesAny [.semicolon, .bracketClose, .braceClose, .parenClose, .colon, .comma] then return true
  else if ← seesEnd then return true
  else seesWord "in"

def yieldExpression (rules : Rules) : Parser Node := do
  faultIf (!(← context).yielding)
  expectWord "yield"
  if ← afterLineEnd then return .compound .yield []
  else
    let delegates ← take .times
    if (← seesYieldEnd) && !delegates then return .compound .yield []
    else return .compound .yield [← rules (.assignment true)]

def assignmentRest (rules : Rules) (arrowTypes : Bool) (left : Node) : Parser Node := do
  match ← operatorSign? with
  | some .assign =>
    let target ← target left
    advance
    return .compound .assignment [target, ← rules (.assignment arrowTypes)]
  | some .operatorAssign | some .divideAssign =>
    let target ← simpleTarget left
    asOperator
    advance
    return .compound .update [target, ← rules (.assignment arrowTypes)]
  | some .question =>
    advance
    let yes ← within ({ · with inOperator := true }) (rules (.assignment false))
    expect .colon
    let no ← rules (.assignment arrowTypes)
    return .compound .conditional [left, yes, no]
  | _ => return left

/-- An expression without a comma. -/
def assignment (rules : Rules) (arrowTypes : Bool) : Parser Node := do
  if ← seesYield then yieldExpression rules
  else
    match ← arrowFunction? rules arrowTypes with
    | some arrow => return arrow
    | none =>
      if ← seesAsyncArrow then
        advance
        let parameter ← identifier
        return .compound .arrowFunction [parameter, ← arrowBody rules true arrowTypes]
      else
        let left ← rules (.binary 0)
        match left with
        | .identifier _ =>
          if ← sees .arrow then
            return .compound .arrowFunction [left, ← arrowBody rules false arrowTypes]
          else assignmentRest rules arrowTypes left
        | _ => assignmentRest rules arrowTypes left

def expression (rules : Rules) : Parser Node := do
  let first ← rules (.assignment true)
  let later ← many do
    if ← take .comma then return some (← rules (.assignment true)) else return none
  if later.isEmpty then return first else return .compound .sequence (first :: later)

end ClassRename.Script
