import ClassRename.Script.Grammar.Declaration

/-!
# The grammar as a whole

Each kind of phrase has its rule, and a rule may call on every other. The knot is tied by a bound on
how deep phrases nest: a phrase at depth `n + 1` calls on phrases at depth `n`. A text of `n` bytes
nests fewer than `8 * n` phrases, since no more than a handful of rules hand over to each other
before a token is taken.
-/

namespace ClassRename.Script

open Script.Parser

/-- What decorators in view belong to: a class, perhaps an exported one. -/
def decoratedStatement (rules : Rules) (place : Place) : Parser Node := do
  let decorators ← decorators rules
  if ← seesWord "export" then exportDeclaration rules decorators
  else if ← seesWord "class" then classStatement rules place decorators
  else if ← seesTypedDeclaration then typedDeclaration rules decorators
  else fail

/-- A statement that begins with a word, or an expression. -/
def wordStatement (rules : Rules) (place : Place) (word : String) : Parser Node := do
  match word with
  | "if" => ifStatement rules
  | "for" => forStatement rules
  | "while" => whileStatement rules
  | "do" => doStatement rules
  | "continue" | "break" => jumpStatement
  | "return" => returnStatement rules
  | "throw" => throwStatement rules
  | "switch" => switchStatement rules
  | "try" => tryStatement rules
  | "with" =>
    advance
    let scope ← headExpression rules
    return .statement [scope, ← rules (.statement .alone)]
  | "debugger" =>
    advance
    endStatement
    return .statement []
  | "function" => functionStatement rules place .signatureAllowed
  | "class" => classStatement rules place []
  | "var" => variableStatement rules .var place
  | "const" =>
    if (← typed) && (← afterNext (seesWord "enum")) then typedDeclaration rules []
    else variableStatement rules .const place
  | "let" =>
    if ← seesLetDeclaration place then variableStatement rules .let place
    else expressionStatement rules
  | "export" => exportDeclaration rules []
  | "import" =>
    if ← afterNext (seesAny [.parenOpen, .dot]) then expressionStatement rules
    else importDeclaration
  | _ =>
    if ← seesAsyncFunction then functionStatement rules place .signatureAllowed
    else if ← seesTypedDeclaration then typedDeclaration rules []
    else if ← seesUsing then variableStatement rules .using place
    else if ← seesAwaitUsing then
      advance
      variableStatement rules .using place
    else expressionStatement rules

def statement (rules : Rules) (place : Place) : Parser Node := do
  match ← lexeme with
  | .punctuator .braceOpen => block rules
  | .punctuator .semicolon =>
    advance
    return .statement []
  | .punctuator .at => decoratedStatement rules place
  | .word word false => wordStatement rules place word
  | _ => expressionStatement rules

/-- The rule of each kind of phrase, given the rules that it calls on. -/
def ruleOf (rules : Rules) : Rules
  | .expression => expression rules
  | .assignment arrowTypes => assignment rules arrowTypes
  | .binary level => binary rules level
  | .unary => unary rules
  | .leftHandSide => leftHandSide rules
  | .constructed => constructed rules
  | .binding => binding rules
  | .element nested => element rules nested
  | .type => type rules
  | .tightType => tightType rules
  | .statement place => statement rules place

/-- The rules for phrases that nest at most to the depth. -/
def rulesTo : Nat → Rules
  | 0 => fun _ => fail
  | depth + 1 => ruleOf (rulesTo depth)

def program (rules : Rules) : Parser Node := do
  let statements ← many do
    if ← seesEnd then return none else return some (← rules (.statement .list))
  return .statement statements

/-- Read a script as a tree. A fault noted on the way refuses it, and so does a member
`name = value` that no pattern made use of. -/
def parse (dialect : Dialect) (text : String) : Except SyntaxError Node :=
  let chars := text.toList
  match program (rulesTo (8 * byteLength chars + 32)) (State.start dialect chars) with
  | .error error => .error error
  | .ok ⟨tree, state, _⟩ =>
    if state.faulted || tree.holdsDefaulted then .error ⟨state.token.span.start⟩ else .ok tree

end ClassRename.Script
