import ClassRename.Script.Grammar.Reader

/-!
# Names

A name is a word. Reserved words name nothing by themselves, but may follow a dot or stand as the
key of a member.
-/

namespace ClassRename.Script

open Script.Parser

/-- The words that no variable may have as its name. -/
def reservedWords : List String :=
  ["break", "case", "catch", "class", "const", "continue", "debugger", "default", "delete", "do",
    "else", "enum", "export", "extends", "false", "finally", "for", "function", "if", "import", "in",
    "instanceof", "new", "null", "return", "super", "switch", "this", "throw", "true", "try",
    "typeof", "var", "void", "while", "with"]

def seesIdentifier : Parser Bool := do
  match ← lexeme with
  | .word name _ => return !reservedWords.contains name
  | _ => return false

def seesAnyName : Parser Bool := do
  match ← lexeme with
  | .word _ _ => return true
  | _ => return false

def identifier : Parser Node := do
  match ← lexeme with
  | .word name _ =>
    failIf (reservedWords.contains name)
    let context ← context
    faultIf (name == "await" && context.awaiting)
    faultIf (name == "yield" && context.yielding)
    advance
    return .identifier name
  | _ => fail

/-- Any word, as it may follow a dot. -/
def anyName : Parser Node := do
  match ← lexeme with
  | .word name _ => advance; return .identifier name
  | _ => fail

def stringLiteral : Parser Node := do
  let token ← takeToken (· matches .string _)
  match token.val.lexeme with
  | .string value => return .string ⟨token.val.span, value⟩
  | _ => fail

/-- A name or a string, as the outer name of an export. -/
def externalName : Parser Node := do
  match ← lexeme with
  | .string _ => stringLiteral
  | _ => anyName

/-- Whether the token in view begins the key of a member. -/
def seesKey : Parser Bool := do
  match ← lexeme with
  | .word _ _ | .privateName _ | .string _ | .number | .bigint => return true
  | .punctuator sign => return sign == .bracketOpen
  | _ => return false

/-- The key of a member: a name, string or number, or an expression in brackets. -/
def memberKey (rules : Rules) : Parser Node := do
  match ← lexeme with
  | .word _ _ => anyName
  | .string _ => stringLiteral
  | .number | .bigint => advance; return .atom
  | .punctuator .bracketOpen =>
    advance
    let key ← within ({ · with inOperator := true }) (rules (.assignment true))
    expect .bracketClose
    return key
  | _ => fail

/-- The key of a class member, which may be private. -/
def classMemberKey (rules : Rules) : Parser Node := do
  match ← lexeme with
  | .privateName _ => advance; return .atom
  | _ => memberKey rules

end ClassRename.Script
